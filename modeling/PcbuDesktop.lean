import PcbuDesktop.Lib.Runs
import PcbuDesktop.Basic.Text
import PcbuDesktop.Basic.JsonTable
import PcbuDesktop.Basic.Version
import PcbuDesktop.Basic.UnlockState
import PcbuDesktop.Basic.Packets
import PcbuDesktop.Lib.BigEndian
import PcbuDesktop.Lib.Polling
import PcbuDesktop.Stream.Framing
import PcbuDesktop.Lib.Buffer
import PcbuDesktop.Crypt.CryptUtils
import PcbuDesktop.Crypt.Envelope
import PcbuDesktop.Crypt.Secrets
import PcbuDesktop.Lib.KeyedList
import PcbuDesktop.Storage.PairedDevices
import PcbuDesktop.Storage.OrderedStore
import PcbuDesktop.Storage.Updates
import PcbuDesktop.Lib.ReadModifyWrite
import PcbuDesktop.Storage.Concurrent
import PcbuDesktop.Storage.Reported
import PcbuDesktop.Storage.AppSettings
import PcbuDesktop.Unlock.Connection
import PcbuDesktop.Unlock.Authenticity
import PcbuDesktop.Unlock.Acceptance
import PcbuDesktop.Unlock.Stability
import PcbuDesktop.Unlock.TcpServer
import PcbuDesktop.Unlock.TcpClient
import PcbuDesktop.Pairing.PairingServer
import PcbuDesktop.Pairing.Client
import PcbuDesktop.Pairing.VersionGate
import PcbuDesktop.Unlock.Reflection
import PcbuDesktop.Handler.Dispatch
import PcbuDesktop.Handler.Aggregate
import PcbuDesktop.Handler.RunServer
import PcbuDesktop.Handler.PhoneAnswer
import PcbuDesktop.Handler.Status
import PcbuDesktop.Storage.MachineId
import PcbuDesktop.Storage.Migration
import PcbuDesktop.Lib.Lines
import PcbuDesktop.Basic.StringUtils
import PcbuDesktop.Installer.PAMHelper
import PcbuDesktop.Installer.PAMOverlay
import PcbuDesktop.Installer.PAMEntry
import PcbuDesktop.Installer.ServiceSettings
import PcbuDesktop.Installer.Install
import PcbuDesktop.Lib.Pipe
import PcbuDesktop.Shell.IPCHelper
import PcbuDesktop.Shell.ElevatorCommands
import PcbuDesktop.Shell.ReplacingJson
import PcbuDesktop.Shell.Elevator
import PcbuDesktop.Shell.Exchange
import PcbuDesktop.Shell.InStep
import PcbuDesktop.Shell.Shell
import PcbuDesktop.Shell.Equivalence
import PcbuDesktop.Windows.UnlockCredential
import PcbuDesktop.Windows.UnlockListener
import PcbuDesktop.Windows.Retry
import PcbuDesktop.Mac.AgentController
import PcbuDesktop.Mac.Generations
import PcbuDesktop.Unlock.BtClient
import PcbuDesktop.Handler.PairErrors
import PcbuDesktop.Lib.ThreadCount
import PcbuDesktop.Unlock.ServerPhase
import PcbuDesktop.Unlock.ClientLimit
import PcbuDesktop.Handler.Broadcast
import PcbuDesktop.Ssh.SshPrompt
import PcbuDesktop.Web.HttpClient
import PcbuDesktop.Crypt.Timestamp
import PcbuDesktop.Stream.Resync
import PcbuDesktop.Ssh.RoundTrip
import PcbuDesktop.Auth.StatusLines
import PcbuDesktop.Auth.ServiceName
import PcbuDesktop.Basic.Utf8
import PcbuDesktop.Lib.Draining
import PcbuDesktop.Auth.ProgramName
import PcbuDesktop.Lib.Rewriting
import PcbuDesktop.Installer.Polkit
import PcbuDesktop.Web.Download
import PcbuDesktop.Lib.Transport
import PcbuDesktop.Stream.WebSocket
import PcbuDesktop.Mac.BluetoothRelay
import PcbuDesktop.Mac.RelayedBytes
import PcbuDesktop.Lib.PaddedOrder
import PcbuDesktop.Basic.VersionOrder
import PcbuDesktop.Basic.Replace
import PcbuDesktop.Installer.EnvHelper
import PcbuDesktop.Lib.BitStream
import PcbuDesktop.Basic.Base32
import PcbuDesktop.Pairing.PairingCode
import PcbuDesktop.Cli.CommandLine
import PcbuDesktop.Lib.Regex
import PcbuDesktop.Platform.NetworkHelper
import PcbuDesktop.Pairing.DeviceIds
import PcbuDesktop.Lib.ShellLexer
import PcbuDesktop.Lib.DoubleQuotes
import PcbuDesktop.Lib.ShellTemplate
import PcbuDesktop.Shell.ShellQuote
import PcbuDesktop.Installer.RootCommands
import PcbuDesktop.Lib.ShellList
import PcbuDesktop.Updater.FileCommands
import PcbuDesktop.Updater.Replace
import PcbuDesktop.Updater.InstallUpdate
import PcbuDesktop.Updater.AppBundle
import PcbuDesktop.Updater.Updater
import PcbuDesktop.Updater.Platforms
import PcbuDesktop.Handler.GetResult
import PcbuDesktop.Auth.PamChain
import PcbuDesktop.Pairing.CloudPoll
import PcbuDesktop.Pairing.CloudSession
import PcbuDesktop.Handler.PairedPassword
import PcbuDesktop.Windows.KerbLogon
import PcbuDesktop.Windows.Serialization
import PcbuDesktop.Mac.PasswordInjector
import PcbuDesktop.Installer.Uninstall
import PcbuDesktop.Installer.Restored
import PcbuDesktop.Installer.LifeCycle
