import PcbuDesktop.Unlock.Connection

set_option autoImplicit false

/-! # Which connections `GetResult` makes

The first part of `UnlockHandler::GetResult` (`handler/UnlockHandler.cpp`): the devices of the
user are filtered by the requested ids, and a loop makes the connections. Devices paired by
UDP share one `TCPUnlockServer` and one broadcaster, which are made when the first of them is
met. The loop is kept as it is written, with its variables as the state that it threads
through; `dispatchLoop_eq` gives the variables after it in closed form.

A device paired by cloud falls into the `default` branch, so it gets no connection, although
there is a client for it.
-/

namespace PcbuDesktop

/-! ## The loop -/

/-- An entry of the broadcaster, `UDPUnlockBroadcaster::AddDevice`. -/
structure BroadcastDevice where
  deviceID : Str
  devicePort : UInt16
  isManual : Bool
  deriving DecidableEq, Repr

/-- The connections that `GetResult` makes, with the arguments of their constructors. -/
inductive Connection where
  | tcpClient (ipAddress : Str) (port : UInt16) (device : PairedDevice)
  | btClient (address : Str) (device : PairedDevice) (isOtherClient : Bool)
  | tcpServer (allowedDevices : List PairedDevice)
  deriving DecidableEq, Repr

/-- The connection object before `Start`, after `SetUnlockInfo` and `SetAllowedDevices`. -/
def Connection.system (token authUser authProgram : Str) : Connection → System
  | .tcpClient _ _ device =>
      { conn := { (Conn.ofDevice token device).setUnlockInfo authUser authProgram with
          otherClient := false }
        needsDeviceID := false }
  | .btClient _ device isOtherClient =>
      { conn := { (Conn.ofDevice token device).setUnlockInfo authUser authProgram with
          otherClient := isOtherClient }
        needsDeviceID := false }
  | .tcpServer devices =>
      { conn := ((Conn.ofServer token).setUnlockInfo authUser authProgram).setAllowedDevices devices
        needsDeviceID := true }

/-- The variables of the loop; `udpBroadcaster` is `none` while the pointer is null. -/
structure Dispatch where
  hasTCPServer : Bool := false
  udpBroadcaster : Option (List BroadcastDevice) := none
  udpDevices : List PairedDevice := []
  connections : List Connection := []
  deriving DecidableEq, Repr

/-- `std::erase_if` with the requested ids; no ids means every device. -/
def filterDevices (deviceIds : List Str) (devices : List PairedDevice) : List PairedDevice :=
  if deviceIds = [] then devices
  else devices.filter (fun device => deviceIds.contains device.id)

/-- The entry that a UDP device gets at the broadcaster. -/
def PairedDevice.broadcast (device : PairedDevice) : BroadcastDevice :=
  { deviceID := device.id
    devicePort := if device.pairingMethod = .udp then device.udpPort else device.udpManualPort
    isManual := device.pairingMethod = .manualUdp }

/-- The body of the loop. On Windows a Bluetooth device gets two clients. -/
def dispatchDevice (windows : Bool) (s : Dispatch) (device : PairedDevice) : Dispatch :=
  match device.pairingMethod with
  | .tcp =>
      { s with connections :=
          s.connections ++ [.tcpClient device.ipAddress device.tcpPort device] }
  | .bluetooth =>
      if windows then
        { s with connections := s.connections ++
            [.btClient device.bluetoothAddress device false,
              .btClient device.bluetoothAddress device true] }
      else
        { s with connections := s.connections ++
            [.btClient device.bluetoothAddress device false] }
  | .manualUdp | .udp =>
      { s with
        udpBroadcaster := some (s.udpBroadcaster.getD [] ++ [device.broadcast])
        udpDevices := s.udpDevices ++ [device]
        hasTCPServer := true }
  -- `default`: `CLOUD` has no case
  | _ => s

/-- What `GetResult` does after the loop: it returns `NOT_PAIRED_ERROR` with a message, or it
starts the connections (the server together with the broadcaster). -/
inductive Dispatched where
  | notPaired (message : Str)
  | started (connections : List Connection) (udpBroadcaster : Option (List BroadcastDevice))
  deriving DecidableEq, Repr

def dispatchLoop (windows : Bool) (devices : List PairedDevice) : Dispatch :=
  devices.foldl (dispatchDevice windows) {}

/-- `GetResult` up to the start of the threads, for the devices of the user. -/
def dispatch (windows : Bool) (notPairedText : Str → Str) (authUser : Str) (deviceIds : List Str)
    (userDevices : List PairedDevice) : Dispatched :=
  let s := dispatchLoop windows (filterDevices deviceIds userDevices)
  let connections :=
    if s.hasTCPServer then s.connections ++ [.tcpServer s.udpDevices] else s.connections
  if connections = [] then .notPaired (notPairedText authUser)
  else .started connections s.udpBroadcaster

/-- What was started. -/
def Dispatched.connections : Dispatched → List Connection
  | .notPaired _ => []
  | .started connections _ => connections

def Dispatched.broadcaster : Dispatched → List BroadcastDevice
  | .notPaired _ => []
  | .started _ udpBroadcaster => udpBroadcaster.getD []

/-! ## The variables after the loop -/

/-- The clients made for one device. -/
def clientsFor (windows : Bool) (device : PairedDevice) : List Connection :=
  match device.pairingMethod with
  | .tcp => [.tcpClient device.ipAddress device.tcpPort device]
  | .bluetooth =>
      if windows then
        [.btClient device.bluetoothAddress device false,
          .btClient device.bluetoothAddress device true]
      else [.btClient device.bluetoothAddress device false]
  | _ => []

def PairedDevice.isUdp (device : PairedDevice) : Bool :=
  device.pairingMethod = .udp || device.pairingMethod = .manualUdp

/-- One pass through the loop, whatever the pairing method. -/
theorem dispatchDevice_eq (windows : Bool) (s : Dispatch) (device : PairedDevice) :
    dispatchDevice windows s device =
      { hasTCPServer := s.hasTCPServer || device.isUdp
        udpBroadcaster :=
          if device.isUdp then some (s.udpBroadcaster.getD [] ++ [device.broadcast])
          else s.udpBroadcaster
        udpDevices := s.udpDevices ++ if device.isUdp then [device] else []
        connections := s.connections ++ clientsFor windows device } := by
  unfold dispatchDevice clientsFor PairedDevice.isUdp
  cases hmethod : device.pairingMethod with
  | bluetooth => cases windows <;> simp
  | _ => simp

/-- The loop in closed form, from any values of its variables. -/
theorem dispatch_foldl (windows : Bool) (devices : List PairedDevice) (s : Dispatch) :
    devices.foldl (dispatchDevice windows) s =
      { hasTCPServer := s.hasTCPServer || devices.any PairedDevice.isUdp
        udpBroadcaster :=
          if devices.any PairedDevice.isUdp then
            some (s.udpBroadcaster.getD [] ++
              (devices.filter PairedDevice.isUdp).map PairedDevice.broadcast)
          else s.udpBroadcaster
        udpDevices := s.udpDevices ++ devices.filter PairedDevice.isUdp
        connections := s.connections ++ devices.flatMap (clientsFor windows) } := by
  induction devices generalizing s with
  | nil => simp
  | cons device devices ih =>
      rw [List.foldl_cons, ih, dispatchDevice_eq]
      by_cases hu : device.isUdp = true
      · by_cases hany : devices.any PairedDevice.isUdp = true
        · simp [hu, hany]
        · have hnone : devices.filter PairedDevice.isUdp = [] := by
            simpa using hany
          simp [hu, hany, hnone]
      · simp [hu]

theorem dispatchLoop_eq (windows : Bool) (devices : List PairedDevice) :
    dispatchLoop windows devices =
      { hasTCPServer := devices.any PairedDevice.isUdp
        udpBroadcaster :=
          if devices.any PairedDevice.isUdp then
            some ((devices.filter PairedDevice.isUdp).map PairedDevice.broadcast)
          else none
        udpDevices := devices.filter PairedDevice.isUdp
        connections := devices.flatMap (clientsFor windows) } := by
  simp [dispatchLoop, dispatch_foldl]

/-! ## Served devices -/

/-- The connection can authenticate the device: it is a client made for it, or the server that
allows it while the broadcaster announces the server to it. -/
def Serves (broadcaster : List BroadcastDevice) (device : PairedDevice) : Connection → Prop
  | .tcpClient _ _ d => d = device
  | .btClient _ d _ => d = device
  | .tcpServer devices => device ∈ devices ∧ device.broadcast ∈ broadcaster

/-- Such a connection is one of those of `Initial`, and has the device among the allowed ones. -/
theorem Serves.allowed {broadcaster : List BroadcastDevice} {device : PairedDevice}
    {c : Connection} (h : Serves broadcaster device c) (token authUser authProgram : Str) :
    Initial (c.system token authUser authProgram) ∧
      device ∈ (c.system token authUser authProgram).conn.allowedDevices := by
  cases c with
  | tcpClient ip port d =>
      have hd : d = device := h
      subst hd
      exact ⟨.client token authUser authProgram d false, List.mem_singleton_self d⟩
  | btClient address d other =>
      have hd : d = device := h
      subst hd
      exact ⟨.client token authUser authProgram d other, List.mem_singleton_self d⟩
  | tcpServer devices => exact ⟨.server token authUser authProgram devices, h.1⟩

/-- `GetResult` serves every device that is left after the filter, and says `NOT_PAIRED_ERROR`
only when there is none. -/
def ServesAll (windows : Bool) (notPairedText : Str → Str) (authUser : Str) (deviceIds : List Str)
    (userDevices : List PairedDevice) : Prop :=
  let result := dispatch windows notPairedText authUser deviceIds userDevices
  (∀ device ∈ filterDevices deviceIds userDevices,
    ∃ c ∈ result.connections, Serves result.broadcaster device c) ∧
  (∀ message, result = .notPaired message → filterDevices deviceIds userDevices = [])

section

variable {windows : Bool} {notPairedText : Str → Str} {authUser : Str} {deviceIds : List Str}
  {userDevices : List PairedDevice}

/-- What was started, in terms of the filtered devices. -/
theorem dispatch_connections (devices : List PairedDevice)
    (h : filterDevices deviceIds userDevices = devices) :
    (dispatch windows notPairedText authUser deviceIds userDevices).connections =
      devices.flatMap (clientsFor windows) ++
        if devices.any PairedDevice.isUdp then [.tcpServer (devices.filter PairedDevice.isUdp)]
        else [] := by
  unfold dispatch
  rw [h, dispatchLoop_eq]
  by_cases hu : devices.any PairedDevice.isUdp = true
  · simp [hu, Dispatched.connections]
  · simp only [hu]
    by_cases hnil : devices.flatMap (clientsFor windows) = []
    · simp [hnil, Dispatched.connections]
    · simp [hnil, Dispatched.connections]

/-- The broadcaster has the entries of the UDP devices. -/
theorem dispatch_broadcaster (devices : List PairedDevice)
    (h : filterDevices deviceIds userDevices = devices) :
    (dispatch windows notPairedText authUser deviceIds userDevices).broadcaster =
      (devices.filter PairedDevice.isUdp).map PairedDevice.broadcast := by
  unfold dispatch
  rw [h, dispatchLoop_eq]
  by_cases hu : devices.any PairedDevice.isUdp = true
  · simp [hu, Dispatched.broadcaster]
  · have hnone : devices.filter PairedDevice.isUdp = [] := by simpa using hu
    simp only [hu, hnone]
    by_cases hnil : devices.flatMap (clientsFor windows) = []
    · simp [hnil, Dispatched.broadcaster]
    · simp [hnil, Dispatched.broadcaster]

/-- A client is made for the device unless it is paired by UDP or by cloud. -/
theorem clientsFor_serves {device : PairedDevice} (broadcaster : List BroadcastDevice)
    (hudp : device.isUdp = false) (hcloud : device.pairingMethod ≠ .cloud) :
    ∃ c ∈ clientsFor windows device, Serves broadcaster device c := by
  unfold clientsFor
  cases hmethod : device.pairingMethod with
  | tcp => exact ⟨_, List.mem_singleton_self _, rfl⟩
  | bluetooth =>
      cases windows with
      | true => exact ⟨_, List.mem_cons_self, rfl⟩
      | false => exact ⟨_, List.mem_singleton_self _, rfl⟩
  | cloud => exact absurd hmethod hcloud
  | udp => simp [PairedDevice.isUdp, hmethod] at hudp
  | manualUdp => simp [PairedDevice.isUdp, hmethod] at hudp

/-- A client that serves the device was made for it. -/
theorem serves_clientsFor {device d : PairedDevice} {c : Connection}
    {broadcaster : List BroadcastDevice} (hc : c ∈ clientsFor windows d)
    (h : Serves broadcaster device c) : d = device ∧ d.pairingMethod ≠ .cloud := by
  unfold clientsFor at hc
  cases hmethod : d.pairingMethod with
  | tcp =>
      rw [hmethod] at hc
      rw [List.mem_singleton.mp hc] at h
      exact ⟨h, by simp⟩
  | bluetooth =>
      rw [hmethod] at hc
      refine ⟨?_, by simp⟩
      cases windows with
      | true =>
          rcases List.mem_cons.mp hc with rfl | hc
          · exact h
          · rw [List.mem_singleton.mp hc] at h
            exact h
      | false =>
          rw [List.mem_singleton.mp hc] at h
          exact h
  | _ => simp [hmethod] at hc

/-- **Every paired device is served, unless one is paired by cloud.** -/
theorem every_device_served_iff :
    ServesAll windows notPairedText authUser deviceIds userDevices ↔
      ∀ device ∈ filterDevices deviceIds userDevices, device.pairingMethod ≠ .cloud := by
  generalize hdev : filterDevices deviceIds userDevices = devices
  have hconn : (dispatch windows notPairedText authUser deviceIds userDevices).connections = _ :=
    dispatch_connections devices hdev
  have hbc : (dispatch windows notPairedText authUser deviceIds userDevices).broadcaster = _ :=
    dispatch_broadcaster devices hdev
  unfold ServesAll
  simp only [hdev, hconn, hbc]
  constructor
  · rintro ⟨hserved, -⟩ device hmem hcloud
    obtain ⟨c, hc, hs⟩ := hserved device hmem
    rcases List.mem_append.mp hc with hc | hc
    · obtain ⟨d, -, hd⟩ := List.mem_flatMap.mp hc
      obtain ⟨rfl, hne⟩ := serves_clientsFor hd hs
      exact hne hcloud
    · -- the server allows UDP devices only
      split at hc
      · rw [List.mem_singleton.mp hc] at hs
        have hudp := (List.mem_filter.mp hs.1).2
        simp [PairedDevice.isUdp, hcloud] at hudp
      · simp at hc
  · intro hall
    have hserved : ∀ device ∈ devices, ∃ c ∈ devices.flatMap (clientsFor windows) ++
        (if devices.any PairedDevice.isUdp then
          [Connection.tcpServer (devices.filter PairedDevice.isUdp)] else []),
        Serves ((devices.filter PairedDevice.isUdp).map PairedDevice.broadcast) device c := by
      intro device hmem
      by_cases hudp : device.isUdp = true
      · have hany : devices.any PairedDevice.isUdp = true :=
          List.any_eq_true.mpr ⟨device, hmem, hudp⟩
        have hfilter : device ∈ devices.filter PairedDevice.isUdp :=
          List.mem_filter.mpr ⟨hmem, hudp⟩
        refine ⟨.tcpServer (devices.filter PairedDevice.isUdp), ?_, hfilter,
          List.mem_map_of_mem hfilter⟩
        rw [if_pos hany]
        exact List.mem_append_right _ (List.mem_singleton_self _)
      · obtain ⟨c, hc, hs⟩ : ∃ c ∈ clientsFor windows device,
            Serves ((devices.filter PairedDevice.isUdp).map PairedDevice.broadcast) device c :=
          clientsFor_serves _ (by simpa using hudp) (hall device hmem)
        exact ⟨c, List.mem_append_left _ (List.mem_flatMap.mpr ⟨device, hmem, hc⟩), hs⟩
    refine ⟨hserved, ?_⟩
    intro message hnot
    -- a device that is left would have a connection
    by_contra hne
    obtain ⟨device, hmem⟩ := List.exists_mem_of_ne_nil devices hne
    obtain ⟨c, hc, -⟩ := hserved device hmem
    rw [← hconn, hnot] at hc
    simp [Dispatched.connections] at hc

end

/-- A user whose only device is paired by cloud is told that no device is paired. -/
theorem cloud_device_not_served :
    ¬ ServesAll false (fun user => user) (str "u") []
      [{ id := str "d", pairingMethod := .cloud, userName := str "u" }] := by
  intro h
  have hleft := h.2 (str "u") (by decide)
  cases hleft

end PcbuDesktop
