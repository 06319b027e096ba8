import Mathlib.Data.List.Flatten
import PcbuDesktop.Basic.Text

set_option autoImplicit false

/-! # Typing the password on the macOS lock screen

`PasswordInjector` (`mac_pulseunlock/src/input/PasswordInjector.mm`) types the password with posted key
events. It looks up which key of the keyboard layout gives a character, and puts the character itself into
the event, too. What is said here is said about the events; the login window, which gets them, is not
modelled.
-/

namespace PcbuDesktop

namespace PasswordInjector

abbrev UniChar := UInt16

/-! ## Events -/

/-- The bits of `CGEventFlags` that are used. -/
structure CGEventFlags where
  command : Bool := false
  shift : Bool := false
  alternate : Bool := false
  deriving DecidableEq, Repr

inductive Modifier where
  | command
  | shift
  | alternate
  deriving DecidableEq, Repr

def Modifier.keyCode : Modifier → Nat
  | .command => 0x37
  | .shift => 0x38
  | .alternate => 0x3A

def CGEventFlags.put (flags : CGEventFlags) (isDown : Bool) : Modifier → CGEventFlags
  | .command => { flags with command := isDown }
  | .shift => { flags with shift := isDown }
  | .alternate => { flags with alternate := isDown }

/-- A keyboard event. A key has the characters of its string, or none. -/
inductive Event where
  | key (keyCode : Nat) (isDown : Bool) (flags : CGEventFlags) (chars : List UniChar)
  | flagsChanged (keyCode : Nat) (isDown : Bool) (flags : CGEventFlags)
  deriving DecidableEq, Repr

/-- `std::map` from a character to its key and flags. -/
abbrev KeyMap := List (UniChar × Nat × CGEventFlags)

def KeyMap.find (keyMap : KeyMap) (c : UniChar) : Option (Nat × CGEventFlags) :=
  (List.find? (fun e => e.1 = c) keyMap).map Prod.snd

/-- A key that is pressed: its modifiers, and the characters that it types. -/
structure Stroke where
  keyCode : Nat
  flags : CGEventFlags
  chars : List UniChar
  deriving DecidableEq, Repr

def Event.pressed : Event → Option Stroke
  | .key keyCode true flags chars => some ⟨keyCode, flags, chars⟩
  | _ => none

/-- The modifiers that are held behind an event. -/
def Event.hold (held : CGEventFlags) : Event → CGEventFlags
  | .flagsChanged _ _ flags => flags
  | .key _ _ _ _ => held

def heldAfter (held : CGEventFlags) (events : List Event) : CGEventFlags := events.foldl Event.hold held

/-- With each key, the modifiers are held that its flags say. -/
def HeldMatches : CGEventFlags → List Event → Prop
  | _, [] => True
  | held, e :: events =>
      (∀ keyCode isDown flags chars, e = .key keyCode isDown flags chars → held = flags) ∧
        HeldMatches (e.hold held) events

/-- The modifiers are those of the keys, and all are released at the end. -/
structure Balanced (events : List Event) : Prop where
  keys : HeldMatches {} events
  released : heldAfter {} events = {}

/-! ## What the key map has -/

theorem KeyMap.find_append (a b : KeyMap) (c : UniChar) :
    KeyMap.find (a ++ b) c = (KeyMap.find a c).or (KeyMap.find b c) := by
  unfold KeyMap.find
  rw [List.find?_append]
  cases List.find? (fun e => decide (e.1 = c)) a with
  | none => rfl
  | some e => rfl

theorem heldAfter_append (held : CGEventFlags) (a b : List Event) :
    heldAfter held (a ++ b) = heldAfter (heldAfter held a) b := List.foldl_append

theorem heldMatches_append {held : CGEventFlags} {a b : List Event} (ha : HeldMatches held a)
    (hb : HeldMatches (heldAfter held a) b) : HeldMatches held (a ++ b) := by
  induction a generalizing held with
  | nil => exact hb
  | cons e a ih => exact ⟨ha.1, ih ha.2 hb⟩

theorem Balanced.append {a b : List Event} (ha : Balanced a) (hb : Balanced b) : Balanced (a ++ b) where
  keys := heldMatches_append ha.keys (by rw [ha.released]; exact hb.keys)
  released := by rw [heldAfter_append, ha.released, hb.released]

end PasswordInjector

end PcbuDesktop
