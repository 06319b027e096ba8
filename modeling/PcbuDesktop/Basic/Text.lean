import Mathlib.Data.List.Basic

set_option autoImplicit false

/-! # Byte strings, hexadecimal text and JSON values

A `std::string` and a `std::vector<uint8_t>` are both lists of bytes. The hexadecimal
conversions are the ones of `StringUtils`; JSON values are those of the JSON library the
program is linked with, whose parser and printer are the parameter `JsonLib`.
-/

namespace PcbuDesktop

/-- `std::vector<uint8_t>`. -/
abbrev Bytes := List UInt8

/-- `std::string`: any sequence of bytes, valid UTF-8 or not. -/
abbrev Str := List UInt8

/-- The bytes of an ASCII literal of the source. -/
def str (s : String) : Str := s.toList.map (fun c => c.toNat.toUInt8)

/-! ## Hexadecimal text -/

def hexDigit (n : UInt8) : UInt8 := if n < 10 then 48 + n else 55 + n

/-- The value of a hexadecimal digit, in either case. -/
def hexValue (c : UInt8) : Option UInt8 :=
  if 48 ≤ c ∧ c ≤ 57 then some (c - 48)
  else if 65 ≤ c ∧ c ≤ 70 then some (c - 55)
  else if 97 ≤ c ∧ c ≤ 102 then some (c - 87)
  else none

/-- `StringUtils::ToHexString`: two upper-case digits a byte. -/
def toHexString (data : Bytes) : Str :=
  data.flatMap (fun b => [hexDigit (b / 16), hexDigit (b % 16)])

/-- `boost::algorithm::unhex`; `none` where it throws a `hex_decode_error`. -/
def unhex : Str → Option Bytes
  | [] => some []
  | [_] => none
  | a :: b :: rest => do
      let hi ← hexValue a
      let lo ← hexValue b
      let tl ← unhex rest
      return (hi * 16 + lo) :: tl

/-- `StringUtils::FromHexString`: text that is no hexadecimal becomes the empty vector. -/
def fromHexString (hex : Str) : Bytes := (unhex hex).getD []

/-! ## JSON values -/

/-- A `nlohmann::json` value. The library keeps an object in a `std::map`, so the fields of
`obj` stand in the order of their keys. -/
inductive Json where
  | null
  | bool (b : Bool)
  | int (i : Int)
  | float (q : Rat)
  | str (s : Str)
  | arr (xs : List Json)
  | obj (fields : List (String × Json))

/-- `json[key]` on a mutable value: the member of an object, `null` when the key is missing
(the library inserts it) and also on the value `null` (which becomes an object); on any other
value it throws. -/
def Json.member (key : String) : Json → Option Json
  | .obj fields => some ((fields.lookup key).getD .null)
  | .null => some .null
  | _ => none

/-- The implicit conversion to `std::string`, which throws on every other type. -/
def Json.asString : Json → Option Str
  | .str s => some s
  | _ => none

/-- The conversion to `bool`, which throws on every other type. -/
def Json.asBool : Json → Option Bool
  | .bool b => some b
  | _ => none

/-- The member `key` read as a string; `none` where the library throws. -/
def Json.stringMember (key : String) (j : Json) : Option Str := (j.member key).bind Json.asString

/-- The implicit conversion to `uint16_t`: a number or a truth value is cast, anything else
throws. -/
def Json.asUInt16 : Json → Option UInt16
  | .int i => some (UInt16.ofNat (i % 65536).toNat)
  | .float q => some (UInt16.ofNat ((if 0 ≤ q then q.floor else q.ceil) % 65536).toNat)
  | .bool b => some (if b then 1 else 0)
  | _ => none

/-- The member `key` read as a 16-bit number; `none` where the library throws. -/
def Json.uint16Member (key : String) (j : Json) : Option UInt16 := (j.member key).bind Json.asUInt16

/-- The JSON library: `parse` and `dump`, with `none` where they throw (malformed text, a
string that is not valid UTF-8). -/
structure JsonLib where
  parse : Str → Option Json
  dump : Json → Option Str

/-- What is printed is parsed back to the same value. -/
def JsonLib.RoundTrips (lib : JsonLib) : Prop :=
  ∀ j s, lib.dump j = some s → lib.parse s = some j

end PcbuDesktop
