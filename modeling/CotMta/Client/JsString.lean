/-
  The strings of JavaScript, and what the language and Node's `Buffer` do with
  them where the client reads or prints a scalar.

  A string is its list of UTF-16 code units.  Lower case beyond ASCII is in the
  tables of Unicode, so `toLowerCase` is a parameter of the client; `Lowers` is
  what holds of it in every version of the tables.
-/
import CotMta.Lib.Bytes

namespace CotMta.Client

/-- A string as its code units. -/
abbrev JsString := List UInt16

namespace JsString

/-- The lower case of an ASCII unit. -/
def lowerAscii (u : UInt16) : UInt16 := if 0x41 ≤ u ∧ u ≤ 0x5A then u + 0x20 else u

/-- What `toLowerCase` can make of a string.  An ASCII unit has one lower case,
    whatever stands around it.  What is not ASCII stays so, except that
    `U+0130` becomes an `i` with a dot and the Kelvin sign a `k`. -/
inductive Lowers : JsString → JsString → Prop
  | nil : Lowers [] []
  | ascii {u s l} : u < 0x80 → Lowers s l → Lowers (u :: s) (lowerAscii u :: l)
  | beyond {run piece s l} : run ≠ [] → (∀ u ∈ run, 0x80 ≤ u) →
      piece ≠ [] → (∀ u ∈ piece, 0x80 ≤ u ∨ u = 0x69 ∨ u = 0x6B) →
      Lowers s l → Lowers (run ++ s) (piece ++ l)

/-- `s.replace(/^0x/, '')`. -/
def dropMarker (s : JsString) : JsString := if s.take 2 = [0x30, 0x78] then s.drop 2 else s

/-- The class `[0-9a-f]`. -/
def isHexDigit (u : UInt16) : Bool := (0x30 ≤ u && u ≤ 0x39) || (0x61 ≤ u && u ≤ 0x66)

/-- `/^[0-9a-f]+$/.test(s)`. -/
def isHexText (s : JsString) : Bool := !s.isEmpty && s.all isHexDigit

/-- `s.padStart(length, fill)` with a `fill` of one unit. -/
def padStart (s : JsString) (length : ℕ) (fill : UInt16) : JsString :=
  List.replicate (length - s.length) fill ++ s

/-! ## Buffers -/

/-- The value of a hex digit of either case. -/
def unhex (u : UInt16) : Option ℕ :=
  if 0x30 ≤ u ∧ u ≤ 0x39 then some (u.toNat - 0x30)
  else if 0x61 ≤ u ∧ u ≤ 0x66 then some (u.toNat - 0x57)
  else if 0x41 ≤ u ∧ u ≤ 0x46 then some (u.toNat - 0x37)
  else none

/-- `Buffer.from(s, 'hex')`: the pairs before the first that is not of digits. -/
def bufferFrom : JsString → List UInt8
  | high :: low :: s =>
    match unhex high, unhex low with
    | some a, some b => UInt8.ofNat (16 * a + b) :: bufferFrom s
    | _, _ => []
  | _ => []

/-- A lower-case digit. -/
def hexDigit (d : ℕ) : UInt16 := UInt16.ofNat (if d < 10 then 0x30 + d else 0x57 + d)

/-- `buffer.toString('hex')`. -/
def bufferToString (bytes : List UInt8) : JsString :=
  bytes.flatMap fun byte => [hexDigit (byte.toNat / 16), hexDigit (byte.toNat % 16)]

end JsString
end CotMta.Client
