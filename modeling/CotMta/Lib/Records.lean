/-
  The wire format of protocol buffers: base-128 varints, least significant group
  first, fields, and the records that a string is made of.

  A record is a key, which holds the tag and the wire type, and a payload whose
  extent the wire type tells.  Varints may be longer than they need to be; keys
  and lengths count by their low 32 bits.  Nothing is said here of what a tag
  means or of how often one may occur.
-/
import Mathlib.Data.Nat.Bitwise
import Mathlib.Tactic.Ring

namespace CotMta

/-! ## Varints and fields -/

/-- The shortest varint of `v`. -/
def varint (v : ℕ) : List UInt8 :=
  if v < 128 then [UInt8.ofNat v] else UInt8.ofNat (v % 128 + 128) :: varint (v / 128)
termination_by v
decreasing_by omega

variable {v : ℕ}

theorem varint_of_lt (h : v < 128) : varint v = [UInt8.ofNat v] := by rw [varint, if_pos h]

theorem varint_of_ge (h : 128 ≤ v) :
    varint v = UInt8.ofNat (v % 128 + 128) :: varint (v / 128) := by
  rw [varint, if_neg (Nat.not_lt.2 h)]

/-- Seven bits a byte. -/
theorem length_varint_le : ∀ (k v : ℕ), v < 128 ^ (k + 1) → (varint v).length ≤ k + 1
  | 0, v, h => by rw [varint_of_lt (by omega), List.length_singleton]
  | k + 1, v, h => by
    by_cases hv : v < 128
    · rw [varint_of_lt hv, List.length_singleton]
      omega
    · have hk : v / 128 < 128 ^ (k + 1) := by
        rw [pow_succ] at h
        omega
      have ih := length_varint_le k (v / 128) hk
      rw [varint_of_ge (by omega), List.length_cons]
      omega

/-- The last group of a varint has the top bit clear, the others have it set. -/
theorem group_last : ∀ k < 128, UInt8.ofNat k &&& 0x80 = 0 ∧
    (UInt8.ofNat k &&& 0x7F).toNat = k := by decide

theorem group_cont : ∀ k < 128, UInt8.ofNat (k + 128) &&& 0x80 ≠ 0 ∧
    (UInt8.ofNat (k + 128) &&& 0x7F).toNat = k := by decide

theorem group_nibble : ∀ k < 16, UInt8.ofNat k &&& 0x70 = 0 ∧
    (UInt8.ofNat k &&& 0x0F).toNat = k := by decide

/-- A field of a varint type. -/
def varintField (tag value : ℕ) : List UInt8 := varint (8 * tag) ++ varint value

/-- A field of the type `bytes`. -/
def bytesField (tag : ℕ) (value : List UInt8) : List UInt8 :=
  varint (8 * tag + 2) ++ varint value.length ++ value

/-! ## Reading -/

/-- The varint at the front of a string, and the rest. -/
def takeVarint : List UInt8 → Option (ℕ × List UInt8)
  | [] => none
  | byte :: s =>
    if byte.toNat < 128 then some (byte.toNat, s)
    else (takeVarint s).map fun r => (byte.toNat % 128 + 128 * r.1, r.2)

theorem takeVarint_last {byte : UInt8} {s : List UInt8} (h : byte.toNat < 128) :
    takeVarint (byte :: s) = some (byte.toNat, s) := if_pos h

theorem takeVarint_group {byte : UInt8} {s rest : List UInt8} {v : ℕ} (h : ¬byte.toNat < 128)
    (hv : takeVarint s = some (v, rest)) :
    takeVarint (byte :: s) = some (byte.toNat % 128 + 128 * v, rest) := by
  rw [takeVarint, if_neg h, hv]
  rfl

/-- What a record holds, by wire type. -/
inductive Payload where
  | varint (value : ℕ)
  | i64 (bytes : List UInt8)
  | len (bytes : List UInt8)
  | i32 (bytes : List UInt8)
deriving DecidableEq

/-- The bytes of a payload with a length. -/
def Payload.bytes : Payload → List UInt8
  | .len bytes => bytes
  | _ => []

/-- A field number with its wire type and data. -/
structure Record where
  tag : ℕ
  payload : Payload
deriving DecidableEq

/-- The next bytes, if there are as many. -/
def takeBytes (k : ℕ) (s : List UInt8) : Option (List UInt8 × List UInt8) :=
  if s.length < k then none else some (s.take k, s.drop k)

/-- The payload of a wire type at the front of a string.  Groups are not read. -/
def takePayload (s : List UInt8) : ℕ → Option (Payload × List UInt8)
  | 0 => (takeVarint s).map fun r => (.varint r.1, r.2)
  | 1 => (takeBytes 8 s).map fun r => (.i64 r.1, r.2)
  | 2 => do
    let (length, s) ← takeVarint s
    (takeBytes (length % 2 ^ 32) s).map fun r => (.len r.1, r.2)
  | 5 => (takeBytes 4 s).map fun r => (.i32 r.1, r.2)
  | _ => none

/-- The record at the front of a string. -/
def takeRecord (s : List UInt8) : Option (Record × List UInt8) := do
  let (key, s) ← takeVarint s
  let key := key % 2 ^ 32
  (takePayload s (key % 8)).map fun r => (⟨key / 8, r.1⟩, r.2)

/-- The string is made of the records, and nothing else is in it. -/
inductive Records : List UInt8 → List Record → Prop
  | nil : Records [] []
  | cons {s rest : List UInt8} {r : Record} {rs : List Record} :
      takeRecord s = some (r, rest) → Records rest rs → Records s (r :: rs)

theorem records_nil {rs : List Record} : Records [] rs ↔ rs = [] := by
  constructor
  · rintro (_ | ⟨hrecord, -⟩)
    · rfl
    · cases hrecord
  · rintro rfl
    exact .nil

/-- A string is made of one list of records only. -/
theorem Records.iff_eq {s : List UInt8} {rs rs' : List Record} (h : Records s rs) :
    Records s rs' ↔ rs' = rs := by
  refine ⟨fun h' => ?_, fun heq => heq ▸ h⟩
  induction h generalizing rs' with
  | nil => exact records_nil.1 h'
  | cons hrecord _ ih =>
    cases h' with
    | nil => cases hrecord
    | cons hrecord' hrest =>
      rw [hrecord] at hrecord'
      cases hrecord'
      rw [ih hrest]

/-! ## The records of a tag -/

/-- The last record of a tag. -/
def lastRecord (tag : ℕ) (rs : List Record) : Option Record :=
  (rs.filter (·.tag = tag)).getLast?

@[simp] theorem lastRecord_nil {tag : ℕ} : lastRecord tag [] = none := rfl

theorem lastRecord_cons {tag : ℕ} {r : Record} {rs : List Record} : lastRecord tag (r :: rs) =
    if r.tag = tag then some ((lastRecord tag rs).getD r) else lastRecord tag rs := by
  by_cases h : r.tag = tag
  · rw [lastRecord, List.filter_cons_of_pos (by simpa using h), List.getLast?_cons, if_pos h]
    rfl
  · rw [lastRecord, List.filter_cons_of_neg (by simpa using h), if_neg h]
    rfl

/-- The bytes of the last record of a tag, none without one. -/
def lastBytes (tag : ℕ) (rs : List Record) : List UInt8 :=
  ((lastRecord tag rs).map (·.payload.bytes)).getD []

/-! ## The bits of a byte -/

theorem last_iff {byte : UInt8} : byte &&& 0x80 = 0 ↔ byte.toNat < 128 := by
  have hbyte := byte.toNat_lt
  rcases Nat.lt_or_ge byte.toNat 128 with h | h
  · rw [← UInt8.ofNat_toNat (x := byte)]
    exact iff_of_true (group_last _ h).1 (by rwa [UInt8.ofNat_toNat])
  · obtain ⟨hcont, -⟩ := group_cont (byte.toNat - 128) (by omega)
    rw [Nat.sub_add_cancel h, UInt8.ofNat_toNat] at hcont
    exact iff_of_false hcont (Nat.not_lt.2 h)

theorem group_toNat {byte : UInt8} : (byte &&& 0x7F).toNat = byte.toNat % 128 := by
  rw [UInt8.toNat_and]
  exact Nat.and_two_pow_sub_one_eq_mod _ 7

theorem nibble_toNat {byte : UInt8} : (byte &&& 0x0F).toNat = byte.toNat % 16 := by
  rw [UInt8.toNat_and]
  exact Nat.and_two_pow_sub_one_eq_mod _ 4

end CotMta
