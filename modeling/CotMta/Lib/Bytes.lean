/-
  Byte strings and the numbers they stand for, most significant byte first.

  `beNat` and `natBe` are inverse to each other on strings of a fixed length.
  `Bytes n` is the type of the strings of length `n`, with the length as a
  field.
-/
import CotMta.Lib.Limbs
import Mathlib.Data.Fintype.Card

namespace CotMta

open Limbs

/-! ## Big-endian numbers -/

/-- The number a byte string stands for. -/
def beNat (bs : List UInt8) : ℕ := value 256 (bs.reverse.map UInt8.toNat)

/-- The last `k` bytes of `v`. -/
def natBe (k v : ℕ) : List UInt8 := ((limbs 256 k v).map UInt8.ofNat).reverse

@[simp] theorem length_natBe {k v : ℕ} : (natBe k v).length = k := by simp [natBe]

theorem value_append {B : ℕ} {l m : List ℕ} :
    value B (l ++ m) = value B l + B ^ l.length * value B m := by
  induction l with
  | nil => simp [value]
  | cons a l ih => simp only [List.cons_append, value, ih, List.length_cons]; ring

@[simp] theorem beNat_nil : beNat [] = 0 := rfl

theorem beNat_append {l m : List UInt8} :
    beNat (l ++ m) = beNat l * 256 ^ m.length + beNat m := by
  simp only [beNat, List.reverse_append, List.map_append, value_append, List.length_map,
    List.length_reverse]
  ring

theorem beNat_cons {b : UInt8} {l : List UInt8} :
    beNat (b :: l) = b.toNat * 256 ^ l.length + beNat l := by
  rw [← List.singleton_append, beNat_append]
  simp [beNat, value]

theorem beNat_lt {l : List UInt8} : beNat l < 256 ^ l.length := by
  have h := value_lt (B := 256) (l := l.reverse.map UInt8.toNat) fun a ha => by
    obtain ⟨b, -, rfl⟩ := List.mem_map.1 ha
    exact b.toNat_lt
  simpa [beNat] using h

theorem beNat_eq_zero : ∀ {l : List UInt8}, beNat l = 0 ↔ ∀ b ∈ l, b = 0
  | [] => by simp
  | b :: l => by
    have hb : b.toNat * 256 ^ l.length = 0 ↔ b = 0 := by
      rw [Nat.mul_eq_zero, or_iff_left (by positivity), ← UInt8.toNat_inj, UInt8.toNat_zero]
    rw [beNat_cons, Nat.add_eq_zero_iff, hb, beNat_eq_zero, List.forall_mem_cons]

theorem map_toNat_ofNat {l : List ℕ} (h : ∀ a ∈ l, a < 256) :
    (l.map UInt8.ofNat).map UInt8.toNat = l := by
  rw [List.map_map]
  refine (List.map_congr_left fun a ha => ?_).trans (List.map_id l)
  simp [Nat.mod_eq_of_lt (h a ha)]

theorem beNat_natBe {k v : ℕ} (h : v < 256 ^ k) : beNat (natBe k v) = v := by
  rw [beNat, natBe, List.reverse_reverse, map_toNat_ofNat (lt_of_mem_limbs (by norm_num)),
    value_limbs_of_lt h]

theorem natBe_beNat {l : List UInt8} : natBe l.length (beNat l) = l := by
  have h := limbs_value (B := 256) (l := l.reverse.map UInt8.toNat) fun a ha => by
    obtain ⟨b, -, rfl⟩ := List.mem_map.1 ha
    exact b.toNat_lt
  rw [List.length_map, List.length_reverse] at h
  rw [natBe, beNat, h, List.map_map, List.map_reverse, List.reverse_reverse]
  exact (List.map_congr_left fun b _ => UInt8.ofNat_toNat).trans (List.map_id l)

theorem natBe_congr {k v w : ℕ} (h : v % 256 ^ k = w % 256 ^ k) : natBe k v = natBe k w := by
  rw [natBe, natBe, limbs_congr (by norm_num) h]

theorem natBe_add {j k v : ℕ} : natBe (j + k) v = natBe k (v / 256 ^ j) ++ natBe j v := by
  rw [natBe, limbs_add, List.map_append, List.reverse_append]
  rfl

/-! ## Strings of a fixed length -/

/-- The byte strings of length `n`. -/
@[ext] structure Bytes (n : ℕ) where
  toList : List UInt8
  length_toList : toList.length = n
deriving DecidableEq

namespace Bytes
variable {n : ℕ}

attribute [simp] length_toList

/-- The number of a string. -/
def nat (b : Bytes n) : ℕ := beNat b.toList

/-- The string of length `n` of a number, cut to its last `n` bytes. -/
def ofNat (n v : ℕ) : Bytes n := ⟨natBe n v, length_natBe⟩

theorem nat_lt (b : Bytes n) : b.nat < 256 ^ n := by
  have := beNat_lt (l := b.toList)
  rwa [b.length_toList] at this

theorem nat_ofNat {v : ℕ} (h : v < 256 ^ n) : (ofNat n v).nat = v := beNat_natBe h

@[simp] theorem ofNat_nat (b : Bytes n) : ofNat n b.nat = b := by
  refine Bytes.ext ?_
  have := natBe_beNat (l := b.toList)
  rwa [b.length_toList] at this

theorem nat_injective {a b : Bytes n} (h : a.nat = b.nat) : a = b := by
  rw [← ofNat_nat a, ← ofNat_nat b, h]

theorem nat_inj {a b : Bytes n} : a.nat = b.nat ↔ a = b := ⟨nat_injective, congrArg _⟩

theorem nat_eq_zero {b : Bytes n} : b.nat = 0 ↔ ∀ x ∈ b.toList, x = 0 := beNat_eq_zero

/-- The strings of length `n` are numbered. -/
def equivFin : Bytes n ≃ Fin (256 ^ n) where
  toFun b := ⟨b.nat, b.nat_lt⟩
  invFun k := ofNat n k
  left_inv b := ofNat_nat b
  right_inv k := Fin.ext (nat_ofNat k.isLt)

instance : Fintype (Bytes n) := .ofEquiv _ equivFin.symm

theorem card_bytes : Fintype.card (Bytes n) = 256 ^ n := by
  rw [Fintype.card_congr equivFin, Fintype.card_fin]

/-- A list of the right length. -/
def ofList? (n : ℕ) (l : List UInt8) : Option (Bytes n) :=
  if h : l.length = n then some ⟨l, h⟩ else none

@[simp] theorem ofList?_toList (b : Bytes n) : ofList? n b.toList = some b :=
  dif_pos b.length_toList

/-- Byte-wise exclusive or. -/
def xor (a b : Bytes n) : Bytes n :=
  ⟨List.zipWith (· ^^^ ·) a.toList b.toList, by simp⟩

theorem xor_xor_cancel (a b : Bytes n) : (a.xor b).xor b = a := by
  refine Bytes.ext ?_
  simp only [xor]
  obtain ⟨la, ha⟩ := a
  obtain ⟨lb, hb⟩ := b
  simp only
  induction la generalizing lb n with
  | nil => simp
  | cons x la ih =>
    cases lb with
    | nil => simp at ha hb; omega
    | cons y lb =>
      simp only [List.zipWith_cons_cons, UInt8.xor_assoc, UInt8.xor_self, UInt8.xor_zero]
      rw [ih (n := la.length) rfl lb (by simp at ha hb; omega)]

theorem xor_comm (a b : Bytes n) : a.xor b = b.xor a :=
  Bytes.ext (List.ext_getElem (by simp [xor]) fun i _ _ => by
    simp only [xor, List.getElem_zipWith]
    exact UInt8.xor_comm _ _)

theorem xor_assoc (a b c : Bytes n) : (a.xor b).xor c = a.xor (b.xor c) :=
  Bytes.ext (List.ext_getElem (by simp [xor]) fun i _ _ => by simp [xor, UInt8.xor_assoc])

instance : Std.Commutative (xor (n := n)) := ⟨xor_comm⟩
instance : Std.Associative (xor (n := n)) := ⟨xor_assoc⟩

theorem xor_xor_same (a b k : Bytes n) : (a.xor k).xor (b.xor k) = a.xor b := by
  calc (a.xor k).xor (b.xor k) = ((a.xor b).xor k).xor k := by ac_rfl
    _ = a.xor b := xor_xor_cancel _ _

/-- Two messages under the keys `k` and `l`: the exclusive or shows that of the
    messages only if the keys are equal. -/
theorem eq_of_xor_xor_xor {a b k l : Bytes n} (h : (a.xor k).xor (b.xor l) = a.xor b) : k = l := by
  have hkeys : (k.xor l).xor (a.xor b) = a.xor b := by
    calc (k.xor l).xor (a.xor b) = (a.xor k).xor (b.xor l) := by ac_rfl
      _ = a.xor b := h
  have hzero : k.xor l = (a.xor b).xor (a.xor b) := by
    rw [← xor_xor_cancel (k.xor l) (a.xor b), hkeys]
  calc k = (k.xor l).xor l := (xor_xor_cancel k l).symm
    _ = (l.xor (a.xor b)).xor (a.xor b) := by rw [hzero, xor_comm, ← xor_assoc]
    _ = l := xor_xor_cancel l _

end Bytes
end CotMta
