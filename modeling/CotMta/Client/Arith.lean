/-
  What the byte and integer functions of `CryptoOps` compute.
-/
import CotMta.Client.CryptoOps
import CotMta.Secp256k1

namespace CotMta.Client.CryptoOps

open Limbs Secp256k1

theorem order_eq : order = (n : ℤ) := rfl
theorem field_eq : field = (p : ℤ) := rfl

/-- A sequence of calls returns when each of them does. -/
theorem bind_eq_ok {α β : Type} {call : Throws α} {next : α → Throws β} {result : β} :
    call >>= next = .ok result ↔ ∃ value, call = .ok value ∧ next value = .ok result := by
  cases call with
  | error text =>
    refine iff_of_false (fun h => nomatch h) ?_
    rintro ⟨value, h, -⟩
    cases h
  | ok value =>
    refine ⟨fun h => ⟨value, rfl, h⟩, ?_⟩
    rintro ⟨value', h, hnext⟩
    cases h
    exact hnext

/-! ## Bytes -/

theorem foldl_bytes : ∀ {l : Uint8Array} {v : ℕ},
    l.foldl (fun value byte => value <<< 8 ||| byte.toNat) v = v * 256 ^ l.length + beNat l
  | [], v => by simp
  | b :: l, v => by
    rw [List.foldl_cons, foldl_bytes, Nat.shiftLeft_eq, mul_comm v, or_eq_add b.toNat_lt,
      beNat_cons, List.length_cons]
    ring

theorem bytesToBigInt_eq {l : Uint8Array} : bytesToBigInt l = beNat l := by
  rw [bytesToBigInt, foldl_bytes, zero_mul, zero_add]

theorem bigIntToBytesLoop_eq : ∀ {k v : ℕ} {out : Uint8Array},
    bigIntToBytesLoop k v out = natBe k v ++ out
  | 0, v, out => rfl
  | k + 1, v, out => by
    have hdiv : (v : ℤ) / 256 = (v / 256 : ℕ) := by norm_cast
    have hmod : ((v : ℤ) % 256).toNat = v % 256 := by norm_cast
    rw [bigIntToBytesLoop, hdiv, hmod, bigIntToBytesLoop_eq, Nat.add_comm k 1, natBe_add, pow_one,
      List.append_assoc]
    rfl

theorem bigIntToBytes_natCast {k v : ℕ} : bigIntToBytes v k = natBe k v := by
  rw [bigIntToBytes, bigIntToBytesLoop_eq, List.append_nil]

theorem modAdd_eq {a b : Uint8Array} : modAdd a b = natBe 32 ((beNat a + beNat b) % n) := by
  rw [modAdd, bytesToBigInt_eq, bytesToBigInt_eq, order_eq, ← Nat.cast_add, ← Int.ofNat_tmod,
    bigIntToBytes_natCast]

theorem xorEncrypt_eq {k : ℕ} {a b : Bytes k} :
    xorEncrypt a.toList b.toList = (a.xor b).toList := by
  refine List.ext_getElem (by simp [xorEncrypt]) fun i h _ => ?_
  have hi : i < k := by simpa [xorEncrypt] using h
  simp [xorEncrypt, Bytes.xor, hi]

/-! ## Reduction -/

theorem mod_eq {a m : ℤ} (hm : 0 < m) : mod a m = a % m := by
  rw [mod]
  have htm := Int.tmod_add_mul_tdiv a m
  have hr : (a.tmod m).natAbs < m.natAbs :=
    (Int.natAbs_tmod a m).trans_lt (Nat.mod_lt _ (Int.natAbs_pos.2 hm.ne'))
  have hemod : a % m = a.tmod m % m := by
    conv_lhs => rw [← htm, Int.add_mul_emod_self_left]
  rw [hemod]
  generalize a.tmod m = r at hr ⊢
  split
  · next h => rw [Int.emod_eq_of_lt h (by omega)]
  · next h => rw [← Int.add_emod_right, Int.emod_eq_of_lt] <;> omega

end CotMta.Client.CryptoOps
