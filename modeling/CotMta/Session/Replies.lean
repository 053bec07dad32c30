/-
  What a reply of `BobOT` tells about its choice bit.

  The secret is uniform in `[1, n - 1]`, and `b G` and `b G + A` run through the
  points once each: all but infinity, and all but `A`.
-/
import CotMta.Session.GroupOps
import CotMta.Server.Curve
import Mathlib.Probability.Distributions.Uniform

namespace CotMta.Session

open Trezor Secp256k1 Server Server.CryptoOps CurvePoint

/-! ## Secrets -/

/-- What `generate_random_scalar` returns. -/
abbrev Secret : Type := {b : Scalar // ValidScalar b}

instance : Finite Secret := by
  refine Finite.of_injective (fun b : Secret => (⟨b.1.nat, b.2.2⟩ : Fin n)) ?_
  intro b b' h
  exact Subtype.ext (Bytes.nat_injective (congrArg Fin.val h))

instance : Nonempty Secret := by
  obtain ⟨b, hb, -⟩ := existsUnique_validScalar G_isAt.ne_zero
  exact ⟨⟨b, hb.1⟩⟩

noncomputable instance : Fintype Secret := Fintype.ofFinite Secret

theorem existsUnique_secret {P : E.Point} (hP : P ≠ 0) : ∃! b : Secret, b.1.nat • G = P := by
  obtain ⟨b, ⟨hb, heq⟩, huniq⟩ := existsUnique_validScalar hP
  refine ⟨⟨b, hb⟩, heq, ?_⟩
  intro b' heq'
  exact Subtype.ext (huniq _ ⟨b'.2, heq'⟩)

/-- An outcome that exactly one secret has. -/
theorem map_uniform_apply {α : Type} {f : Secret → α} {x : α} (h : ∃! b, f b = x) :
    (PMF.uniformOfFintype Secret).map f x = (Fintype.card Secret : ENNReal)⁻¹ := by
  obtain ⟨b, hb, huniq⟩ := h
  rw [PMF.map_apply, tsum_eq_single b, if_pos hb.symm, PMF.uniformOfFintype_apply]
  intro b' hne
  exact if_neg fun h => hne (huniq b' h.symm)

/-! ## Replies -/

variable (ops : GroupOps) (sha256 : List UInt8 → Bytes 32)

/-- The reply of a new `BobOT`. -/
def reply (choice_bit : UInt8) (frame : ℕ → UInt8) (a_point : Located) (b : Secret) :
    Option Point :=
  ((BobOT.new choice_bit b.1).processInit ops sha256 frame a_point).2

variable {ops sha256} {P Q : E.Point} {a : Point} {B : Point} {cp : CurvePoint}
  {frame behind : ℕ → UInt8}

theorem reply_eq (hops : ops.Lawful) (hP : compressed P = some a) (choice_bit : UInt8)
    (b : Secret) : reply ops sha256 choice_bit frame ⟨a, behind⟩ b =
      compressed (b.1.nat • G + if choice_bit = 0 then 0 else P) := by
  obtain ⟨shared, hshared⟩ := b.2.exists_compressed (compressed_ne_zero hP)
  rw [reply, BobOT.processInit_eq hops (BobOT.new choice_bit b.1) b.2 hP hshared]
  rfl

/-- A choice bit reaches every point but the one that it adds. -/
theorem existsUnique_reply (sha256 : List UInt8 → Bytes 32) (frame behind : ℕ → UInt8)
    (hops : ops.Lawful) (hP : compressed P = some a)
    (hQ : compressed Q = some B) (choice_bit : UInt8)
    (hne : Q ≠ if choice_bit = 0 then 0 else P) :
    ∃! b, reply ops sha256 choice_bit frame ⟨a, behind⟩ b = some B := by
  obtain ⟨b, hb, huniq⟩ := existsUnique_secret (sub_ne_zero.2 hne)
  refine ⟨b, (reply_eq hops hP choice_bit b).trans ?_, ?_⟩
  · rw [hb, sub_add_cancel, hQ]
  · intro b' hb'
    have hsum := ((reply_eq hops hP choice_bit b').symm.trans hb').trans hQ.symm
    refine huniq b' ?_
    simp only [← compressed_injective hsum, add_sub_cancel_right]

/-- **The reply hides the choice bit.**  Each bit gives a point other than `A` for
    exactly one secret. -/
theorem reply_hides_choice (hops : ops.Lawful) (hpre : HasPrefix a)
    (hA : decodePoint ⟨a, behind⟩ = some cp) (hB : compressed Q = some B) (hne : B ≠ a) :
    (∃! b, reply ops sha256 0 frame ⟨a, behind⟩ b = some B) ∧
      (∃! b, reply ops sha256 1 frame ⟨a, behind⟩ b = some B) ∧
      (PMF.uniformOfFintype Secret).map (reply ops sha256 0 frame ⟨a, behind⟩) (some B) =
        (PMF.uniformOfFintype Secret).map (reply ops sha256 1 frame ⟨a, behind⟩) (some B) := by
  obtain ⟨P, hP, -⟩ := (decodePoint_eq_some hpre).1 hA
  have hQP : Q ≠ P := by
    rintro rfl
    exact hne (Option.some.inj (hB.symm.trans hP))
  have h0 := existsUnique_reply sha256 frame behind hops hP hB 0
    (by simpa using compressed_ne_zero hB)
  have h1 := existsUnique_reply sha256 frame behind hops hP hB 1
    (by simpa using hQP)
  refine ⟨h0, h1, ?_⟩
  rw [map_uniform_apply h0, map_uniform_apply h1]

/-- For the generator as `A` and its opposite as the reply. -/
theorem reply_hides_choice_G :
    ∃! b, reply affineOps (fun _ => .ofNat 32 5) 1 (fun _ => 0)
      ⟨compressedBytes Gx Gy, fun _ => 0⟩ b = some (compressedBytes Gx (p - Gy)) := by
  refine (reply_hides_choice affineOps_lawful hasPrefix_compressedBytes
    (decodePoint_eq atNat_G.compressed fun _ => 0) atNat_G.neg.compressed ?_).2.1
  intro h
  exact absurd (compressedBytes_injective atNat_G.x_lt atNat_G.x_lt h).2 (by decide)

end CotMta.Session
