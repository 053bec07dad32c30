/-
  One oblivious transfer between `BobOT` and `AliceOT`.

  Alice derives her keys from `a B` and `a (B - A)`, Bob his from `b A`; with
  `B = b G + c A` the key of the chosen message is the same on both sides.  The
  transfer fails exactly where one of the points that are sent or used is the
  point at infinity.
-/
import CotMta.Client.Sender
import CotMta.Server.Curve
import CotMta.Session.GroupOps

namespace CotMta.Session

open Trezor Secp256k1 Client Server

/-- Where a transfer stops: a call of Alice throws, `process_init` or
    `decrypt_message` reports failure, or a string does not fit its type. -/
inductive Failure
  | alice (message : String)
  | processInit
  | decryptMessage
  | length
deriving DecidableEq

/-- A throw of the client ends the round. -/
def Throws.atAlice {α : Type} : Throws α → Except Failure α
  | .ok value => .ok value
  | .error message => .error (.alice message)

/-- The bytes as an array of the server. -/
def fits (k : ℕ) (bytes : Uint8Array) : Except Failure (Bytes k) :=
  match Bytes.ofList? k bytes with
  | some value => .ok value
  | none => .error .length

section
variable (ops : GroupOps) (sha256 : List UInt8 → Bytes 32)

/-- The calls of one round, each on the result of the one before. -/
def transfer (frame behind : ℕ → UInt8) (nonce : Bytes 12) (m0 m1 ui a : Bytes 32)
    (choice_bit : UInt8) (b : Bytes 32) : Except Failure (Bytes 32) := do
  let alice ← Throws.atAlice (AliceOT.new m0.toList m1.toList ui.toList a.toList)
  let A ← fits 33 alice.A
  match (BobOT.new choice_bit b).processInit ops sha256 frame ⟨A, behind⟩ with
  | (_, none) => .error .processInit
  | (bob, some B) =>
    let encrypted ← Throws.atAlice (alice.processResponse sha256 nonce.toList B.toList)
    let encrypted_m0 ← fits 32 encrypted.encryptedM0
    let encrypted_m1 ← fits 32 encrypted.encryptedM1
    let nonce ← fits 12 encrypted.nonce
    match bob.decryptMessage ⟨encrypted_m0, encrypted_m1, nonce⟩ with
    | none => .error .decryptMessage
    | some message => .ok message

end

variable {ops : GroupOps} {sha256 : List UInt8 → Bytes 32} {a b : Bytes 32} {c : UInt8}

@[simp] theorem fits_toList {k : ℕ} (bytes : Bytes k) : fits k bytes.toList = .ok bytes := by
  rw [fits, Bytes.ofList?_toList]

/-- The choice makes Bob's point Alice's own one, or infinity. -/
def Degenerate (c : UInt8) (a b : Bytes 32) : Prop :=
  c = 0 ∧ a = b ∨ c ≠ 0 ∧ a.nat + b.nat = n

instance : Decidable (Degenerate c a b) := inferInstanceAs (Decidable (_ ∨ _))

/-- The point that Bob answers with. -/
def answer (c : UInt8) (a b : Bytes 32) : E.Point :=
  b.nat • G + if c = 0 then 0 else a.nat • G

theorem init_eq (hops : ops.Lawful) (hb : ValidScalar b) {A shared : Bytes 33}
    (hA : compressed (a.nat • G) = some A) (hshared : compressed (b.nat • a.nat • G) = some shared)
    (frame behind : ℕ → UInt8) :
    (BobOT.new c b).processInit ops sha256 frame ⟨A, behind⟩ =
      (⟨c, b, some (sharedKey sha256 shared)⟩, compressed (answer c a b)) :=
  BobOT.processInit_eq hops (BobOT.new c b) hb hA hshared frame behind

section
variable (ha : ValidScalar a) (hb : ValidScalar b)
include ha hb

theorem answer_eq_zero : answer c a b = 0 ↔ c ≠ 0 ∧ a.nat + b.nat = n := by
  rw [answer]
  by_cases hc : c = 0
  · rw [if_pos hc, add_zero]
    exact ⟨fun h => absurd h (hb.nsmul_ne_zero G_isAt.ne_zero), fun h => absurd hc h.1⟩
  · rw [if_neg hc, ha.add_eq_zero hb]
    exact ⟨fun h => ⟨hc, h⟩, fun h => h.2⟩

theorem answer_eq_own : answer c a b = a.nat • G ↔ c = 0 ∧ a = b := by
  rw [answer]
  by_cases hc : c = 0
  · rw [if_pos hc, add_zero, hb.nsmul_inj ha]
    exact ⟨fun h => ⟨hc, h.symm⟩, fun h => h.2.symm⟩
  · rw [if_neg hc, add_eq_right]
    exact ⟨fun h => absurd h (hb.nsmul_ne_zero G_isAt.ne_zero), fun h => absurd h.1 hc⟩

/-- **The keys meet:** what Alice sends in a round that is not degenerate, the
    key of `b A` opens to the chosen message. -/
theorem response_eq (sha256 : List UInt8 → Bytes 32) (hdeg : ¬Degenerate c a b)
    (m0 m1 ui : Bytes 32) :
    ∃ A B shared e0 e1, compressed (a.nat • G) = some A ∧ compressed (answer c a b) = some B ∧
      compressed (b.nat • a.nat • G) = some shared ∧
      (∀ nonce, (AliceOT.ofBytes m0 m1 ui a A).processResponse sha256 nonce B.toList =
        .ok ⟨Bytes.toList e0, Bytes.toList e1, nonce⟩) ∧
      (if c = 0 then e0 else e1).xor (sharedKey sha256 shared) = if c = 0 then m0 else m1 := by
  obtain ⟨A, hA⟩ := ha.exists_compressed G_isAt.ne_zero
  have hB0 : answer c a b ≠ 0 := fun h => hdeg (Or.inr ((answer_eq_zero ha hb).1 h))
  have hne : answer c a b ≠ a.nat • G := fun h => hdeg (Or.inl ((answer_eq_own ha hb).1 h))
  obtain ⟨B, hB⟩ := exists_compressed hB0
  obtain ⟨s0, hs0⟩ := ha.exists_compressed hB0
  obtain ⟨s1, hs1⟩ := ha.exists_compressed (sub_ne_zero.2 hne)
  obtain ⟨shared, hshared⟩ := hb.exists_compressed (ha.nsmul_ne_zero G_isAt.ne_zero)
  refine ⟨A, B, shared, m0.xor (sharedKey sha256 s0), m1.xor (sharedKey sha256 s1), hA, hB,
    hshared, fun nonce => AliceOT.processResponse_eq ha hA hB hne hs0 hs1, ?_⟩
  by_cases hc : c = 0
  · have hkey : a.nat • answer c a b = b.nat • a.nat • G := by
      rw [answer, if_pos hc, add_zero, nsmul_left_comm]
    obtain rfl : s0 = shared := Option.some.inj (hs0.symm.trans (hkey ▸ hshared))
    rw [if_pos hc, if_pos hc, Bytes.xor_xor_cancel]
  · have hkey : a.nat • (answer c a b - a.nat • G) = b.nat • a.nat • G := by
      rw [answer, if_neg hc, add_sub_cancel_right, nsmul_left_comm]
    obtain rfl : s1 = shared := Option.some.inj (hs1.symm.trans (hkey ▸ hshared))
    rw [if_neg hc, if_neg hc, Bytes.xor_xor_cancel]

/-- **One round that is not degenerate.**  Nothing depends on the bytes behind the
    points. -/
theorem round_eq (sha256 : List UInt8 → Bytes 32) (hops : ops.Lawful) (hdeg : ¬Degenerate c a b)
    (m0 m1 ui : Bytes 32) :
    ∃ A B bob e0 e1, compressed (a.nat • G) = some A ∧
      (∀ frame behind, (BobOT.new c b).processInit ops sha256 frame ⟨A, behind⟩ = (bob, some B)) ∧
      (∀ nonce, (AliceOT.ofBytes m0 m1 ui a A).processResponse sha256 nonce B.toList =
        .ok ⟨Bytes.toList e0, Bytes.toList e1, nonce⟩) ∧
      ∀ nonce, bob.decryptMessage ⟨e0, e1, nonce⟩ = some (if c = 0 then m0 else m1) := by
  obtain ⟨A, B, shared, e0, e1, hA, hB, hshared, hresponse, hmessage⟩ :=
    response_eq ha hb sha256 hdeg m0 m1 ui
  refine ⟨A, B, ⟨c, b, some (sharedKey sha256 shared)⟩, e0, e1, hA, ?_, hresponse, ?_⟩
  · intro frame behind
    rw [init_eq hops hb hA hshared, hB]
  · intro nonce
    rw [← hmessage]
    rfl

/-- **Correctness of one transfer:** Bob gets the chosen message, except when
    `B = A` and Alice has no second key, or `B` is infinity and Bob has nothing
    to send. -/
theorem transfer_eq (hops : ops.Lawful) (frame behind : ℕ → UInt8) (nonce : Bytes 12)
    (m0 m1 ui : Bytes 32) (c : UInt8) :
    transfer ops sha256 frame behind nonce m0 m1 ui a c b =
      if c = 0 ∧ a = b then .error (.alice "cannot encode point at infinity")
      else if c ≠ 0 ∧ a.nat + b.nat = n then .error .processInit
      else .ok (if c = 0 then m0 else m1) := by
  obtain ⟨A, hA⟩ := ha.exists_compressed G_isAt.ne_zero
  obtain ⟨shared, hshared⟩ := hb.exists_compressed (ha.nsmul_ne_zero G_isAt.ne_zero)
  have hnew : AliceOT.new m0.toList m1.toList ui.toList a.toList =
      .ok (AliceOT.ofBytes m0 m1 ui a A) := AliceOT.new_eq _ _ _ ha hA
  have hfits : fits 33 (AliceOT.ofBytes m0 m1 ui a A).A = .ok A := fits_toList A
  by_cases hown : c = 0 ∧ a = b
  · rw [if_pos hown]
    obtain ⟨rfl, rfl⟩ := hown
    have hinit : (BobOT.new 0 a).processInit ops sha256 frame ⟨A, behind⟩ =
        (⟨0, a, some (sharedKey sha256 shared)⟩, some A) := by
      rw [init_eq hops ha hA hshared, (answer_eq_own ha ha).2 ⟨rfl, rfl⟩, hA]
    have hthrow : (AliceOT.ofBytes m0 m1 ui a A).processResponse sha256 nonce.toList A.toList =
        .error "cannot encode point at infinity" := AliceOT.processResponse_own ha hA
    simp only [transfer, hnew, Throws.atAlice, bind, Except.bind, hfits, hinit, hthrow]
  · rw [if_neg hown]
    by_cases hzero : c ≠ 0 ∧ a.nat + b.nat = n
    · rw [if_pos hzero]
      have hinit : (BobOT.new c b).processInit ops sha256 frame ⟨A, behind⟩ =
          (⟨c, b, some (sharedKey sha256 shared)⟩, none) := by
        rw [init_eq hops hb hA hshared, (answer_eq_zero ha hb).2 hzero, compressed_zero]
      simp only [transfer, hnew, Throws.atAlice, bind, Except.bind, hfits, hinit]
    · rw [if_neg hzero]
      have hdeg : ¬Degenerate c a b := fun h => h.elim hown hzero
      obtain ⟨A', B, bob, e0, e1, hA', hinit, hresponse, hdecrypt⟩ :=
        round_eq ha hb sha256 hops hdeg m0 m1 ui
      obtain rfl : A' = A := Option.some.inj (hA'.symm.trans hA)
      simp only [transfer, hnew, Throws.atAlice, bind, Except.bind, hfits, hinit, hresponse,
        fits_toList, hdecrypt]

end

/-- Bob's secret `2`, Alice's `1`, bit one: Bob gets the second message. -/
theorem transfer_one_two :
    transfer affineOps (fun _ => Bytes.ofNat 32 5) (fun _ => 0) (fun _ => 0) (Bytes.ofNat 12 0)
      (Bytes.ofNat 32 7) (Bytes.ofNat 32 8) (Bytes.ofNat 32 7) (Bytes.ofNat 32 1) 1
      (Bytes.ofNat 32 2) = .ok (Bytes.ofNat 32 8) :=
  transfer_eq (by decide) (by decide) affineOps_lawful _ _ _ _ _ _ 1

end CotMta.Session
