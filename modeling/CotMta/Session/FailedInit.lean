/-
  What a failed `process_init` leaves in the object.

  Of its failures all but the last come before the key is set.  The last one, a
  sum at infinity, is reached for the point `A = -b G` under choice bit one.
-/
import CotMta.Session.GroupOps
import CotMta.Server.Curve

namespace CotMta.Session

open Trezor Secp256k1 Server Server.CryptoOps

variable {ops : GroupOps} {sha256 : List UInt8 → Bytes 32} {bob : BobOT} {a : Point}
  {frame behind : ℕ → UInt8} {P : E.Point}

/-- The point is the opposite of `b G`, which Bob would add to it. -/
def HitsInfinity (bob : BobOT) (a : Point) : Prop :=
  bob.choice_bit ≠ 0 ∧ ValidScalar bob.secret_b ∧
    ∃ P, compressed P = some a ∧ bob.secret_b.nat • G + P = 0

/-- The object has the key that the point gives. -/
def HasKeyOf (sha256 : List UInt8 → Bytes 32) (bob : BobOT) (a : Point) : Prop :=
  ∃ P shared, compressed P = some a ∧ compressed (bob.secret_b.nat • P) = some shared ∧
    bob.decryption_key = some (sharedKey sha256 shared)

/-! ## One call -/

/-- **A call** that fails before the key is set, or one that sets it. -/
theorem processInit_cases (hops : ops.Lawful) (hpre : HasPrefix a) (bob : BobOT)
    (sha256 : List UInt8 → Bytes 32) (frame behind : ℕ → UInt8) :
    (¬HitsInfinity bob a ∧ bob.processInit ops sha256 frame ⟨a, behind⟩ = (bob, none)) ∨
      ∃ P shared, ValidScalar bob.secret_b ∧ compressed P = some a ∧
        compressed (bob.secret_b.nat • P) = some shared ∧
        bob.processInit ops sha256 frame ⟨a, behind⟩ =
          ({ bob with decryption_key := some (sharedKey sha256 shared) },
            compressed (bob.secret_b.nat • G + if bob.choice_bit = 0 then 0 else P)) := by
  by_cases hb : ValidScalar bob.secret_b
  · by_cases hA : ∃ P, compressed P = some a
    · right
      obtain ⟨P, hP⟩ := hA
      obtain ⟨shared, hshared⟩ := hb.exists_compressed (compressed_ne_zero hP)
      exact ⟨P, shared, hb, hP, hshared, BobOT.processInit_eq hops bob hb hP hshared frame behind⟩
    · left
      refine ⟨fun ⟨_, _, P, hP, _⟩ => hA ⟨P, hP⟩, ?_⟩
      have hdec : decodePoint ⟨a, behind⟩ = none :=
        (decodePoint_eq_none hpre).2 (not_exists.1 hA)
      simp only [BobOT.processInit, scalarMultiplyPoint, isValidScalar_eq, decide_eq_true hb, hdec,
        Bool.not_true, Bool.false_eq_true, if_false, Option.bind_eq_bind, Option.bind_none]
  · left
    refine ⟨fun h => hb h.2.1, ?_⟩
    simp only [BobOT.processInit, scalarMultiplyPoint, isValidScalar_eq, decide_eq_false hb,
      Bool.not_false, if_true]

/-- A call that sets the key fails exactly at infinity. -/
theorem response_eq_none (hb : ValidScalar bob.secret_b) (hP : compressed P = some a) :
    compressed (bob.secret_b.nat • G + if bob.choice_bit = 0 then 0 else P) = none ↔
      HitsInfinity bob a := by
  rw [compressed_eq_none]
  constructor
  · intro hzero
    by_cases hbit : bob.choice_bit = 0
    · rw [if_pos hbit, add_zero] at hzero
      exact absurd hzero (hb.nsmul_ne_zero G_isAt.ne_zero)
    · rw [if_neg hbit] at hzero
      exact ⟨hbit, hb, P, hP, hzero⟩
  · rintro ⟨hbit, -, P', hP', hzero⟩
    obtain rfl := compressed_injective (hP'.trans hP.symm)
    rwa [if_neg hbit]

theorem HitsInfinity.processInit (hops : ops.Lawful) (hpre : HasPrefix a)
    (h : HitsInfinity bob a) (sha256 : List UInt8 → Bytes 32) (frame behind : ℕ → UInt8) :
    (bob.processInit ops sha256 frame ⟨a, behind⟩).2 = none ∧
      (bob.processInit ops sha256 frame ⟨a, behind⟩).1.decryption_key ≠ none := by
  rcases processInit_cases hops hpre bob sha256 frame behind with
    ⟨hnot, -⟩ | ⟨P, shared, hb, hP, -, heq⟩
  · exact absurd h hnot
  · rw [heq]
    exact ⟨(response_eq_none hb hP).2 h, Option.some_ne_none _⟩

/-- **Exactly when a failed call leaves the key as it was.** -/
theorem key_unchanged_iff (hops : ops.Lawful) (hpre : HasPrefix a) :
    ((bob.processInit ops sha256 frame ⟨a, behind⟩).2 = none →
      (bob.processInit ops sha256 frame ⟨a, behind⟩).1.decryption_key = bob.decryption_key) ↔
      (HitsInfinity bob a → HasKeyOf sha256 bob a) := by
  rcases processInit_cases hops hpre bob sha256 frame behind with
    ⟨hhits, heq⟩ | ⟨P, shared, hb, hP, hshared, heq⟩
  · rw [heq]
    exact iff_of_true (fun _ => rfl) fun h => absurd h hhits
  · rw [heq, response_eq_none hb hP]
    refine forall_congr' fun _ => ?_
    constructor
    · intro hkey
      exact ⟨P, shared, hP, hshared, hkey.symm⟩
    · rintro ⟨P', shared', hP', hshared', hkey⟩
      obtain rfl := compressed_injective (hP'.trans hP.symm)
      rw [hkey, Option.some.inj (hshared'.symm.trans hshared)]

/-! ## Sequences of calls -/

/-- A call of a method of `BobOT`. -/
inductive BobCall
  | processInit (frame : ℕ → UInt8) (a_point : Located)
  | decryptMessage (encrypted : OTEncryptedPayload)

variable (ops sha256)

/-- The object after the calls. -/
def afterCalls : BobOT → List BobCall → BobOT
  | bob, [] => bob
  | bob, .processInit frame a_point :: calls =>
    afterCalls (bob.processInit ops sha256 frame a_point).1 calls
  | bob, .decryptMessage _ :: calls => afterCalls bob calls

/-- Every `process_init` fails. -/
def InitsFail : BobOT → List BobCall → Prop
  | _, [] => True
  | bob, .processInit frame a_point :: calls =>
    (bob.processInit ops sha256 frame a_point).2 = none ∧
      InitsFail (bob.processInit ops sha256 frame a_point).1 calls
  | bob, .decryptMessage _ :: calls => InitsFail bob calls

variable {ops sha256}

/-- The points of the calls of `process_init`. -/
def initPoints : List BobCall → List Point
  | [] => []
  | .processInit _ a_point :: calls => a_point.point :: initPoints calls
  | .decryptMessage _ :: calls => initPoints calls

/-- A key once set stays set. -/
theorem afterCalls_key : ∀ (calls : List BobCall) {bob : BobOT}, bob.decryption_key ≠ none →
    (∀ a ∈ initPoints calls, HasPrefix a) → ops.Lawful →
      (afterCalls ops sha256 bob calls).decryption_key ≠ none
  | [], _, h, _, _ => h
  | .decryptMessage _ :: calls, bob, h, hpre, hops => afterCalls_key calls h hpre hops
  | .processInit frame ⟨a, behind⟩ :: calls, bob, h, hpre, hops => by
    obtain ⟨ha, hpre⟩ := List.forall_mem_cons.1 hpre
    refine afterCalls_key calls ?_ hpre hops
    rcases processInit_cases hops ha bob sha256 frame behind with
      ⟨-, heq⟩ | ⟨P, shared, -, -, -, heq⟩ <;> rw [heq]
    · exact h
    · exact Option.some_ne_none _

/-- Failed calls leave no key exactly if none of them hits infinity. -/
theorem afterCalls_key_eq_none (hops : ops.Lawful) : ∀ (calls : List BobCall) {bob : BobOT},
    bob.decryption_key = none → (∀ a ∈ initPoints calls, HasPrefix a) →
      InitsFail ops sha256 bob calls →
        ((afterCalls ops sha256 bob calls).decryption_key = none ↔
          ∀ a ∈ initPoints calls, ¬HitsInfinity bob a)
  | [], bob, hkey, _, _ => iff_of_true hkey fun _ h => nomatch h
  | .decryptMessage _ :: calls, bob, hkey, hpre, hfail =>
    afterCalls_key_eq_none hops calls hkey hpre hfail
  | .processInit frame ⟨a, behind⟩ :: calls, bob, hkey, hpre, ⟨hnone, hfail⟩ => by
    obtain ⟨ha, hpre⟩ := List.forall_mem_cons.1 hpre
    simp only [initPoints, List.forall_mem_cons]
    rcases processInit_cases hops ha bob sha256 frame behind with
      ⟨hhits, heq⟩ | ⟨P, shared, hb, hP, -, heq⟩
    · rw [heq] at hfail
      rw [afterCalls, heq, afterCalls_key_eq_none hops calls hkey hpre hfail]
      exact (and_iff_right hhits).symm
    · rw [heq, response_eq_none hb hP] at hnone
      refine iff_of_false ?_ fun h => h.1 hnone
      rw [afterCalls, heq]
      exact afterCalls_key calls (Option.some_ne_none _) hpre hops

theorem decryptMessage_eq_none :
    (∀ encrypted, bob.decryptMessage encrypted = none) ↔ bob.decryption_key = none := by
  constructor
  · intro h
    cases hkey : bob.decryption_key with
    | none => rfl
    | some key =>
      have := h ⟨.ofNat 32 0, .ofNat 32 0, .ofNat 12 0⟩
      rw [BobOT.decryptMessage, hkey] at this
      cases this
  · intro hkey encrypted
    rw [BobOT.decryptMessage, hkey]

/-- **A failed `process_init`.**  It leaves the key as it was exactly if it does
    not end at infinity; and a new object whose calls all failed decrypts nothing
    exactly if none of them did. -/
theorem failed_init_iff (hops : ops.Lawful) :
    (∀ (bob : BobOT) (a : Point) frame behind, HasPrefix a →
      (((bob.processInit ops sha256 frame ⟨a, behind⟩).2 = none →
        (bob.processInit ops sha256 frame ⟨a, behind⟩).1.decryption_key = bob.decryption_key) ↔
        (HitsInfinity bob a → HasKeyOf sha256 bob a))) ∧
    ∀ choice_bit secret calls, (∀ a ∈ initPoints calls, HasPrefix a) →
      InitsFail ops sha256 (BobOT.new choice_bit secret) calls →
        ((∀ encrypted, (afterCalls ops sha256 (BobOT.new choice_bit secret) calls).decryptMessage
          encrypted = none) ↔
          ∀ a ∈ initPoints calls, ¬HitsInfinity (BobOT.new choice_bit secret) a) := by
  constructor
  · intro bob a frame behind hpre
    exact key_unchanged_iff hops hpre
  · intro choice_bit secret calls hpre hfail
    rw [decryptMessage_eq_none]
    exact afterCalls_key_eq_none hops calls rfl hpre hfail

theorem validScalar_one : ValidScalar (.ofNat 32 1) := by decide

/-- Neither the abscissa zero nor one that is not reduced belongs to a point. -/
theorem not_compressed {x y : ℕ} (hx : x = 0 ∨ p ≤ x) (hlt : x < 2 ^ 256) (P : E.Point) :
    compressed P ≠ some (compressedBytes x y) := by
  intro hP
  obtain ⟨x', y', hat, hbytes⟩ := exists_of_compressed hP
  have hlt' : x' < 2 ^ 256 := hat.x_lt.trans (by norm_num [p])
  have hsame : x = x' := by
    rw [← abscissa_compressedBytes (y := y) hlt, hbytes, abscissa_compressedBytes hlt']
  rcases hx with hzero | hlarge
  · exact hat.abscissa_ne_zero (hsame.symm.trans hzero)
  · exact absurd hat.x_lt (not_lt.2 (hsame ▸ hlarge))

theorem not_hitsInfinity (h : ∀ P, compressed P ≠ some a) : ¬HitsInfinity bob a :=
  fun ⟨_, _, P, hP, _⟩ => h P hP

/-- A point that cannot be decoded makes the call fail. -/
theorem processInit_undecodable (hops : ops.Lawful) (hpre : HasPrefix a)
    (h : ∀ P, compressed P ≠ some a) (bob : BobOT) :
    (bob.processInit ops sha256 frame ⟨a, behind⟩).2 = none := by
  rcases processInit_cases hops hpre bob sha256 frame behind with ⟨-, heq⟩ | ⟨P, -, -, hP, -⟩
  · rw [heq]
  · exact absurd hP (h P)

/-- Choice bit one and the secret one: two calls that fail on strings of no point,
    and one of `decrypt_message` between them. -/
theorem failed_init_undecodable :
    (afterCalls affineOps (fun _ => .ofNat 32 5) (BobOT.new 1 (.ofNat 32 1))
      [.processInit (fun _ => 0) ⟨compressedBytes 0 0, fun _ => 0⟩,
        .decryptMessage ⟨.ofNat 32 1, .ofNat 32 2, .ofNat 12 0⟩,
        .processInit (fun _ => 0) ⟨compressedBytes p 0, fun _ => 0⟩]).decryptMessage
          ⟨.ofNat 32 7, .ofNat 32 8, .ofNat 12 0⟩ = none := by
  have hzero : ∀ P, compressed P ≠ some (compressedBytes 0 0) :=
    not_compressed (Or.inl rfl) (by norm_num)
  have hlarge : ∀ P, compressed P ≠ some (compressedBytes p 0) :=
    not_compressed (Or.inr le_rfl) (by norm_num [p])
  refine ((failed_init_iff affineOps_lawful).2 1 (.ofNat 32 1) _ ?_ ?_).2 ?_ _
  · simp only [initPoints, List.forall_mem_cons, hasPrefix_compressedBytes, true_and]
    exact fun _ h => absurd h List.not_mem_nil
  · exact ⟨processInit_undecodable affineOps_lawful hasPrefix_compressedBytes hzero _,
      processInit_undecodable affineOps_lawful hasPrefix_compressedBytes hlarge _, trivial⟩
  · simp only [initPoints, List.forall_mem_cons]
    exact ⟨not_hitsInfinity hzero, not_hitsInfinity hlarge, fun _ h => absurd h List.not_mem_nil⟩

/-- Choice bit one and the secret one, on the opposite of the generator. -/
theorem hitsInfinity_one :
    HitsInfinity (BobOT.new 1 (.ofNat 32 1)) (compressedBytes Gx (p - Gy)) := by
  have hone : (Bytes.ofNat 32 1).nat = 1 := by decide
  refine ⟨show (1 : UInt8) ≠ 0 by decide, validScalar_one, -G, atNat_G.neg.compressed, ?_⟩
  rw [BobOT.new, hone, one_nsmul, add_neg_cancel]

/-- The call fails, and the object decrypts. -/
theorem failed_init_sets_key :
    ((BobOT.new 1 (.ofNat 32 1)).processInit affineOps (fun _ => .ofNat 32 5) (fun _ => 0)
      ⟨compressedBytes Gx (p - Gy), fun _ => 0⟩).2 = none ∧
    ((BobOT.new 1 (.ofNat 32 1)).processInit affineOps (fun _ => .ofNat 32 5) (fun _ => 0)
      ⟨compressedBytes Gx (p - Gy), fun _ => 0⟩).1.decryption_key ≠ none ∧
    ¬∀ encrypted, (afterCalls affineOps (fun _ => .ofNat 32 5) (BobOT.new 1 (.ofNat 32 1))
      [.processInit (fun _ => 0) ⟨compressedBytes Gx (p - Gy), fun _ => 0⟩]).decryptMessage
        encrypted = none := by
  obtain ⟨hnone, hkey⟩ := hitsInfinity_one.processInit affineOps_lawful
    hasPrefix_compressedBytes (fun _ => .ofNat 32 5) (fun _ => 0) (fun _ => 0)
  refine ⟨hnone, hkey, ?_⟩
  rw [decryptMessage_eq_none, afterCalls, afterCalls]
  exact hkey

end CotMta.Session
