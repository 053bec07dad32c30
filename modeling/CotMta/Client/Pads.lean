/-
  The two pads of `AliceOT.processResponse`.

  The keys are hashes of abscissas, so opposite points give one key: this
  happens for the reply `B` with `2 B = A`, and for no other.

  A reply may announce an abscissa that is not reduced, and the client computes
  on with it.  `Loose` is `Rep` without the bound on the abscissa; the functions
  on points either throw on such a point or compute in the group.
-/
import CotMta.Client.GroupLaw
import CotMta.Client.Sender

namespace CotMta.Client

open Secp256k1 ShortWeierstrass CryptoOps

variable {lhs rhs point sum product : AffinePoint} {P Q : E.Point}

namespace CryptoOps

/-! ## Points with any abscissa -/

/-- The point stands for the group element, modulo `p` in the abscissa. -/
inductive Loose : AffinePoint → E.Point → Prop
  | infinity {x y : ℤ} : Loose ⟨true, x, y⟩ 0
  | affine {P : E.Point} {x y : ℕ} : x < 2 ^ 256 → y < p → IsAt P (x : Fp) (y : Fp) →
    Loose ⟨false, x, y⟩ P

theorem Rep.loose (h : Rep point P) : Loose point P := by
  cases h with
  | infinity => exact .infinity
  | affine h => exact .affine (h.x_lt.trans (by norm_num [p])) h.y_lt h.isAt

theorem Loose.unique (h : Loose point P) (h' : Loose point Q) : P = Q := by
  cases h with
  | infinity =>
    cases h'
    rfl
  | affine hx hy hat =>
    cases h' with
    | affine hx' hy' hat' => exact hat.ext hat'

theorem addPoints_loose (hP : Loose lhs P) (hQ : Loose rhs Q) (h : addPoints lhs rhs = .ok sum) :
    Loose sum (P + Q) := by
  cases hP with
  | infinity =>
    cases h
    rwa [zero_add]
  | @affine P x y hx hy hP =>
    cases hQ with
    | infinity =>
      cases h
      rw [add_zero]
      exact .affine hx hy hP
    | @affine Q x' y' hx' hy' hQ =>
      by_cases hcast : (x : Fp) = x'
      · by_cases hne : x = x'
        · subst hne
          rcases hP.eq_or_eq_neg hQ with rfl | rfl
          · obtain rfl := natCast_inj hy hy' (hP.unique hQ).2
            obtain ⟨sum', hsum, hrep⟩ := addPoints_tangent hP
            cases h.symm.trans hsum
            exact hrep.loose
          · have hopp : (y : Fp) + y' = 0 := by rw [(hP.unique hQ.neg).2, neg_add_cancel]
            cases h.symm.trans (addPoints_opposite (x := x) hopp)
            rw [neg_add_cancel]
            exact .infinity
        · cases h.symm.trans (addPoints_congruent y y' hcast hne)
      · obtain ⟨sum', hsum, hrep⟩ := addPoints_chord hP hQ hcast
        cases h.symm.trans hsum
        exact hrep.loose

theorem scalarMultiplyLoop_loose {k : ℕ} (hP : Loose lhs P) (hQ : Loose rhs Q)
    (h : scalarMultiplyLoop lhs rhs k = .ok product) : Loose product (P + k • Q) := by
  induction k using Nat.strong_induction_on generalizing lhs rhs P Q with
  | _ k ih =>
    rcases Nat.eq_zero_or_pos k with rfl | hpos
    · rw [scalarMultiplyLoop, if_neg (lt_irrefl 0)] at h
      cases h
      rwa [zero_nsmul, add_zero]
    · rw [scalarMultiplyLoop_pos hpos] at h
      obtain ⟨result, hresult, h⟩ := bind_eq_ok.1 h
      obtain ⟨addend, haddend, h⟩ := bind_eq_ok.1 h
      have hR : Loose result (P + (k % 2) • Q) := by
        rcases Nat.mod_two_eq_zero_or_one k with hodd | hodd <;> rw [hodd] at hresult ⊢
        · cases hresult
          rwa [zero_nsmul, add_zero]
        · rw [one_nsmul]
          exact addPoints_loose hP hQ hresult
      by_cases hlast : k / 2 > 0
      · rw [if_pos hlast] at haddend
        have hk : P + k • Q = P + (k % 2) • Q + (k / 2) • (Q + Q) := by
          rw [← two_nsmul, smul_smul, add_assoc, ← add_nsmul]
          congr 2
          omega
        rw [hk]
        exact ih _ (Nat.div_lt_self hpos one_lt_two) hR (addPoints_loose hQ hQ haddend) h
      · rw [if_neg hlast] at haddend
        cases haddend
        obtain rfl : k = 1 := by omega
        have := ih 0 one_pos hR hQ h
        simpa using this

theorem scalarMultiply_loose {k : ℤ} (hP : Loose point P)
    (h : scalarMultiply k point = .ok product) : Loose product (k.toNat • P) := by
  rw [scalarMultiply] at h
  split at h
  · cases h
  · have := scalarMultiplyLoop_loose rep_pointAtInfinity.loose hP h
    rwa [zero_add] at this

/-! ## Strings -/

/-- The string is decoded, and stands for the group element. -/
def Denotes (bytes : Uint8Array) (P : E.Point) : Prop :=
  ∃ point, decodeCompressedPoint bytes = .ok point ∧ Loose point P

variable {bytes x : Uint8Array}

theorem Denotes.of_bind {α : Type} {f : AffinePoint → Throws α} {result : α}
    (hP : Denotes bytes P) (h : decodeCompressedPoint bytes >>= f = .ok result) :
    ∃ point, decodeCompressedPoint bytes = .ok point ∧ Loose point P ∧ f point = .ok result := by
  obtain ⟨point, hdec, hloose⟩ := hP
  obtain ⟨point', hdec', h⟩ := bind_eq_ok.1 h
  cases hdec.symm.trans hdec'
  exact ⟨point, hdec, hloose, h⟩

theorem exists_denotes (h : decodeCompressedPoint bytes = .ok point) : ∃ P, Loose point P := by
  obtain ⟨bytes, rfl⟩ : ∃ b : Bytes 33, b.toList = bytes := ⟨⟨bytes, length_of_decode h⟩, rfl⟩
  obtain ⟨y, hy, heq, -, rfl⟩ := decodeCompressedPoint_eq_ok.1 h
  obtain ⟨hx, hcast⟩ : abscissa bytes % p < p ∧ ((abscissa bytes % p : ℕ) : Fp) = abscissa bytes :=
    ⟨Nat.mod_lt _ p_pos, ZMod.natCast_mod _ _⟩
  obtain ⟨P, hP⟩ := exists_atNat_of_equation hx hy (by rw [hcast, heq])
  have hat := hP.isAt
  rw [hcast] at hat
  exact ⟨P, .affine abscissa_lt hy hat⟩

theorem denotes_of_encode (hP : Loose point P) (h : encodeCompressedPoint point = .ok bytes) :
    Denotes bytes P := by
  cases hP with
  | infinity => cases h
  | @affine P x y hx hy hP =>
    have hodd : (y : ℤ) % 2 = 1 ↔ y % 2 = 1 := by omega
    have hbytes : bytes = (compressedBytes x y).toList := by
      simp only [encodeCompressedPoint, Bool.false_eq_true, if_false, bigIntToBytes_natCast,
        hodd] at h
      exact (Except.ok.inj h).symm
    subst hbytes
    refine ⟨⟨false, x, y⟩, decodeCompressedPoint_eq_ok.2 ?_, .affine hx hy hP⟩
    rw [abscissa_compressedBytes hx]
    exact ⟨y, hy, hP.equation, rfl, rfl⟩

theorem scalarMultiplyPoint_denotes {scalar : Uint8Array} (hP : Denotes bytes P)
    (h : scalarMultiplyPoint scalar bytes = .ok x) : Denotes x (beNat scalar • P) := by
  obtain ⟨point, hdec, hloose, h⟩ := hP.of_bind h
  obtain ⟨product, hprod, h⟩ := bind_eq_ok.1 h
  have := scalarMultiply_loose hloose hprod
  rw [bytesToBigInt_eq, Int.toNat_natCast] at this
  exact denotes_of_encode this h

theorem pointSubtract_denotes {other : Uint8Array} (hP : Denotes bytes P) (hQ : Rep rhs Q)
    (hother : decodeCompressedPoint other = .ok rhs)
    (h : pointSubtract bytes other = .ok x) : Denotes x (P - Q) := by
  obtain ⟨point, hdec, hloose, h⟩ := hP.of_bind h
  obtain ⟨rhs', hother', h⟩ := bind_eq_ok.1 h
  cases hother.symm.trans hother'
  obtain ⟨sum, hsum, h⟩ := bind_eq_ok.1 h
  rw [sub_eq_add_neg]
  exact denotes_of_encode (addPoints_loose hloose (negatePoint_rep hQ).loose hsum) h

/-- The abscissa of the group element, in 32 bytes. -/
theorem getXCoordinate_denotes (hP : Denotes bytes P) (h : getXCoordinate bytes = .ok x) :
    x.length = 32 ∧ ∃ y, IsAt P (beNat x : Fp) y := by
  obtain ⟨point, hdec, hloose, h⟩ := hP.of_bind h
  cases hloose with
  | infinity =>
    have hfinite := (encode_of_decode hdec).1
    cases hfinite
  | @affine P x y hx hy hP =>
    cases h
    rw [bigIntToBytes_natCast, beNat_natBe (hx.trans_eq (by norm_num))]
    exact ⟨length_natBe, y, hP⟩

end CryptoOps

namespace AliceOT

variable {sha256 : List UInt8 → Bytes 32} {m0 m1 ui a : Bytes 32} {A b : Bytes 33}
  {alice : AliceOT} {nonce pointB x0 x1 : Uint8Array} {encrypted : OTEncrypted}

/-- The abscissas of `a P` and `a (P - a G)`. -/
theorem keyInputs_denotes (ha : ValidScalar a)
    (hnew : AliceOT.new m0.toList m1.toList ui.toList a.toList = .ok alice)
    (hP : Denotes pointB P) (h : keyInputs alice pointB = .ok (x0, x1)) :
    (x0.length = 32 ∧ ∃ y, IsAt (a.nat • P) (beNat x0 : Fp) y) ∧
      x1.length = 32 ∧ ∃ y, IsAt (a.nat • (P - a.nat • G)) (beNat x1 : Fp) y := by
  obtain ⟨A, hA⟩ := ha.exists_compressed G_isAt.ne_zero
  cases (AliceOT.new_eq m0 m1 ui ha hA).symm.trans hnew
  obtain ⟨own, hown, hownrep, -⟩ := decodeCompressedPoint_rep hA
  obtain ⟨s0, hs0, h⟩ := bind_eq_ok.1 h
  obtain ⟨x0', hx0, h⟩ := bind_eq_ok.1 h
  obtain ⟨d, hd, h⟩ := bind_eq_ok.1 h
  obtain ⟨s1, hs1, h⟩ := bind_eq_ok.1 h
  obtain ⟨x1', hx1, h⟩ := bind_eq_ok.1 h
  cases h
  constructor
  · exact getXCoordinate_denotes (scalarMultiplyPoint_denotes hP hs0) hx0
  · have hdiff := pointSubtract_denotes hP hownrep hown hd
    exact getXCoordinate_denotes (scalarMultiplyPoint_denotes hdiff hs1) hx1

/-- `a P` and `a (P - a G)` are opposite only for `2 P = a G`, and never equal. -/
theorem abscissas_differ (ha : ValidScalar a) (hne : 2 • P ≠ a.nat • G) {x y y' : Fp}
    (h : IsAt (a.nat • P) x y) (h' : IsAt (a.nat • (P - a.nat • G)) x y') : False := by
  have hA : a.nat • G ≠ 0 := ha.nsmul_ne_zero G_isAt.ne_zero
  rcases h.eq_or_eq_neg h' with heq | heq
  · rw [nsmul_sub, eq_comm, sub_eq_self] at heq
    exact ha.nsmul_ne_zero hA heq
  · rw [← neg_nsmul, neg_sub, ← sub_eq_zero, ← nsmul_sub] at heq
    refine ha.nsmul_ne_zero (P := P - (a.nat • G - P)) ?_ heq
    rwa [sub_sub_eq_add_sub, ← two_nsmul, Ne, sub_eq_zero]

/-- **The pads differ** for every accepted reply `B` with `2 B ≠ A`. -/
theorem pads_differ (ha : ValidScalar a)
    (hnew : AliceOT.new m0.toList m1.toList ui.toList a.toList = .ok alice)
    (hinj : ∀ x y : Bytes 32, sha256 x.toList = sha256 y.toList → x = y)
    (h : processResponse sha256 nonce alice pointB = .ok encrypted) :
    ∃ B x0 x1, Denotes pointB B ∧ keyInputs alice pointB = .ok (x0, x1) ∧
      (2 • B ≠ a.nat • G → x0 ≠ x1 ∧ deriveKey sha256 x0 ≠ deriveKey sha256 x1 ∧
        xorEncrypt encrypted.encryptedM0 encrypted.encryptedM1 ≠
          xorEncrypt m0.toList m1.toList) := by
  rw [processResponse_keyInputs] at h
  obtain ⟨⟨x0, x1⟩, hinputs, h⟩ := bind_eq_ok.1 h
  cases h
  have haccepted : ∃ B, Denotes pointB B := by
    obtain ⟨s0, hs0, -⟩ := bind_eq_ok.1 hinputs
    obtain ⟨point, hdec, -⟩ := bind_eq_ok.1 hs0
    obtain ⟨B, hB⟩ := exists_denotes hdec
    exact ⟨B, point, hdec, hB⟩
  obtain ⟨B, hB⟩ := haccepted
  refine ⟨B, x0, x1, hB, hinputs, fun hne => ?_⟩
  obtain ⟨⟨hlen0, y0, hat0⟩, hlen1, y1, hat1⟩ := keyInputs_denotes ha hnew hB hinputs
  have hx : x0 ≠ x1 := by
    rintro rfl
    exact abscissas_differ ha hne hat0 hat1
  have hkeys : sha256 x0 ≠ sha256 x1 := by
    intro heq
    exact hx (congrArg Bytes.toList (hinj ⟨x0, hlen0⟩ ⟨x1, hlen1⟩ heq))
  refine ⟨hx, fun heq => hkeys (Bytes.ext heq), ?_⟩
  obtain ⟨A, hA⟩ := ha.exists_compressed G_isAt.ne_zero
  cases (AliceOT.new_eq m0 m1 ui ha hA).symm.trans hnew
  simp only [ofBytes, deriveKey, xorEncrypt_eq]
  intro heq
  exact hkeys (Bytes.eq_of_xor_xor_xor (Bytes.ext heq))

/-- The reply `B` with `2 B = A`: both keys come from one abscissa. -/
theorem keyInputs_halfway (m0 m1 ui : Bytes 32) (ha : ValidScalar a)
    (hA : compressed (a.nat • G) = some A)
    (hP : compressed P = some b) (hhalf : 2 • P = a.nat • G) :
    ∃ x, keyInputs (ofBytes m0 m1 ui a A) b.toList = .ok (x, x) := by
  have hP0 : P ≠ 0 := by
    rintro rfl
    cases hP
  have hsub : P - a.nat • G = -P := by
    rw [← hhalf, two_nsmul]
    abel
  have hne : P ≠ a.nat • G := by
    rw [← sub_ne_zero, hsub]
    exact neg_ne_zero.2 hP0
  obtain ⟨x, y, hat⟩ := exists_atNat (ha.nsmul_ne_zero hP0)
  have hopp : compressed (a.nat • (P - a.nat • G)) = some (compressedBytes x (p - y)) := by
    rw [hsub, neg_nsmul, hat.neg.compressed]
  exact ⟨natBe 32 x, keyInputs_eq m0 m1 ui ha hA hP hne hat.compressed hopp⟩

theorem validScalar_two : ValidScalar (.ofNat 32 2) := by decide

/-- Alice's secret is two and the reply is the generator. -/
theorem pads_equal_two : ∃ alice,
    AliceOT.new (Bytes.ofNat 32 7).toList (Bytes.ofNat 32 8).toList (Bytes.ofNat 32 7).toList
        (Bytes.ofNat 32 2).toList = .ok alice ∧
      (∃ x, keyInputs alice (compressedBytes Gx Gy).toList = .ok (x, x)) ∧
      ∀ sha256 nonce, ∃ encrypted,
        processResponse sha256 nonce alice (compressedBytes Gx Gy).toList = .ok encrypted ∧
        xorEncrypt encrypted.encryptedM0 encrypted.encryptedM1 =
          xorEncrypt (Bytes.ofNat 32 7).toList (Bytes.ofNat 32 8).toList := by
  obtain ⟨A, hA⟩ := validScalar_two.exists_compressed G_isAt.ne_zero
  obtain ⟨x, hx⟩ := keyInputs_halfway (.ofNat 32 7) (.ofNat 32 8) (.ofNat 32 7) validScalar_two hA
    atNat_G.compressed rfl
  refine ⟨_, AliceOT.new_eq _ _ _ validScalar_two hA, ⟨x, hx⟩, fun sha256 nonce => ?_⟩
  refine ⟨_, by rw [processResponse_keyInputs, hx]; rfl, ?_⟩
  simp only [ofBytes, deriveKey, xorEncrypt_eq]
  exact congrArg Bytes.toList (Bytes.xor_xor_same _ _ (sha256 x))

/-- Alice's secret is two and the reply is the opposite of the generator. -/
theorem pads_differ_two : ∃ alice encrypted,
    AliceOT.new (Bytes.ofNat 32 7).toList (Bytes.ofNat 32 8).toList (Bytes.ofNat 32 7).toList
        (Bytes.ofNat 32 2).toList = .ok alice ∧
      processResponse (fun l => .ofNat 32 (beNat l)) [] alice
        (compressedBytes Gx (p - Gy)).toList = .ok encrypted ∧
      xorEncrypt encrypted.encryptedM0 encrypted.encryptedM1 ≠
        xorEncrypt (Bytes.ofNat 32 7).toList (Bytes.ofNat 32 8).toList := by
  obtain ⟨A, hA⟩ := validScalar_two.exists_compressed G_isAt.ne_zero
  have hG : AtNat (-G) Gx (p - Gy) := atNat_G.neg
  have htwo : (Bytes.ofNat 32 2).nat = 2 := by decide
  -- `-G = 2 G` and `2 (-G) = 2 G` would make three or four times the generator vanish
  have hsum : ∀ k, 0 < k → k < n → k • G ≠ 0 := fun k => nsmul_ne_zero G_isAt.ne_zero
  have hown : -G ≠ (Bytes.ofNat 32 2).nat • G := by
    rw [htwo]
    intro h
    refine hsum 3 (by decide) (by decide) ?_
    rw [succ_nsmul, ← h, neg_add_cancel]
  have hne : 2 • -G ≠ (Bytes.ofNat 32 2).nat • G := by
    rw [htwo, neg_nsmul]
    intro h
    refine hsum 4 (by decide) (by decide) ?_
    calc 4 • G = 2 • G + 2 • G := add_nsmul G 2 2
      _ = -(2 • G) + 2 • G := by rw [h]
      _ = 0 := neg_add_cancel _
  obtain ⟨s0, hs0⟩ := validScalar_two.exists_compressed hG.ne_zero
  obtain ⟨s1, hs1⟩ := validScalar_two.exists_compressed (sub_ne_zero.2 hown)
  have hinputs := keyInputs_eq (.ofNat 32 7) (.ofNat 32 8) (.ofNat 32 7) validScalar_two hA
    hG.compressed hown hs0 hs1
  have hnew := AliceOT.new_eq (.ofNat 32 7) (.ofNat 32 8) (.ofNat 32 7) validScalar_two hA
  have hinj : ∀ x y : Bytes 32, Bytes.ofNat 32 (beNat x.toList) = .ofNat 32 (beNat y.toList) →
      x = y := by
    intro x y h
    rwa [← Bytes.nat, ← Bytes.nat, Bytes.ofNat_nat, Bytes.ofNat_nat] at h
  have hresponse : ∃ encrypted, processResponse (fun l => .ofNat 32 (beNat l)) []
      (ofBytes (.ofNat 32 7) (.ofNat 32 8) (.ofNat 32 7) (.ofNat 32 2) A)
        (compressedBytes Gx (p - Gy)).toList = .ok encrypted :=
    ⟨_, by rw [processResponse_keyInputs, hinputs]; rfl⟩
  obtain ⟨encrypted, hencrypted⟩ := hresponse
  obtain ⟨B, x0, x1, hB, -, hdiffer⟩ := pads_differ validScalar_two hnew hinj hencrypted
  obtain ⟨point, hdec, hloose⟩ := hB
  obtain ⟨point', hdec', hrep, -⟩ := decodeCompressedPoint_rep hG.compressed
  cases hdec.symm.trans hdec'
  obtain rfl : B = -G := hloose.unique hrep.loose
  exact ⟨_, encrypted, hnew, hencrypted, (hdiffer hne).2.2⟩

end AliceOT
end CotMta.Client
