/-
  Which bytes the parser of points reads.

  `ecdsa_read_pubkey` was written for keys of 33 and of 65 bytes and takes the
  length from the first byte, but a `Point` always has 33 bytes: with the prefix
  `0x04` the parser goes on reading behind the point.  With every other prefix
  it stays inside, and the operations on points are functions of the 33 bytes.
-/
import CotMta.Server.OtProtocol

namespace CotMta.Server

open Trezor CryptoOps

/-- The parser, on reads that are checked against the length of the point, finds
    every byte that it asks for. -/
def ReadsInside (point : Point) : Prop :=
  ∃ result, ecdsaReadPubkey machine (fun i => point.toList[i]?) = some result

/-- What the operations on points do with `point` does not depend on the bytes
    behind it, nor `process_init` on those behind its own point. -/
structure FunctionOfBytes (point : Point) : Prop where
  decode : ∀ b b', decodePoint ⟨point, b⟩ = decodePoint ⟨point, b'⟩
  multiply : ∀ ops scalar b b',
    scalarMultiplyPoint ops scalar ⟨point, b⟩ = scalarMultiplyPoint ops scalar ⟨point, b'⟩
  add_left : ∀ ops rhs b b', pointAdd ops ⟨point, b⟩ rhs = pointAdd ops ⟨point, b'⟩ rhs
  add_right : ∀ ops lhs b b', pointAdd ops lhs ⟨point, b⟩ = pointAdd ops lhs ⟨point, b'⟩
  subtract_left : ∀ ops rhs b b',
    pointSubtract ops ⟨point, b⟩ rhs = pointSubtract ops ⟨point, b'⟩ rhs
  subtract_right : ∀ ops lhs b b',
    pointSubtract ops lhs ⟨point, b⟩ = pointSubtract ops lhs ⟨point, b'⟩
  process_init : ∀ ops sha256 (bob : BobOT) frame frame' b b',
    bob.processInit ops sha256 frame ⟨point, b⟩ = bob.processInit ops sha256 frame' ⟨point, b'⟩

/-! ## The parser on checked reads -/

section
variable {W : Arith} {read : ℕ → Option UInt8} {f : ℕ → UInt8}

theorem readBytes_some : ∀ {k o : ℕ}, (∀ i < o + k, read i = some (f i)) →
    readBytes read k o = some (Id.run (readBytes (fun i => pure (f i)) k o))
  | 0, _, _ => rfl
  | k + 1, o, h => by
    have htail := readBytes_some (k := k) (o := o + 1) fun i hi => h i (by omega)
    rw [readBytes, h o (by omega), htail]
    rfl

/-- Off the prefix `0x04`, a memory whose first 33 bytes can be read is parsed as
    if all of it could be. -/
theorem ecdsaReadPubkey_some (hread : ∀ i < 33, read i = some (f i)) (hhead : f 0 ≠ 0x04) :
    ecdsaReadPubkey W read = some (Id.run (ecdsaReadPubkey W fun i => pure (f i))) := by
  have hbytes := readBytes_some (k := 32) (o := 1) fun i hi => hread i (by omega)
  simp only [ecdsaReadPubkey, hread 0 (by omega), Option.bind_eq_bind, Option.bind_some, hhead,
    if_false]
  by_cases hpre : f 0 = 0x02 ∨ f 0 = 0x03
  · rw [if_pos hpre, hbytes]
    simp only [Id.run_bind, Id.run_pure, if_neg hhead, if_pos hpre]
    rfl
  · rw [if_neg hpre]
    simp only [Id.run_bind, Id.run_pure, if_neg hhead, if_neg hpre]
    rfl

/-- With the prefix `0x04` the parser asks for the byte at index 33. -/
theorem ecdsaReadPubkey_none (hhead : read 0 = some 0x04) (hend : read 33 = none) :
    ecdsaReadPubkey W read = none := by
  have hbytes : readBytes read 32 33 = none := by
    rw [readBytes, hend]
    rfl
  simp [ecdsaReadPubkey, hhead, hbytes]

end

/-! ## Points -/

variable {point : Point}

theorem byte_eq {b : ℕ → UInt8} {i : ℕ} (hi : i < 33) :
    point.toList[i]? = some (Located.byte ⟨point, b⟩ i) := by
  have hlen : i < point.toList.length := by rwa [point.length_toList]
  rw [Located.byte, dif_pos hlen, List.getElem?_eq_getElem hlen]

theorem head_eq {b : ℕ → UInt8} : point.toList.head? = some (Located.byte ⟨point, b⟩ 0) := by
  rw [List.head?_eq_getElem?]
  exact byte_eq (by omega)

theorem checked_eq_decodePoint (hhead : point.toList.head? ≠ some 0x04) (b : ℕ → UInt8) :
    ecdsaReadPubkey machine (fun i => point.toList[i]?) = some (decodePoint ⟨point, b⟩) := by
  refine ecdsaReadPubkey_some (fun i hi => byte_eq hi) ?_
  intro h
  exact hhead (by rw [head_eq (b := b), h])

theorem decodePoint_behind (hhead : point.toList.head? ≠ some 0x04) (b b' : ℕ → UInt8) :
    decodePoint ⟨point, b⟩ = decodePoint ⟨point, b'⟩ := by
  have h := checked_eq_decodePoint hhead b
  rw [checked_eq_decodePoint hhead b'] at h
  exact (Option.some.inj h).symm

/-- The points that the server makes itself have the prefix `0x02` or `0x03`. -/
theorem head_getPublicKey33 {W : Arith} {ops : GroupOps} {scalar : Bytes 32} :
    (ecdsaGetPublicKey33 W ops scalar).toList.head? ≠ some 0x04 := by
  simp only [ecdsaGetPublicKey33, List.head?_cons, ne_eq, Option.some.injEq]
  have hodd : ∀ k : ℕ, k &&& 0x01 = 0 ∨ k &&& 0x01 = 1 := by
    intro k
    rw [Nat.and_one_is_mod]
    omega
  rcases hodd ((ops.scalar_multiply (bnReadBe W scalar)).y.limb 0) with h | h <;> rw [h] <;> decide

theorem head_scalarMultiplyG {ops : GroupOps} {scalar : Scalar} {b_g : Point}
    (h : scalarMultiplyG ops scalar = some b_g) : b_g.toList.head? ≠ some 0x04 := by
  rw [scalarMultiplyG] at h
  split at h
  · cases h
  · cases h
    exact head_getPublicKey33

theorem functionOfBytes (hhead : point.toList.head? ≠ some 0x04) : FunctionOfBytes point where
  decode := decodePoint_behind hhead
  multiply ops scalar b b' := by
    rw [scalarMultiplyPoint, scalarMultiplyPoint, decodePoint_behind hhead b b']
  add_left ops rhs b b' := by rw [pointAdd, pointAdd, decodePoint_behind hhead b b']
  add_right ops lhs b b' := by rw [pointAdd, pointAdd, decodePoint_behind hhead b b']
  subtract_left ops rhs b b' := by
    rw [pointSubtract, pointSubtract, decodePoint_behind hhead b b']
  subtract_right ops lhs b b' := by
    rw [pointSubtract, pointSubtract, decodePoint_behind hhead b b']
  process_init ops sha256 bob frame frame' b b' := by
    have hmul : scalarMultiplyPoint ops bob.secret_b ⟨point, b⟩ =
        scalarMultiplyPoint ops bob.secret_b ⟨point, b'⟩ := by
      rw [scalarMultiplyPoint, scalarMultiplyPoint, decodePoint_behind hhead b b']
    have hadd : ∀ b_g, scalarMultiplyG ops bob.secret_b = some b_g →
        pointAdd ops ⟨b_g, frame⟩ ⟨point, b⟩ = pointAdd ops ⟨b_g, frame'⟩ ⟨point, b'⟩ := by
      intro b_g hb_g
      rw [pointAdd, pointAdd, decodePoint_behind hhead b b',
        decodePoint_behind (head_scalarMultiplyG hb_g) frame frame']
    rw [BobOT.processInit, BobOT.processInit, hmul]
    cases scalarMultiplyPoint ops bob.secret_b ⟨point, b'⟩ with
    | none => rfl
    | some shared =>
      cases hx : getXCoordinate shared with
      | none => simp only [hx]
      | some x =>
        cases hb_g : scalarMultiplyG ops bob.secret_b with
        | none => simp only [hx, hb_g]
        | some b_g => simp only [hx, hb_g, hadd b_g hb_g]

/-- **The operations look only at the 33 bytes exactly for the points without
    the prefix `0x04`.** -/
theorem looks_only_at_point_iff (point : Point) :
    ReadsInside point ∧ FunctionOfBytes point ↔ point.toList.head? ≠ some 0x04 := by
  constructor
  · rintro ⟨⟨result, hresult⟩, -⟩ hhead
    have hnone : ecdsaReadPubkey machine (fun i => point.toList[i]?) = none := by
      refine ecdsaReadPubkey_none ?_ (List.getElem?_eq_none (by simp))
      rw [← List.head?_eq_getElem?, hhead]
    rw [hnone] at hresult
    cases hresult
  · intro hhead
    exact ⟨⟨_, checked_eq_decodePoint hhead fun _ => 0⟩, functionOfBytes hhead⟩

/-- The generator's abscissa behind the prefix `0x04`. -/
def uncompressedHalf : Point := ⟨0x04 :: natBe 32 Secp256k1.Gx, by simp⟩

/-- The point is accepted if the generator's ordinate happens to follow in
    memory, and rejected if zeros do. -/
theorem uncompressedHalf_not_function :
    ¬ReadsInside uncompressedHalf ∧ ¬FunctionOfBytes uncompressedHalf := by
  constructor
  · intro ⟨result, hresult⟩
    have hnone : ecdsaReadPubkey machine (fun i => uncompressedHalf.toList[i]?) = none :=
      ecdsaReadPubkey_none rfl rfl
    rw [hnone] at hresult
    cases hresult
  · intro h
    have hne : decodePoint ⟨uncompressedHalf, fun i => (natBe 32 Secp256k1.Gy).getD i 0⟩ ≠
        decodePoint ⟨uncompressedHalf, fun _ => 0⟩ := by decide +kernel
    exact hne (h.decode _ _)

end CotMta.Server
