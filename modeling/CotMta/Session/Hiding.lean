/-
  What the peer of a client learns about its share `x`.

  The peer sends what it likes, and opens one of the two messages of each round.
  The key of the other message is the digest of a string.  As long as these
  strings are no other keys, a client with another share, other masks and a hash
  that differs at these strings only does the same.
-/
import CotMta.Session.ClientRuns

namespace CotMta.Session

open Trezor Secp256k1 Client Client.CryptoOps Server Proc

/-! ## A hash that is changed -/

section
variable (hash : List UInt8 → Bytes 32) (target : ℕ → Option (List UInt8)) (delta : ℕ → Bytes 32)

/-- The hash, changed at the target of each round. -/
def changed (input : List UInt8) : Bytes 32 :=
  match (List.range 256).find? fun i => target i = some input with
  | none => hash input
  | some i => (hash input).xor (delta i)

variable {hash target delta} {input : List UInt8}

theorem changed_of_ne (h : ∀ i < 256, target i ≠ some input) :
    changed hash target delta input = hash input := by
  have hnone : (List.range 256).find? (fun i => target i = some input) = none := by
    rw [List.find?_eq_none]
    intro i hi
    rw [decide_eq_true_eq]
    exact h i (List.mem_range.1 hi)
  rw [changed, hnone]

theorem changed_target {i : ℕ} (hi : i < 256) (htarget : target i = some input)
    (hother : ∀ j < 256, target j = some input → j = i) :
    changed hash target delta input = (hash input).xor (delta i) := by
  rw [changed]
  cases hfind : (List.range 256).find? (fun i => target i = some input) with
  | none =>
    have hne := List.find?_eq_none.1 hfind i (List.mem_range.2 hi)
    rw [decide_eq_true_eq] at hne
    exact absurd htarget hne
  | some j =>
    have hj := List.find?_some hfind
    rw [decide_eq_true_eq] at hj
    rw [hother j (List.mem_range.1 (List.mem_of_find?_eq_some hfind)) hj]

end

/-! ## Two clients -/

variable {sha256 sha256' : List UInt8 → Bytes 32} {proto : ProtoTypes} {c c' : AliceChoices}
  {y : Scalar} {b : ℕ → Scalar} {inputs : List Frame}

/-- The arguments of the two keys of a round, if a reply comes and is accepted. -/
def keyPair (proto : ProtoTypes) (c : AliceChoices) (inputs : List Frame) (i : ℕ) :
    Option (Uint8Array × Uint8Array) := do
  let pointB ← (proto.decodeOTResponse (← inputs[i]?)).toOption
  let alice ← (AliceOT.new (c.ui i).toList (c.m1 i).toList (c.ui i).toList (c.a i).toList).toOption
  (AliceOT.keyInputs alice pointB).toOption

theorem keyPair_eq {i : ℕ} (ha : ValidScalar (c.a i)) {A : Bytes 33}
    (hA : compressed ((c.a i).nat • G) = some A) {frame : Frame} (hframe : inputs[i]? = some frame)
    {pointB : Uint8Array} (hdecode : proto.decodeOTResponse frame = .ok pointB) :
    keyPair proto c inputs i =
      (AliceOT.keyInputs (AliceOT.ofBytes (c.ui i) (c.m1 i) (c.ui i) (c.a i) A) pointB).toOption := by
  have hnew := AliceOT.new_eq (c.ui i) (c.m1 i) (c.ui i) ha hA
  rw [keyPair, hframe]
  simp only [Option.bind_eq_bind, Option.bind_some, hdecode, hnew, Except.toOption]

/-- The ciphertexts of a round are the same. -/
def SamePads (sha256 sha256' : List UInt8 → Bytes 32) (c c' : AliceChoices) (i : ℕ)
    (r : Uint8Array × Uint8Array) : Prop :=
  (c'.ui i).xor (sha256' r.1) = (c.ui i).xor (sha256 r.1) ∧
    (c'.m1 i).xor (sha256' r.2) = (c.m1 i).xor (sha256 r.2)

/-- `processResponse` of both clients, which hold the same point. -/
theorem processResponse_same {i : ℕ} (hnonce : c'.nonce = c.nonce) (ha : c'.a = c.a)
    {A : Bytes 33} {pointB : Uint8Array}
    (hpads : ∀ r, AliceOT.keyInputs (AliceOT.ofBytes (c.ui i) (c.m1 i) (c.ui i) (c.a i) A) pointB =
      .ok r → SamePads sha256 sha256' c c' i r) :
    (AliceOT.ofBytes (c'.ui i) (c'.m1 i) (c'.ui i) (c'.a i) A).processResponse sha256'
        (c'.nonce i).toList pointB =
      (AliceOT.ofBytes (c.ui i) (c.m1 i) (c.ui i) (c.a i) A).processResponse sha256
        (c.nonce i).toList pointB := by
  have hinputs : AliceOT.keyInputs (AliceOT.ofBytes (c'.ui i) (c'.m1 i) (c'.ui i) (c'.a i) A)
      pointB = AliceOT.keyInputs (AliceOT.ofBytes (c.ui i) (c.m1 i) (c.ui i) (c.a i) A) pointB := by
    simp only [AliceOT.keyInputs, AliceOT.ofBytes, ha]
  rw [AliceOT.processResponse_keyInputs, AliceOT.processResponse_keyInputs, hinputs]
  cases hkeys : AliceOT.keyInputs (AliceOT.ofBytes (c.ui i) (c.m1 i) (c.ui i) (c.a i) A) pointB with
  | error text => rfl
  | ok r =>
    obtain ⟨h0, h1⟩ := hpads r hkeys
    refine congrArg Except.ok ?_
    simp only [AliceOT.ofBytes, deriveKey, xorEncrypt_eq, h0, h1, hnonce]

/-- **A round** of two clients with the same ciphertexts. -/
theorem round_feed {i : ℕ} (hi : i < 256) (hc : c.Valid) (ha : c'.a = c.a)
    (hnonce : c'.nonce = c.nonce)
    (hpads : ∀ r ∈ keyPair proto c inputs i, SamePads sha256 sha256' c c' i r)
    {k k' : Uint8Array → Client.Session DemoOutput}
    (hk : (k' (c'.ui i).toList).feed (inputs.drop (i + 1)) =
      (k (c.ui i).toList).feed (inputs.drop (i + 1))) :
    (networkRound sha256' (c'.draws y b) proto c'.x.toList i >>= k').feed (inputs.drop i) =
      (networkRound sha256 (c.draws y b) proto c.x.toList i >>= k).feed (inputs.drop i) := by
  obtain ⟨A, hA⟩ := (hc.a i hi).exists_compressed G_isAt.ne_zero
  have hvalid' : ValidScalar (c'.a i) := ha ▸ hc.a i hi
  have hA' : compressed ((c'.a i).nat • G) = some A := ha ▸ hA
  simp only [networkRound_eq (hc.a i hi) hA, networkRound_eq hvalid' hA', Proc.bind_assoc]
  rw [feed_send, feed_send]
  refine congrArg _ ?_
  cases hframes : inputs.drop i with
  | nil => rw [feed_receive_nil, feed_receive_nil]
  | cons frame rest =>
    have hframe : inputs[i]? = some frame := by
      rw [← List.head?_drop, hframes]
      rfl
    have hrest : inputs.drop (i + 1) = rest := by
      rw [← List.tail_drop, hframes]
      rfl
    rw [hrest] at hk
    cases hdecode : proto.decodeOTResponse frame with
    | error text => rw [feed_receive_error hdecode, feed_receive_error hdecode]
    | ok pointB =>
      have hpads' : ∀ r, AliceOT.keyInputs (AliceOT.ofBytes (c.ui i) (c.m1 i) (c.ui i) (c.a i) A)
          pointB = .ok r → SamePads sha256 sha256' c c' i r := by
        intro r hkeys
        refine hpads r ?_
        rw [keyPair_eq (hc.a i hi) hA hframe hdecode, hkeys]
        rfl
      have hsame := processResponse_same hnonce ha hpads'
      rw [feed_receive_ok hdecode, feed_receive_ok hdecode, hsame]
      refine congrArg _ ?_
      cases AliceOT.processResponse sha256 (c.nonce i).toList
          (AliceOT.ofBytes (c.ui i) (c.m1 i) (c.ui i) (c.a i) A) pointB with
      | error text => rfl
      | ok encrypted =>
        simp only [attempt, Proc.done_bind]
        rw [feed_send, feed_send]
        exact congrArg _ hk

/-- **The rounds** of two clients with the same ciphertexts. -/
theorem rounds_feed (hc : c.Valid) (ha : c'.a = c.a) (hnonce : c'.nonce = c.nonce)
    (hpads : ∀ i < 256, ∀ r ∈ keyPair proto c inputs i, SamePads sha256 sha256' c c' i r)
    {k k' : List Uint8Array → Client.Session DemoOutput}
    (hk : ∀ ui ui' frames, (k' ui').feed frames = (k ui).feed frames) :
    ∀ (count i : ℕ) (ui ui' : List Uint8Array), i + count ≤ 256 →
      (networkRounds sha256' (c'.draws y b) proto c'.x.toList count i ui' >>= k').feed
        (inputs.drop i) =
      (networkRounds sha256 (c.draws y b) proto c.x.toList count i ui >>= k).feed (inputs.drop i)
  | 0, i, ui, ui', _ => hk ui ui' _
  | count + 1, i, ui, ui', hle => by
    have hi : i < 256 := by omega
    simp only [networkRounds, Proc.bind_assoc]
    exact round_feed hi hc ha hnonce (hpads i hi)
      (rounds_feed hc ha hnonce hpads hk count (i + 1) _ _ (by omega))

/-- Without the reveal nothing is sent behind the rounds. -/
theorem finish_feed (x x' : Uint8Array) (ui ui' : List Uint8Array) (frames : List Frame) :
    (networkFinish proto false x' ui').feed frames = (networkFinish proto false x ui).feed frames := by
  cases frames with
  | nil => rfl
  | cons frame frames =>
    rw [networkFinish, networkFinish]
    cases hdecode : proto.decodeMTAShare frame with
    | error text => rw [feed_receive_error hdecode, feed_receive_error hdecode]
    | ok v =>
      rw [feed_receive_ok hdecode, feed_receive_ok hdecode]
      rfl

theorem client_feed (hc : c.Valid) (ha : c'.a = c.a) (hnonce : c'.nonce = c.nonce)
    (hpads : ∀ i < 256, ∀ r ∈ keyPair proto c inputs i, SamePads sha256 sha256' c c' i r) :
    (client sha256' proto c' y b false).feed inputs =
      (client sha256 proto c y b false).feed inputs := by
  rw [client_opens, client_opens, feed_send, feed_send]
  exact congrArg _ (rounds_feed hc ha hnonce hpads (finish_feed c.x.toList c'.x.toList) 256 0 [] []
    le_rfl)

/-! ## The message that is not opened -/

/-- One of the two messages of a round. -/
def message (c : AliceChoices) (second : Bool) (i : ℕ) : Scalar :=
  if second then c.m1 i else c.ui i

/-- What belongs to one of the two messages. -/
def side {α : Type} (second : Bool) (r : α × α) : α := if second then r.2 else r.1

/-- The keys of the other messages are from strings of their own. -/
def Apart (proto : ProtoTypes) (c : AliceChoices) (inputs : List Frame) (chosen : ℕ → Bool) : Prop :=
  ∀ i < 256, ∀ r ∈ keyPair proto c inputs i, ∀ j < 256, ∀ s ∈ keyPair proto c inputs j,
    side (!chosen i) r ≠ side (chosen j) s ∧ (i ≠ j → side (!chosen i) r ≠ side (!chosen j) s)

/-- The hashes agree but for the strings of the other messages. -/
def AgreeElsewhere (proto : ProtoTypes) (c : AliceChoices) (inputs : List Frame)
    (chosen : ℕ → Bool) (sha256 sha256' : List UInt8 → Bytes 32) : Prop :=
  ∀ input, (∀ i < 256, ∀ r ∈ keyPair proto c inputs i, side (!chosen i) r ≠ input) →
    sha256' input = sha256 input

/-- **A hash for other messages**: what was opened stays as it is. -/
theorem exists_hash {chosen : ℕ → Bool}
    (hchosen : ∀ i < 256, message c' (chosen i) i = message c (chosen i) i)
    (hapart : Apart proto c inputs chosen) (sha256 : List UInt8 → Bytes 32) :
    ∃ sha256', AgreeElsewhere proto c inputs chosen sha256 sha256' ∧
      ∀ i < 256, ∀ r ∈ keyPair proto c inputs i, SamePads sha256 sha256' c c' i r := by
  let target i := (keyPair proto c inputs i).map (side (!chosen i))
  let delta i := (message c (!chosen i) i).xor (message c' (!chosen i) i)
  have htarget : ∀ {i input}, target i = some input ↔
      ∃ r ∈ keyPair proto c inputs i, side (!chosen i) r = input := Option.map_eq_some_iff
  refine ⟨changed sha256 target delta, ?_, ?_⟩
  · intro input h
    refine changed_of_ne fun i hi heq => ?_
    obtain ⟨r, hr, hside⟩ := htarget.1 heq
    exact h i hi r hr hside
  · intro i hi r hr
    have hopened : changed sha256 target delta (side (chosen i) r) = sha256 (side (chosen i) r) := by
      refine changed_of_ne fun j hj heq => ?_
      obtain ⟨s, hs, hside⟩ := htarget.1 heq
      exact (hapart j hj s hs i hi r hr).1 hside
    have hother : changed sha256 target delta (side (!chosen i) r) =
        (sha256 (side (!chosen i) r)).xor (delta i) := by
      refine changed_target hi (htarget.2 ⟨r, hr, rfl⟩) fun j hj heq => ?_
      obtain ⟨s, hs, hside⟩ := htarget.1 heq
      by_contra hne
      exact (hapart j hj s hs i hi r hr).2 hne hside
    have hpad : (message c' (!chosen i) i).xor (changed sha256 target delta (side (!chosen i) r)) =
        (message c (!chosen i) i).xor (sha256 (side (!chosen i) r)) := by
      rw [hother]
      calc (message c' (!chosen i) i).xor ((sha256 (side (!chosen i) r)).xor (delta i))
        _ = (((message c (!chosen i) i).xor (sha256 (side (!chosen i) r))).xor
              (message c' (!chosen i) i)).xor (message c' (!chosen i) i) := by
          simp only [delta]
          ac_rfl
        _ = (message c (!chosen i) i).xor (sha256 (side (!chosen i) r)) :=
          Bytes.xor_xor_cancel _ _
    have hkept : (message c' (chosen i) i).xor (changed sha256 target delta (side (chosen i) r)) =
        (message c (chosen i) i).xor (sha256 (side (chosen i) r)) := by
      rw [hchosen i hi, hopened]
    cases hside : chosen i with
    | false =>
      rw [hside] at hpad hkept
      exact ⟨hkept, hpad⟩
    | true =>
      rw [hside] at hpad hkept
      exact ⟨hpad, hkept⟩

/-- The client with another share, and masks under which the opened messages are
    the same. -/
def withShare (c : AliceChoices) (chosen : ℕ → Bool) (x' : Scalar) : AliceChoices :=
  { c with
    given := some x'
    ui := fun i =>
      if chosen i then Bytes.ofNat 32 (((c.m1 i).nat + (n - x'.nat)) % n) else c.ui i }

theorem m1_lt (c : AliceChoices) (i : ℕ) : (c.m1 i).nat < n := by
  have hlt := Nat.mod_lt ((c.ui i).nat + c.x.nat) n_pos
  rw [AliceChoices.m1, Bytes.nat_ofNat (hlt.trans (by norm_num [n]))]
  exact hlt

section
variable {chosen : ℕ → Bool} {x' : Scalar}

/-- The mask of a round whose second message is opened. -/
theorem withShare_ui {i : ℕ} (h : chosen i = true) :
    ((withShare c chosen x').ui i).nat = ((c.m1 i).nat + (n - x'.nat)) % n := by
  have hlt := Nat.mod_lt ((c.m1 i).nat + (n - x'.nat)) n_pos
  simp only [withShare, h, if_true]
  exact Bytes.nat_ofNat (hlt.trans (by norm_num [n]))

theorem withShare_message (hx' : ValidScalar x') (i : ℕ) :
    message (withShare c chosen x') (chosen i) i = message c (chosen i) i := by
  cases h : chosen i with
  | false => simp [message, withShare, h]
  | true =>
    have hm := m1_lt c i
    have hsum : (((c.m1 i).nat + (n - x'.nat)) % n + x'.nat) % n = (c.m1 i).nat := by
      have hadd : (c.m1 i).nat + (n - x'.nat) + x'.nat = (c.m1 i).nat + n := by
        have := hx'.2
        omega
      rw [Nat.mod_add_mod, hadd, Nat.add_mod_right, Nat.mod_eq_of_lt hm]
    have hx : (withShare c chosen x').x = x' := rfl
    simp only [message, if_true]
    rw [AliceChoices.m1, withShare_ui h, hx, hsum, Bytes.ofNat_nat]

theorem withShare_valid (hc : c.Valid) (hx' : ValidScalar x')
    (hmask : ∀ i < 256, chosen i = true → c.m1 i ≠ x') : (withShare c chosen x').Valid where
  x := hx'
  ui i hi := by
    cases h : chosen i with
    | false =>
      have hui := hc.ui i hi
      simpa [withShare, h] using hui
    | true =>
      rw [ValidScalar, withShare_ui h]
      refine ⟨Nat.pos_of_ne_zero fun hzero => hmask i hi h (Bytes.nat_injective ?_), Nat.mod_lt _ n_pos⟩
      have hm := m1_lt c i
      obtain ⟨hpos, hlt⟩ := hx'
      obtain ⟨k, hk⟩ := Nat.dvd_of_mod_eq_zero hzero
      have hlow : k ≠ 0 := by
        rintro rfl
        omega
      have hhigh : ¬2 ≤ k := by
        intro hk2
        have htwice := Nat.mul_le_mul_left n hk2
        omega
      obtain rfl : k = 1 := by omega
      omega
  a := hc.a

end

/-- **Nothing that the client sends fixes its share.**  Whatever comes in and
    whichever messages are opened, a client with the share `x'` does the same for
    some masks and some hash, which keep what was opened and every other digest. -/
theorem share_hidden (hc : c.Valid) {chosen : ℕ → Bool} (hapart : Apart proto c inputs chosen)
    {x' : Scalar} (hx' : ValidScalar x') (hmask : ∀ i < 256, chosen i = true → c.m1 i ≠ x') :
    ∃ c', c'.Valid ∧ c'.x = x' ∧
      (∀ i < 256, message c' (chosen i) i = message c (chosen i) i) ∧
      ∃ sha256', AgreeElsewhere proto c inputs chosen sha256 sha256' ∧
        (client sha256' proto c' y b false).feed inputs =
          (client sha256 proto c y b false).feed inputs := by
  have hchosen : ∀ i < 256, message (withShare c chosen x') (chosen i) i = message c (chosen i) i :=
    fun i _ => withShare_message hx' i
  obtain ⟨sha256', hagree, hpads⟩ := exists_hash hchosen hapart sha256
  exact ⟨withShare c chosen x', withShare_valid hc hx' hmask, rfl, hchosen, sha256', hagree,
    client_feed hc rfl rfl hpads⟩

/-- One reply, of a point that is not half of Alice's: its two keys are apart. -/
theorem apart_reply (ha : ValidScalar (c.a 0)) {frame : Frame} {B : Bytes 33} {P : E.Point}
    (hdecode : proto.decodeOTResponse frame = .ok B.toList) (hB : compressed P = some B)
    (hne : 2 • P ≠ (c.a 0).nat • G) (chosen : ℕ → Bool) : Apart proto c [frame] chosen := by
  obtain ⟨A, hA⟩ := ha.exists_compressed G_isAt.ne_zero
  obtain ⟨point, hpoint, hrep, -⟩ := decodeCompressedPoint_rep hB
  have hfirst : ∀ {i r}, r ∈ keyPair proto c [frame] i → i = 0 := by
    intro i r hr
    by_contra hi
    have hnone : [frame][i]? = none := by
      rw [List.getElem?_eq_none_iff, List.length_singleton]
      omega
    rw [keyPair, hnone] at hr
    cases hr
  have hdiffer : ∀ r ∈ keyPair proto c [frame] 0, r.1 ≠ r.2 := by
    rintro ⟨x0, x1⟩ hr heq
    obtain rfl : x0 = x1 := heq
    rw [keyPair_eq ha hA rfl hdecode] at hr
    cases hkeys : AliceOT.keyInputs (AliceOT.ofBytes (c.ui 0) (c.m1 0) (c.ui 0) (c.a 0) A)
        B.toList with
    | error text =>
      rw [hkeys] at hr
      cases hr
    | ok r =>
      rw [hkeys] at hr
      cases hr
      obtain ⟨⟨-, y0, hat0⟩, -, y1, hat1⟩ := AliceOT.keyInputs_denotes ha
        (AliceOT.new_eq (c.ui 0) (c.m1 0) (c.ui 0) ha hA) ⟨point, hpoint, hrep.loose⟩ hkeys
      exact AliceOT.abscissas_differ ha hne hat0 hat1
  intro i _ r hr j _ s hs
  obtain rfl := hfirst hr
  obtain rfl := hfirst hs
  obtain rfl : r = s := Option.some.inj (hr.symm.trans hs)
  refine ⟨?_, fun h => absurd rfl h⟩
  have hrs := hdiffer r hr
  cases chosen 0 with
  | false => exact hrs.symm
  | true => exact hrs

/-- The share nine in place of three, behind one reply of an honest server. -/
theorem share_hidden_nine : ∃ B, compressed ((Bytes.ofNat 32 2).nat • G) = some B ∧
    ∃ c', c'.Valid ∧ c'.x = .ofNat 32 9 ∧
      (∀ i < 256, message c' false i = message smallChoices false i) ∧
      ∃ sha256', AgreeElsewhere wireTypes smallChoices [ProtoCodec.encodeOtResponse ⟨B⟩]
          (fun _ => false) (fun _ => .ofNat 32 7) sha256' ∧
        (client sha256' wireTypes c' (.ofNat 32 2) (fun _ => .ofNat 32 2) false).feed
            [ProtoCodec.encodeOtResponse ⟨B⟩] =
          (client (fun _ => .ofNat 32 7) wireTypes smallChoices (.ofNat 32 2)
            (fun _ => .ofNat 32 2) false).feed [ProtoCodec.encodeOtResponse ⟨B⟩] := by
  have hone : ValidScalar (.ofNat 32 1) := by decide
  have htwo : ValidScalar (.ofNat 32 2) := by decide
  have hfour : ValidScalar (.ofNat 32 4) := by decide
  obtain ⟨B, hB⟩ := htwo.exists_compressed G_isAt.ne_zero
  have hdouble : 2 • (Bytes.ofNat 32 2).nat • G = (Bytes.ofNat 32 4).nat • G := by
    rw [smul_smul]
    exact congrArg (· • G) (by decide)
  have hne : 2 • (Bytes.ofNat 32 2).nat • G ≠ (smallChoices.a 0).nat • G := by
    rw [hdouble]
    exact fun h => absurd ((hfour.nsmul_inj hone).1 h) (by decide)
  exact ⟨B, hB, share_hidden smallChoices_valid
    (apart_reply hone (decode_otResponse wireTypes_lawful B) hB hne _) (by decide)
    fun _ _ h => absurd h (by decide)⟩

end CotMta.Session
