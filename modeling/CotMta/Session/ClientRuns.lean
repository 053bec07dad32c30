/-
  The client against an arbitrary peer.

  `ClientSent` says when the client may send which frame, given all that it has
  read and written before: the point `A` of a round only behind complete rounds, a
  round's ciphertexts only behind its reply, the shares `x` and `U` only behind 256
  rounds and the peer's share, and only when the reveal was asked for.  In the
  ciphertexts `x` is under a key from the point of the reply (`Opened`).
-/
import CotMta.Client.Pads
import CotMta.Lib.ProcessLogic
import CotMta.Session.Network

namespace CotMta.Session

open Secp256k1 ShortWeierstrass Client Client.CryptoOps Server Proc

/-- A complete round of the client: its point, the reply, and the ciphertexts. -/
structure Exchange where
  A : Bytes 33
  reply : Frame
  pointB : Uint8Array
  encrypted : OTEncrypted

section
variable (sha256 : List UInt8 → Bytes 32) (proto : ProtoTypes) (c : AliceChoices)

namespace Exchange

/-- The events of the exchange. -/
def events (i : ℕ) (e : Exchange) : List (Event Frame) :=
  [.wrote (proto.encodeOTInit ⟨e.A.toList, i⟩), .read e.reply,
    .wrote (proto.encodeOTEncrypted e.encrypted)]

/-- What the ciphertexts of a round are: the messages under keys that only the
    abscissas of `a B` and `a (B - A)` decide, for the point `B` of the reply. -/
def Opened (i : ℕ) (pointB : Uint8Array) (encrypted : OTEncrypted) : Prop :=
  ∃ B, Denotes pointB B ∧ ∃ x0 x1 : Bytes 32,
    (∃ y, IsAt ((c.a i).nat • B) (beNat x0.toList : Fp) y) ∧
    (∃ y, IsAt ((c.a i).nat • (B - (c.a i).nat • G)) (beNat x1.toList : Fp) y) ∧
    encrypted.encryptedM0 = ((c.ui i).xor (sha256 x0.toList)).toList ∧
    encrypted.encryptedM1 = ((c.m1 i).xor (sha256 x1.toList)).toList ∧
    encrypted.nonce = (c.nonce i).toList

/-- The exchange is one that the client makes at index `i`. -/
structure Valid (i : ℕ) (e : Exchange) : Prop where
  own : compressed ((c.a i).nat • G) = some e.A
  decoded : proto.decodeOTResponse e.reply = .ok e.pointB
  opened : Opened sha256 c i e.pointB e.encrypted

end Exchange

/-- The events up to the end of some rounds. -/
structure Exchanged (debugReveal : Bool) (exchanges : List Exchange)
    (history : List (Event Frame)) : Prop where
  events : history = .wrote (proto.encodeSessionConfig debugReveal) ::
    (exchanges.mapIdx (Exchange.events proto)).flatten
  valid : ∀ i (hi : i < exchanges.length), Exchange.Valid sha256 proto c i exchanges[i]

/-- What the client may send behind a history. -/
inductive ClientSent (debugReveal : Bool) : List (Event Frame) → Frame → Prop
  | sessionConfig : ClientSent debugReveal [] (proto.encodeSessionConfig debugReveal)
  | otInit {exchanges history} {A : Bytes 33} :
    Exchanged sha256 proto c debugReveal exchanges history → exchanges.length < 256 →
    compressed ((c.a exchanges.length).nat • G) = some A →
    ClientSent debugReveal history (proto.encodeOTInit ⟨A.toList, exchanges.length⟩)
  | otEncrypted {exchanges history} {e : Exchange} :
    Exchanged sha256 proto c debugReveal exchanges history → exchanges.length < 256 →
    e.Valid sha256 proto c exchanges.length →
    ClientSent debugReveal
      (history ++ [.wrote (proto.encodeOTInit ⟨e.A.toList, exchanges.length⟩), .read e.reply])
      (proto.encodeOTEncrypted e.encrypted)
  | debugReveal {exchanges history} {frame : Frame} {v : Uint8Array} :
    Exchanged sha256 proto c debugReveal exchanges history → exchanges.length = 256 →
    proto.decodeMTAShare frame = .ok v → debugReveal = true →
    ClientSent debugReveal (history ++ [.read frame])
      (proto.encodeDebugRevealRequest c.x.toList (aliceShare c).toList)

end

variable {sha256 : List UInt8 → Bytes 32} {proto : ProtoTypes} {c : AliceChoices} {y : Scalar}
  {b : ℕ → Scalar} {debugReveal : Bool} {exchanges : List Exchange} {history : List (Event Frame)}

/-! ## One round -/

theorem ensures_attempt {α : Type} {W : List (Event Frame) → Frame → Prop}
    {Q : α → List (Event Frame) → Prop} {history : List (Event Frame)} {x : Throws α}
    (hQ : ∀ value, x = .ok value → Q value history) : (attempt x).Ensures W Q history := by
  cases x with
  | ok value => exact hQ value rfl
  | error text => trivial

/-- What `processResponse` returns, on whatever it is given. -/
theorem opened_of_processResponse {i : ℕ} (ha : ValidScalar (c.a i)) {A : Bytes 33}
    (hA : compressed ((c.a i).nat • G) = some A) {pointB : Uint8Array} {encrypted : OTEncrypted}
    (h : (AliceOT.ofBytes (c.ui i) (c.m1 i) (c.ui i) (c.a i) A).processResponse sha256
      (c.nonce i).toList pointB = .ok encrypted) :
    Exchange.Opened sha256 c i pointB encrypted := by
  rw [AliceOT.processResponse_keyInputs] at h
  obtain ⟨⟨x0, x1⟩, hinputs, h⟩ := bind_eq_ok.1 h
  obtain rfl := Except.ok.inj h
  have haccepted : ∃ B, Denotes pointB B := by
    obtain ⟨s0, hs0, -⟩ := bind_eq_ok.1 hinputs
    obtain ⟨point, hdec, -⟩ := bind_eq_ok.1 hs0
    obtain ⟨B, hB⟩ := exists_denotes hdec
    exact ⟨B, point, hdec, hB⟩
  obtain ⟨B, hB⟩ := haccepted
  obtain ⟨⟨hlen0, hat0⟩, hlen1, hat1⟩ := AliceOT.keyInputs_denotes ha
    (AliceOT.new_eq (c.ui i) (c.m1 i) (c.ui i) ha hA) hB hinputs
  obtain ⟨x0, rfl⟩ : ∃ x : Bytes 32, x.toList = x0 := ⟨⟨x0, hlen0⟩, rfl⟩
  obtain ⟨x1, rfl⟩ : ∃ x : Bytes 32, x.toList = x1 := ⟨⟨x1, hlen1⟩, rfl⟩
  refine ⟨B, hB, x0, x1, hat0, hat1, ?_, ?_, rfl⟩
  · simp only [AliceOT.ofBytes, deriveKey, xorEncrypt_eq]
  · simp only [AliceOT.ofBytes, deriveKey, xorEncrypt_eq]

theorem Exchanged.snoc (h : Exchanged sha256 proto c debugReveal exchanges history) {e : Exchange}
    (he : e.Valid sha256 proto c exchanges.length) :
    Exchanged sha256 proto c debugReveal (exchanges ++ [e])
      (history ++ e.events proto exchanges.length) := by
  obtain ⟨rfl, hvalid⟩ := h
  refine ⟨?_, fun i hi => ?_⟩
  · rw [List.mapIdx_concat, List.flatten_append, List.flatten_singleton, List.cons_append]
  · rw [List.length_append, List.length_singleton] at hi
    rcases Nat.lt_succ_iff_lt_or_eq.1 hi with hlt | rfl
    · rw [List.getElem_append_left hlt]
      exact hvalid i hlt
    · rw [List.getElem_concat_length rfl]
      exact he

/-- **A round** sends its two frames at their places, and is complete when it ends. -/
theorem networkRound_ensures (h : Exchanged sha256 proto c debugReveal exchanges history)
    (hlt : exchanges.length < 256) (ha : ValidScalar (c.a exchanges.length)) :
    (networkRound sha256 (c.draws y b) proto c.x.toList exchanges.length).Ensures
      (ClientSent sha256 proto c debugReveal)
      (fun value history' => ∃ e : Exchange,
        Exchanged sha256 proto c debugReveal (exchanges ++ [e]) history' ∧
        value = (c.ui exchanges.length).toList) history := by
  obtain ⟨A, hA⟩ := ha.exists_compressed G_isAt.ne_zero
  rw [networkRound_eq ha hA]
  refine ensures_bind (ensures_send (.otInit h hlt hA) ?_)
  refine ensures_bind (ensures_receive fun frame pointB hdecode => ?_)
  refine ensures_bind (ensures_attempt fun encrypted hencrypted => ?_)
  let e : Exchange := ⟨A, frame, pointB, encrypted⟩
  have he : e.Valid sha256 proto c exchanges.length :=
    ⟨hA, hdecode, opened_of_processResponse ha hA hencrypted⟩
  have hsent := ClientSent.otEncrypted h hlt he
  refine ensures_bind (ensures_send ?_ ⟨e, ?_, rfl⟩)
  · rw [List.append_assoc]
    exact hsent
  · rw [List.append_assoc, List.append_assoc]
    exact h.snoc he

/-! ## The session -/

theorem networkRounds_ensures (hc : c.Valid) : ∀ (count : ℕ) {exchanges : List Exchange}
    {history : List (Event Frame)} {ui : List Uint8Array},
    Exchanged sha256 proto c debugReveal exchanges history → exchanges.length + count = 256 →
    ui = (List.range exchanges.length).map (fun i => (c.ui i).toList) →
    (networkRounds sha256 (c.draws y b) proto c.x.toList count exchanges.length ui).Ensures
      (ClientSent sha256 proto c debugReveal)
      (fun ui' history' => ∃ exchanges', exchanges'.length = 256 ∧
        Exchanged sha256 proto c debugReveal exchanges' history' ∧
        ui' = (List.range 256).map fun i => (c.ui i).toList) history
  | 0, exchanges, history, ui, h, hlen, hui => by
    rw [Nat.add_zero] at hlen
    exact ⟨exchanges, hlen, h, by rw [hui, hlen]⟩
  | count + 1, exchanges, history, ui, h, hlen, hui => by
    have hlt : exchanges.length < 256 := by omega
    refine ensures_bind ((networkRound_ensures h hlt (hc.a _ hlt)).mono ?_)
    rintro value history' ⟨e, h', rfl⟩
    have hlength : exchanges.length + 1 = (exchanges ++ [e]).length := by
      rw [List.length_append, List.length_singleton]
    rw [hlength]
    refine networkRounds_ensures hc count h' (by omega) ?_
    rw [← hlength, List.range_succ, List.map_append, List.map_singleton, hui]

theorem networkFinish_ensures (h : Exchanged sha256 proto c debugReveal exchanges history)
    (hlen : exchanges.length = 256) :
    (networkFinish proto debugReveal c.x.toList
      ((List.range 256).map fun i => (c.ui i).toList)).Ensures
      (ClientSent sha256 proto c debugReveal) (fun _ _ => True) history := by
  refine ensures_bind (ensures_receive fun frame v hdecode => ?_)
  rw [client_aliceShare]
  dsimp only
  split
  next hreveal =>
    refine ensures_bind (ensures_send (.debugReveal h hlen hdecode hreveal) ?_)
    exact ensures_bind (ensures_receive fun _ _ _ => trivial)
  next => trivial

theorem client_ensures (hc : c.Valid) : (client sha256 proto c y b debugReveal).Ensures
    (ClientSent sha256 proto c debugReveal) (fun _ _ => True) [] := by
  rw [client_opens]
  refine ensures_bind (ensures_send .sessionConfig ?_)
  have hopen : Exchanged sha256 proto c debugReveal []
      [.wrote (proto.encodeSessionConfig debugReveal)] :=
    ⟨rfl, fun i hi => absurd hi (Nat.not_lt_zero i)⟩
  refine ensures_bind ((networkRounds_ensures hc 256 hopen rfl rfl).mono ?_)
  rintro ui history' ⟨exchanges, hlen, h, rfl⟩
  exact networkFinish_ensures h hlen

/-- **A client against an arbitrary peer.**  Whatever frames come in, what it sends
    stands at its place behind complete rounds (`ClientSent`), and of the frames it
    reads each once and in order. -/
theorem client_sends (hc : c.Valid) (inputs : List Frame) :
    (∀ before frame after,
      (client sha256 proto c y b debugReveal).feed inputs = before ++ .wrote frame :: after →
      ClientSent sha256 proto c debugReveal before frame) ∧
    ((client sha256 proto c y b debugReveal).feed inputs).filterMap Event.read? <+: inputs :=
  ⟨fun _ _ _ hevents => (client_ensures hc).wrote hevents, read_feed⟩

/-- On the frames of an honest server the client comes to the reveal. -/
theorem client_sends_reveal : ∃ inputs before after,
    (client (fun _ => .ofNat 32 7) wireTypes smallChoices (.ofNat 32 5) (fun _ => .ofNat 32 2)
      true).feed inputs = before ++ .wrote (wireTypes.encodeDebugRevealRequest
        smallChoices.x.toList (aliceShare smallChoices).toList) :: after ∧
    ClientSent (fun _ => .ofNat 32 7) wireTypes smallChoices true before
      (wireTypes.encodeDebugRevealRequest smallChoices.x.toList
        (aliceShare smallChoices).toList) := by
  have hb : ValidScalar (.ofNat 32 2) := by decide
  obtain ⟨sent, hrun⟩ := network_answers affineOps_lawful wireTypes_lawful (fun _ => .ofNat 32 7)
    .zero smallChoices_valid (fun _ _ => hb) (smallChoices_nonDegenerate (.ofNat 32 5)) true
    fun _ => by decide +kernel
  obtain ⟨events, hfeed, hwrote, -⟩ := played_of_runs hrun
  have hmem : wireTypes.encodeDebugRevealRequest smallChoices.x.toList
      (aliceShare smallChoices).toList ∈ events.filterMap Event.wrote? := by
    rw [hwrote]
    exact List.mem_map_of_mem (List.mem_append_right _ (List.mem_append_right _
      (List.mem_singleton_self _)))
  obtain ⟨event, hevent, hframe⟩ := List.mem_filterMap.1 hmem
  obtain ⟨before, after, rfl⟩ := List.append_of_mem hevent
  cases event with
  | read frame => cases hframe
  | wrote frame =>
    obtain rfl := Option.some.inj hframe
    have hevents := hfeed []
    rw [List.append_assoc, List.cons_append] at hevents
    exact ⟨_, before, _, hevents, (client_sends smallChoices_valid _).1 before _ _ hevents⟩

end CotMta.Session
