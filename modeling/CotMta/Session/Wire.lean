/-
  The session over byte streams, on the words of the machine.

  The frames of both programs fit their headers, so the session over the two ports
  refines the one of `Session/Network.lean`: it can always be finished, in whatever
  pieces the bytes arrive.  The server multiplies with `machineOps` and hashes with
  `sha256_Raw`.
-/
import CotMta.Session.ClientRuns
import CotMta.Session.EndToEnd
import CotMta.Session.Ports
import CotMta.Session.ServerRuns
import CotMta.Trezor.Operations
import CotMta.Trezor.Sha2Spec

namespace CotMta.Session

open Trezor Secp256k1 Client Client.CryptoOps Server Framing Proc Nanopb

variable {ops : GroupOps} {sha256 : List UInt8 → Bytes 32} {proto : ProtoTypes}
  {mem : Memory} {c : AliceChoices} {y : Scalar} {b : ℕ → Scalar}

/-! ## The frames -/

theorem fits_of_le {frame : Frame} (h : frame.length ≤ 200) : Fits frame := h.trans_lt (by norm_num)

theorem fits_bytesField {tag : ℕ} {value : List UInt8} (ht : tag < 16) (hv : value.length < 128) :
    Fits (bytesField tag value) := by
  refine fits_of_le ?_
  rw [ProtoCodec.length_bytesField ht hv]
  omega

/-- The frames of the server fit. -/
theorem server_fits : (server ops sha256 mem y b).Ensures (fun _ frame => Fits frame)
    (fun _ _ => True) [] := by
  refine run_ensures.weaken fun history frame h => ?_
  cases h with
  | otResponse =>
    rw [ProtoCodec.encodeOtResponse_eq]
    exact fits_bytesField (by norm_num) (by simp)
  | mtaShare =>
    rw [ProtoCodec.encodeScalar_eq]
    exact fits_bytesField (by norm_num) (by simp)
  | @debugReveal _ _ _ _ _ verified =>
    refine fits_of_le ?_
    rw [ProtoCodec.encodeDebugRevealResponse_eq, List.length_append,
      ProtoCodec.length_bytesField (by norm_num) (by simp), Bytes.length_toList]
    cases verified with
    | false => norm_num
    | true =>
      simp only [if_true]
      rw [ProtoCodec.length_varintField (by norm_num) (by norm_num)]
      norm_num

theorem length_xorEncrypt {message key : Uint8Array} :
    (xorEncrypt message key).length = message.length := by simp [xorEncrypt]

/-- The ciphertexts are as long as the messages. -/
theorem processResponse_length {nonce pointB : Uint8Array} {alice : AliceOT}
    {encrypted : OTEncrypted} (h : alice.processResponse sha256 nonce pointB = .ok encrypted) :
    encrypted.encryptedM0.length = alice.m0.length ∧
      encrypted.encryptedM1.length = alice.m1.length ∧ encrypted.nonce = nonce := by
  simp only [AliceOT.processResponse, Bind.bind, Except.bind] at h
  repeat
    split at h
    · cases h
  obtain rfl := Except.ok.inj h
  exact ⟨length_xorEncrypt, length_xorEncrypt, rfl⟩

section
variable (hproto : proto.Lawful)
include hproto

/-- The frames of a round of the client fit, whatever it is answered. -/
theorem networkRound_fits {i : ℕ} (hi : i < 256) (ha : ValidScalar (c.a i))
    {history : List (Event Frame)} :
    (networkRound sha256 (c.draws y b) proto c.x.toList i).Ensures (fun _ frame => Fits frame)
      (fun value _ => value = (c.ui i).toList) history := by
  obtain ⟨A, hA⟩ := ha.exists_compressed G_isAt.ne_zero
  have hlt : i < 2 ^ 32 := hi.trans (by norm_num)
  rw [networkRound_eq ha hA]
  refine ensures_bind (ensures_send ?_ ?_)
  · refine fits_of_le ?_
    have hlen := length_varint_le 1 i (hi.trans (by norm_num))
    rw [hproto.encodeOTInit _ hlt, List.length_append,
      ProtoCodec.length_bytesField (by norm_num) (by simp), Bytes.length_toList, varintField,
      List.length_append, varint_of_lt (by norm_num), List.length_singleton]
    dsimp only
    omega
  refine ensures_bind (ensures_receive fun frame pointB _ => ?_)
  refine ensures_bind (ensures_attempt fun encrypted hencrypted => ?_)
  obtain ⟨hm0, hm1, hnonce⟩ := processResponse_length hencrypted
  have hm0 : encrypted.encryptedM0.length = 32 := hm0.trans (Bytes.length_toList _)
  have hm1 : encrypted.encryptedM1.length = 32 := hm1.trans (Bytes.length_toList _)
  refine ensures_bind (ensures_send ?_ rfl)
  refine fits_of_le ?_
  rw [hproto.encodeOTEncrypted, List.length_append, List.length_append,
    ProtoCodec.length_bytesField (by norm_num) (by omega),
    ProtoCodec.length_bytesField (by norm_num) (by omega), hnonce,
    ProtoCodec.length_bytesField (by norm_num) (by simp), Bytes.length_toList]
  omega

theorem networkRounds_fits (hc : c.Valid) : ∀ (count i : ℕ) (ui : List Uint8Array)
    {history : List (Event Frame)}, i + count ≤ 256 →
    (networkRounds sha256 (c.draws y b) proto c.x.toList count i ui).Ensures
      (fun _ frame => Fits frame)
      (fun ui' _ => ui' = ui ++ (List.range' i count).map fun i => (c.ui i).toList) history
  | 0, i, ui, history, _ => by
    rw [List.range'_zero, List.map_nil, List.append_nil]
    rfl
  | count + 1, i, ui, history, hi => by
    have hi' : i < 256 := by omega
    refine ensures_bind ((networkRound_fits hproto hi' (hc.a i hi')).mono ?_)
    rintro value history' rfl
    have hui : ui ++ (List.range' i (count + 1)).map (fun i => (c.ui i).toList) =
        ui ++ [(c.ui i).toList] ++ (List.range' (i + 1) count).map fun i => (c.ui i).toList := by
      rw [List.append_assoc]
      rfl
    rw [hui]
    exact networkRounds_fits hc count (i + 1) (ui ++ [(c.ui i).toList]) (by omega)

/-- The frames of the client fit. -/
theorem client_fits (hc : c.Valid) (debugReveal : Bool) :
    (client sha256 proto c y b debugReveal).Ensures (fun _ frame => Fits frame)
      (fun _ _ => True) [] := by
  rw [client_opens]
  refine ensures_bind (ensures_send ?_ ?_)
  · refine fits_of_le ?_
    rw [hproto.encodeSessionConfig, ProtoCodec.length_varintField (by norm_num)
      (by split <;> norm_num)]
    norm_num
  refine ensures_bind ((networkRounds_fits hproto hc 256 0 [] le_rfl).mono ?_)
  rintro ui history rfl
  rw [List.nil_append, ← List.range_eq_range']
  refine ensures_bind (ensures_receive fun frame v _ => ?_)
  rw [client_aliceShare]
  cases debugReveal with
  | false => trivial
  | true =>
    refine ensures_bind (ensures_send ?_ ?_)
    · refine fits_of_le ?_
      rw [hproto.encodeDebugRevealRequest, List.length_append,
        ProtoCodec.length_bytesField (by norm_num) (by simp),
        ProtoCodec.length_bytesField (by norm_num) (by simp), Bytes.length_toList,
        Bytes.length_toList]
      norm_num
    · exact ensures_bind (ensures_receive fun _ _ _ => trivial)

end

/-! ## The session -/

/-- The steps of a run over the two ports. -/
abbrev WireRuns (most : ℕ → ℕ) : Wire Frame Message UInt8 Reader Socket DemoOutput ServerOutput →
    Wire Frame Message UInt8 Reader Socket DemoOutput ServerOutput → Prop :=
  Wire.Runs Reader.port (Socket.port most)

/-- A client's session with the server, before the first byte. -/
def connected (session : Client.Session DemoOutput) (ops : GroupOps)
    (sha256 : List UInt8 → Bytes 32) (mem : Memory) (y : Scalar) (b : ℕ → Scalar) :
    Wire Frame Message UInt8 Reader Socket DemoOutput ServerOutput :=
  .start session .new (server ops sha256 mem y b) ⟨[], [], 0⟩

/-- **The session over byte streams** can always be finished, whatever has been
    delivered, read and written in which pieces, unless its check aborts. -/
theorem wire_completes (hops : ops.Lawful) (hproto : proto.Lawful) (hc : c.Valid)
    (hb : ∀ i < 256, ValidScalar (b i)) (hdeg : NonDegenerate c y b) (debugReveal : Bool)
    (hcheck : Returns mem y debugReveal) {most : ℕ → ℕ} (hmost : ∀ k, 0 < most k)
    {w : Wire Frame Message UInt8 Reader Socket DemoOutput ServerOutput}
    (hw : WireRuns most
      (connected (client sha256 proto c y b debugReveal) ops sha256 mem y b) w) :
    (∃ w', WireRuns most w w' ∧
      w'.Finished (clientOutput mem c y debugReveal) (serverOutput mem y debugReveal)) ∧
    w.OnCourse (clientOutput mem c y debugReveal) (serverOutput mem y debugReveal) := by
  obtain ⟨t, hrun, hend⟩ := network_finishes hops hproto sha256 mem hc hb hdeg debugReveal hcheck
  have hempty : Socket.Unread ⟨[], [], 0⟩ [] [] := ⟨fun _ h => absurd h List.not_mem_nil, rfl⟩
  exact Wire.completes Reader.port_sound (Socket.port_sound hmost)
    ⟨[], client_fits hproto hc debugReveal⟩ ⟨[], server_fits⟩ Reader.unread_new hempty hrun hend hw

end CotMta.Session
