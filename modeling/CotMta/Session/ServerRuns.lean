/-
  The server against an arbitrary peer.

  `Sent` says when the server may send which frame, given all that it has read
  and written before: a round's reply only behind complete rounds with the right
  indices, the additive share only behind 256 of them, the share `y` only when
  the reveal was configured and asked for.  `session_sends` shows that
  `ServerApp::run` keeps to it on every list of frames.

  Rounds that the frames of a peer complete are played by the server
  (`run_feed`), so `keepsOrder_iff` can say of all inputs when the additive share
  is the weighted sum of what the rounds opened.
-/
import CotMta.Lib.ProcessLogic
import CotMta.Session.Network

namespace CotMta.Session

open Secp256k1 Trezor Server ProtoCodec Proc

variable (ops : GroupOps) (sha256 : List UInt8 → Bytes 32) (mem : Memory)
  (bit : ℕ → UInt8) (secret : ℕ → Scalar) (y : Scalar)

/-- A complete round: the frames, and what `process_init` and the decoders made of
    them. -/
structure Round where
  initFrame : Frame
  init : OTInitMessage
  reply : Point
  key : Scalar
  encryptedFrame : Frame
  encrypted : OTEncryptedPayload

namespace Round

/-- The events of the round. -/
def events (round : Round) : List (Event Frame) :=
  [.read round.initFrame, .wrote (encodeOtResponse ⟨round.reply⟩), .read round.encryptedFrame]

/-- The selected ciphertext, opened with the key of the round. -/
def value (round : Round) (choice_bit : UInt8) : Scalar :=
  CryptoOps.xorEncrypt
    (if choice_bit = 0 then round.encrypted.encrypted_m0 else round.encrypted.encrypted_m1) round.key

/-- The reply to an `OTInit` with the index `i`. -/
structure Answers (i : ℕ) (frame : Frame) (init : OTInitMessage) (reply : Point) (key : Scalar) :
    Prop where
  decoded : decodeOtInit frame = some init
  index : init.bit_index.toNat = i
  processed : ∃ bob, (BobOT.new (bit i) (secret i)).processInit ops sha256 (mem.frame i)
    ⟨init.point_a, mem.behind i⟩ = (bob, some reply) ∧ bob.decryption_key = some key

/-- The round is one that the server plays at index `i`. -/
structure Valid (i : ℕ) (round : Round) : Prop where
  answers : Answers ops sha256 mem bit secret i round.initFrame round.init round.reply round.key
  decoded : decodeOtEncrypted round.encryptedFrame = some round.encrypted

end Round

/-- The events up to the end of some rounds. -/
structure Completed (config : SessionConfigMessage) (rounds : List Round)
    (history : List (Event Frame)) : Prop where
  opened : ∃ frame, decodeSessionConfig frame = some config ∧
    history = .read frame :: rounds.flatMap Round.events
  valid : ∀ i (hi : i < rounds.length), Round.Valid ops sha256 mem bit secret i rounds[i]

/-- The entries `mc_values` after some rounds. -/
def values (rounds : List Round) : List Scalar :=
  rounds.mapIdx fun i round => round.value (bit i)

/-- What the server may send behind a history.  Of `y` it only has the bits, but
    for the reveal. -/
inductive Sent : List (Event Frame) → Frame → Prop
  | otResponse {config rounds history init reply key} {frame : Frame} :
    Completed ops sha256 mem bit secret config rounds history → rounds.length < 256 →
    Round.Answers ops sha256 mem bit secret rounds.length frame init reply key →
    Sent (history ++ [.read frame]) (encodeOtResponse ⟨reply⟩)
  | mtaShare {config rounds history} :
    Completed ops sha256 mem bit secret config rounds history → rounds.length = 256 →
    Sent history (encodeScalar ⟨serverShare mem.term⟩)
  | debugReveal {config rounds history request} {frame : Frame} {verified : Bool} :
    Completed ops sha256 mem bit secret config rounds history → rounds.length = 256 →
    config.debug_reveal = true → decodeDebugRevealRequest frame = some request →
    MTA.verifyMta machine mem.bn_xy mem.bn_uv request.multiplicative_share_x y
      request.additive_share_u (serverShare mem.term) = some verified →
    Sent (history ++ [.wrote (encodeScalar ⟨serverShare mem.term⟩), .read frame])
      (encodeDebugRevealResponse ⟨y, verified⟩)

/-- The frames of a session, one behind the other. -/
inductive SentFrames : List Frame → Prop
  | otResponses {replies : List Point} : replies.length ≤ 256 →
    SentFrames (replies.map fun reply => encodeOtResponse ⟨reply⟩)
  | mtaShare {replies : List Point} {v : Scalar} : replies.length = 256 →
    SentFrames (replies.map (fun reply => encodeOtResponse ⟨reply⟩) ++ [encodeScalar ⟨v⟩])
  | debugReveal {replies : List Point} {v : Scalar} {verified : Bool} : replies.length = 256 →
    SentFrames (replies.map (fun reply => encodeOtResponse ⟨reply⟩) ++
      [encodeScalar ⟨v⟩, encodeDebugRevealResponse ⟨y, verified⟩])

variable {ops sha256 mem bit secret y} {config : SessionConfigMessage} {rounds : List Round}
  {history : List (Event Frame)}

/-! ## One round -/

theorem orThrow_ok {α : Type} {text : String} {decode : Frame → Option α} {frame : Frame} {value : α}
    (h : ServerApp.orThrow text decode frame = .ok value) : decode frame = some value := by
  rw [ServerApp.orThrow] at h
  split at h
  next decoded hdecoded => rw [hdecoded, Except.ok.inj h]
  next => cases h

/-- `process_init` has a point to send only after it has set the key. -/
theorem processInit_key {bob bob' : BobOT} {frame : ℕ → UInt8} {a_point : Located} {reply : Point}
    (h : bob.processInit ops sha256 frame a_point = (bob', some reply)) :
    bob'.choice_bit = bob.choice_bit ∧ ∃ key, bob'.decryption_key = some key := by
  rw [BobOT.processInit] at h
  split at h
  next => cases h
  next shared _ =>
    split at h
    next => cases h
    next x _ =>
      dsimp only at h
      split at h
      next => cases h
      next b_g _ =>
        split at h
        all_goals
          obtain ⟨rfl, -⟩ := Prod.mk.inj h
          exact ⟨rfl, _, rfl⟩

theorem Completed.snoc (h : Completed ops sha256 mem bit secret config rounds history)
    {round : Round} (hround : round.Valid ops sha256 mem bit secret rounds.length) :
    Completed ops sha256 mem bit secret config (rounds ++ [round]) (history ++ round.events) := by
  obtain ⟨⟨frame, hframe, rfl⟩, hvalid⟩ := h
  refine ⟨⟨frame, hframe, ?_⟩, fun i hi => ?_⟩
  · rw [List.flatMap_append, List.flatMap_singleton, List.cons_append]
  · rw [List.length_append, List.length_singleton] at hi
    rcases Nat.lt_succ_iff_lt_or_eq.1 hi with hlt | rfl
    · rw [List.getElem_append_left hlt]
      exact hvalid i hlt
    · rw [List.getElem_concat_length rfl]
      exact hround

/-- **A round** writes its reply at its place, and is complete when it ends. -/
theorem round_ensures (h : Completed ops sha256 mem (getBit y) secret config rounds history)
    (hlt : rounds.length < 256) :
    (ServerApp.round ops sha256 mem y secret rounds.length).Ensures
      (Sent ops sha256 mem (getBit y) secret y)
      (fun value history' => ∃ round : Round,
        Completed ops sha256 mem (getBit y) secret config (rounds ++ [round]) history' ∧
        value = round.value (getBit y rounds.length)) history := by
  refine ensures_bind (ensures_receive fun frame init hdecode => ?_)
  have hinit := orThrow_ok hdecode
  dsimp only
  split
  next => trivial
  next hindex =>
    have hindex := not_not.1 hindex
    split
    next => trivial
    next bob reply hprocess =>
      obtain ⟨hbit, key, hkey⟩ := processInit_key hprocess
      have hanswers : Round.Answers ops sha256 mem (getBit y) secret rounds.length frame init
          reply key := ⟨hinit, hindex, bob, hprocess, hkey⟩
      refine ensures_bind (ensures_send (.otResponse h hlt hanswers) ?_)
      refine ensures_bind (ensures_receive fun frame' encrypted hdecode' => ?_)
      have hencrypted := orThrow_ok hdecode'
      let round : Round := ⟨frame, init, reply, key, frame', encrypted⟩
      have hvalue : bob.decryptMessage encrypted = some (round.value (getBit y rounds.length)) := by
        rw [BobOT.decryptMessage, hkey, Round.value, hbit]
        rfl
      rw [hvalue]
      refine ⟨round, ?_, rfl⟩
      rw [List.append_assoc, List.append_assoc]
      exact h.snoc ⟨hanswers, hencrypted⟩

/-! ## The session -/

theorem rounds_ensures : ∀ (count : ℕ) {rounds : List Round} {history : List (Event Frame)},
    Completed ops sha256 mem (getBit y) secret config rounds history → rounds.length + count = 256 →
    (ServerApp.rounds ops sha256 mem y secret count rounds.length (values (getBit y) rounds)).Ensures
      (Sent ops sha256 mem (getBit y) secret y)
      (fun mc_values history' => ∃ rounds', rounds'.length = 256 ∧
        Completed ops sha256 mem (getBit y) secret config rounds' history' ∧
        mc_values = values (getBit y) rounds') history
  | 0, rounds, _, h, hlen => ⟨rounds, hlen, h, rfl⟩
  | count + 1, rounds, history, h, hlen => by
    refine ensures_bind ((round_ensures h (by omega)).mono ?_)
    rintro value history' ⟨round, h', rfl⟩
    have hvalues : values (getBit y) rounds ++ [round.value (getBit y rounds.length)] =
        values (getBit y) (rounds ++ [round]) := List.mapIdx_concat.symm
    have hlength : rounds.length + 1 = (rounds ++ [round]).length := by
      rw [List.length_append, List.length_singleton]
    rw [hvalues, hlength]
    exact rounds_ensures count h' (by omega)

theorem length_values {rounds : List Round} : (values bit rounds).length = rounds.length :=
  List.length_mapIdx

/-- The end of a session starts with the server's additive share. -/
theorem finish_eq (hlen : rounds.length = 256) :
    ServerApp.finish mem y config (values bit rounds) = (do
      ServerApp.writeScalar ⟨serverShare mem.term⟩
      if config.debug_reveal then do
        let debug_request ← ServerApp.readDebugRevealRequest
        let verified ← ServerApp.orAbort (MTA.verifyMta machine mem.bn_xy mem.bn_uv
          debug_request.multiplicative_share_x y debug_request.additive_share_u
          (serverShare mem.term))
        ServerApp.writeDebugRevealResponse ⟨y, verified⟩
        pure ⟨serverShare mem.term, some verified⟩
      else pure ⟨serverShare mem.term, none⟩) := by
  rw [ServerApp.finish, server_share mem.term y (length_values.trans hlen)]
  rfl

theorem finish_ensures (h : Completed ops sha256 mem (getBit y) secret config rounds history)
    (hlen : rounds.length = 256) :
    (ServerApp.finish mem y config (values (getBit y) rounds)).Ensures
      (Sent ops sha256 mem (getBit y) secret y) (fun _ _ => True) history := by
  rw [finish_eq hlen]
  refine ensures_bind (ensures_send (.mtaShare h hlen) ?_)
  split
  next hreveal =>
    refine ensures_bind (ensures_receive fun frame request hdecode => ?_)
    cases hverified : MTA.verifyMta machine mem.bn_xy mem.bn_uv request.multiplicative_share_x y
      request.additive_share_u (serverShare mem.term) with
    | none => trivial
    | some verified =>
      refine ensures_bind (ensures_bind (ensures_send ?_ trivial))
      rw [List.append_assoc]
      exact .debugReveal h hlen hreveal (orThrow_ok hdecode) hverified
  next => trivial

theorem run_ensures : (ServerApp.run ops sha256 mem y secret).Ensures
    (Sent ops sha256 mem (getBit y) secret y) (fun _ _ => True) [] := by
  refine ensures_bind (ensures_receive fun frame config hdecode => ?_)
  have hopen : Completed ops sha256 mem (getBit y) secret config [] [.read frame] :=
    ⟨⟨frame, orThrow_ok hdecode, rfl⟩, fun i hi => absurd hi (Nat.not_lt_zero i)⟩
  refine ensures_bind ((rounds_ensures 256 hopen rfl).mono ?_)
  rintro mc_values history ⟨rounds, hlen, h, rfl⟩
  exact finish_ensures h hlen

/-! ## The frames in order -/

theorem Completed.wrote (h : Completed ops sha256 mem bit secret config rounds history) :
    history.filterMap Event.wrote? =
      (rounds.map Round.reply).map fun reply => encodeOtResponse ⟨reply⟩ := by
  obtain ⟨⟨frame, -, rfl⟩, -⟩ := h
  rw [List.filterMap_cons_none rfl, List.map_map]
  induction rounds with
  | nil => rfl
  | cons round rounds ih =>
    rw [List.flatMap_cons, List.filterMap_append, ih]
    rfl

theorem Sent.frames {frame : Frame} (h : Sent ops sha256 mem bit secret y history frame) :
    SentFrames y (history.filterMap Event.wrote? ++ [frame]) := by
  cases h with
  | @otResponse config rounds history init reply key frame' hcompleted hlt hanswers =>
    have hreplies : (history ++ [Event.read frame']).filterMap Event.wrote? ++
        [encodeOtResponse ⟨reply⟩] = ((rounds.map Round.reply) ++ [reply]).map
          fun reply => encodeOtResponse ⟨reply⟩ := by
      rw [List.filterMap_append, hcompleted.wrote, List.map_append, List.append_assoc]
      rfl
    rw [hreplies]
    refine .otResponses ?_
    rw [List.length_append, List.length_map, List.length_singleton]
    omega
  | mtaShare hcompleted hlen =>
    rw [hcompleted.wrote]
    exact .mtaShare (by rw [List.length_map, hlen])
  | debugReveal hcompleted hlen =>
    rw [List.filterMap_append, hcompleted.wrote, List.append_assoc]
    exact .debugReveal (by rw [List.length_map, hlen])

/-- The events of a session on the frames of the peer. -/
def sessionEvents (ops : GroupOps) (sha256 : List UInt8 → Bytes 32) (mem : Memory) (y : Scalar)
    (secret : ℕ → Scalar) (inputs : List Frame) : List (Event Frame) :=
  (ServerApp.run ops sha256 mem y secret).feed inputs

theorem sessionEvents_sent {before after : List (Event Frame)} {frame : Frame} {inputs : List Frame}
    (h : sessionEvents ops sha256 mem y secret inputs = before ++ .wrote frame :: after) :
    Sent ops sha256 mem (getBit y) secret y before frame :=
  run_ensures.wrote h

theorem sessionEvents_frames (inputs : List Frame) :
    SentFrames y ((sessionEvents ops sha256 mem y secret inputs).filterMap Event.wrote?) := by
  rcases Event.last_wrote (sessionEvents ops sha256 mem y secret inputs) with
    hnone | ⟨before, frame, after, hevents, hlast⟩
  · have hshort : ([] : List Point).length ≤ 256 := Nat.zero_le _
    rw [hnone]
    exact .otResponses hshort
  · rw [hlast]
    exact (sessionEvents_sent hevents).frames

/-! ## Rounds that the frames complete -/

/-- A round that is valid is played. -/
theorem valid_feed {i : ℕ} {round : Round}
    (h : round.Valid ops sha256 mem (getBit y) secret i) {k : Scalar → Server.Session ServerOutput}
    {rest : List Frame} :
    (ServerApp.round ops sha256 mem y secret i >>= k).feed
      (round.initFrame :: round.encryptedFrame :: rest) =
        round.events ++ (k (round.value (getBit y i))).feed rest := by
  obtain ⟨⟨hinit, hindex, bob, hprocess, hkey⟩, hencrypted⟩ := h
  have hbit := (processInit_key hprocess).1
  have hvalue : bob.decryptMessage round.encrypted = some (round.value (getBit y i)) := by
    rw [BobOT.decryptMessage, hkey, Round.value, hbit]
    rfl
  have hdecode : ServerApp.orThrow "failed to decode OTInit" decodeOtInit round.initFrame =
      .ok round.init := by
    rw [ServerApp.orThrow, hinit]
  have hdecode' : ServerApp.orThrow "failed to decode OTEncrypted" decodeOtEncrypted
      round.encryptedFrame = .ok round.encrypted := by
    rw [ServerApp.orThrow, hencrypted]
  simp only [ServerApp.round, ServerApp.readOtInit, bind_assoc]
  rw [feed_receive_ok hdecode]
  simp only [hindex, ne_eq, not_true_eq_false, if_false, hprocess, ServerApp.writeOtResponse,
    ServerApp.readOtEncrypted, bind_assoc]
  rw [feed_send, feed_receive_ok hdecode']
  simp only [hvalue]
  rfl

/-- The rounds that are left, the ones before them being over. -/
theorem completed_feed (k : List Scalar → Server.Session ServerOutput) (rest : List Frame)
    {all : List Round} (h : ∀ i (hi : i < all.length),
      Round.Valid ops sha256 mem (getBit y) secret i all[i]) :
    ∀ before rounds : List Round, before ++ rounds = all →
      (ServerApp.rounds ops sha256 mem y secret rounds.length before.length
        (values (getBit y) before) >>= k).feed
          ((rounds.flatMap Round.events).filterMap Event.read? ++ rest) =
        rounds.flatMap Round.events ++ (k (values (getBit y) all)).feed rest
  | before, [], hall => by
    rw [List.append_nil] at hall
    rw [← hall]
    rfl
  | before, round :: rounds, hall => by
    have hround : round.Valid ops sha256 mem (getBit y) secret before.length := by
      have hi : before.length < all.length := by
        rw [← hall, List.length_append, List.length_cons]
        omega
      have hget : all[before.length] = round := by
        simp only [← hall, List.getElem_append_right le_rfl, Nat.sub_self, List.getElem_cons_zero]
      rw [← hget]
      exact h _ hi
    have hvalues : values (getBit y) before ++ [round.value (getBit y before.length)] =
        values (getBit y) (before ++ [round]) := List.mapIdx_concat.symm
    have hrest := completed_feed k rest h (before ++ [round]) rounds
      (by rw [List.append_assoc]; exact hall)
    rw [List.length_append, List.length_singleton] at hrest
    have hread : round.events.filterMap Event.read? =
        [round.initFrame, round.encryptedFrame] := rfl
    simp only [List.length_cons, ServerApp.rounds, bind_assoc, List.flatMap_cons,
      List.filterMap_append, hread, List.append_assoc, List.cons_append, List.nil_append]
    rw [valid_feed hround, hvalues, hrest]

/-- **Completed rounds in the input** lead to the additive share. -/
theorem run_feed {inputs : List Frame}
    (h : Completed ops sha256 mem (getBit y) secret config rounds history)
    (hlen : rounds.length = 256) (hread : history.filterMap Event.read? <+: inputs) :
    ∃ after, sessionEvents ops sha256 mem y secret inputs =
      history ++ .wrote (encodeScalar ⟨serverShare mem.term⟩) :: after := by
  obtain ⟨⟨frame, hframe, rfl⟩, hvalid⟩ := h
  obtain ⟨rest, rfl⟩ := hread
  have hdecode : ServerApp.orThrow "failed to decode SessionConfig" decodeSessionConfig frame =
      .ok config := by
    rw [ServerApp.orThrow, hframe]
  have hrounds := completed_feed (ServerApp.finish mem y config) rest hvalid [] rounds rfl
  rw [hlen] at hrounds
  have hread : (Event.read frame :: rounds.flatMap Round.events).filterMap Event.read? =
      frame :: (rounds.flatMap Round.events).filterMap Event.read? := rfl
  rw [hread, List.cons_append, sessionEvents, ServerApp.run, ServerApp.readSessionConfig,
    feed_receive_ok hdecode]
  rw [finish_eq hlen] at hrounds
  exact ⟨_, congrArg (Event.read frame :: ·) hrounds⟩

/-! ## The additive share -/

/-- Where the additive share is sent, it is the weighted sum of the values that the
    rounds opened. -/
def SharesValues (ops : GroupOps) (sha256 : List UInt8 → Bytes 32) (mem : Memory) (y : Scalar)
    (secret : ℕ → Scalar) (inputs : List Frame) : Prop :=
  ∀ config rounds history v after,
    Completed ops sha256 mem (getBit y) secret config rounds history → rounds.length = 256 →
    sessionEvents ops sha256 mem y secret inputs =
      history ++ .wrote (encodeScalar ⟨v⟩) :: after →
    v.nat = weightedSum (values (getBit y) rounds) % n

/-- What is claimed of a session: the server sends up to 256 replies, behind all of
    them the additive share, and behind that the reveal; each at its place behind the
    rounds before it (`Sent`), of the frames it reads each once and in order, and the
    additive share is the sum of the values. -/
structure KeepsOrder (ops : GroupOps) (sha256 : List UInt8 → Bytes 32) (mem : Memory) (y : Scalar)
    (secret : ℕ → Scalar) (inputs : List Frame) : Prop where
  frames : SentFrames y ((sessionEvents ops sha256 mem y secret inputs).filterMap Event.wrote?)
  sent : ∀ before frame after,
    sessionEvents ops sha256 mem y secret inputs = before ++ .wrote frame :: after →
    Sent ops sha256 mem (getBit y) secret y before frame
  read : (sessionEvents ops sha256 mem y secret inputs).filterMap Event.read? <+: inputs
  share : SharesValues ops sha256 mem y secret inputs

theorem KeepsOrder.modEq {inputs : List Frame} (h : KeepsOrder ops sha256 mem y secret inputs)
    (hcompleted : Completed ops sha256 mem (getBit y) secret config rounds history)
    (hlen : rounds.length = 256) (hread : history.filterMap Event.read? <+: inputs) :
    termWeights 256 * wordsVal mem.term ≡ weightedSum (values (getBit y) rounds) [MOD n] := by
  obtain ⟨after, hevents⟩ := run_feed hcompleted hlen hread
  have hshare := h.share config rounds history _ after hcompleted hlen hevents
  rw [nat_serverShare] at hshare
  exact hshare

/-- **A session against an arbitrary peer.**  Whatever frames come in, each frame of
    the server stands at its place; and the additive share is the sum of the values
    exactly when the multiple of the words in memory is, or when the frames do not
    complete the rounds. -/
theorem keepsOrder_iff (ops : GroupOps) (sha256 : List UInt8 → Bytes 32) (mem : Memory)
    (y : Scalar) (secret : ℕ → Scalar) (inputs : List Frame) :
    KeepsOrder ops sha256 mem y secret inputs ↔
      ∀ config rounds history,
        Completed ops sha256 mem (getBit y) secret config rounds history → rounds.length = 256 →
        history.filterMap Event.read? <+: inputs →
        termWeights 256 * wordsVal mem.term ≡ weightedSum (values (getBit y) rounds) [MOD n] := by
  constructor
  · exact fun h config rounds history hcompleted hlen hread => h.modEq hcompleted hlen hread
  · intro h
    refine ⟨sessionEvents_frames inputs, fun before frame after => sessionEvents_sent, read_feed, ?_⟩
    intro config rounds history v after hcompleted hlen hevents
    have hread : history.filterMap Event.read? <+: inputs := by
      have hprefix : (sessionEvents ops sha256 mem y secret inputs).filterMap Event.read? <+:
          inputs := read_feed
      rw [hevents, List.filterMap_append] at hprefix
      exact (List.prefix_append _ _).trans hprefix
    obtain ⟨after', hevents'⟩ := run_feed hcompleted hlen hread
    have hsame := List.append_cancel_left (hevents.symm.trans hevents')
    have hframe := Event.wrote.inj (List.cons.inj hsame).1
    rw [ProtoCodec.encodeScalar_eq, ProtoCodec.encodeScalar_eq, bytesField, bytesField,
      Bytes.length_toList, Bytes.length_toList] at hframe
    have hv : v = serverShare mem.term := Bytes.ext (List.append_cancel_left hframe)
    rw [hv, nat_serverShare]
    exact h config rounds history hcompleted hlen hread

/-! ## An honest peer -/

variable {proto : Client.ProtoTypes} {c : AliceChoices}

/-- The round of an honest client opens the selected message. -/
theorem exists_round (sha256 : List UInt8 → Bytes 32) (mem : Memory) (hops : ops.Lawful)
    (hproto : proto.Lawful) {i : ℕ} (hi : i < 256)
    (ha : ValidScalar (c.a i)) (hb : ValidScalar (secret i))
    (hdeg : ¬Degenerate (getBit y i) (c.a i) (secret i)) :
    ∃ round : Round, round.Valid ops sha256 mem (getBit y) secret i ∧
      round.value (getBit y i) = c.selected y i := by
  obtain ⟨A, B, bob, e0, e1, hA, hinit, -, hdecrypt⟩ :=
    round_eq ha hb sha256 hops hdeg (c.ui i) (c.m1 i) (c.ui i)
  have hlt : i < 2 ^ 32 := hi.trans (by norm_num)
  have hindex : (UInt32.ofNat i).toNat = i := UInt32.toNat_ofNat_of_lt' hlt
  have hprocess := hinit (mem.frame i) (mem.behind i)
  obtain ⟨hbit, key, hkey⟩ := processInit_key hprocess
  refine ⟨⟨proto.encodeOTInit ⟨A.toList, i⟩, ⟨A, UInt32.ofNat i⟩, B, key,
    proto.encodeOTEncrypted ⟨e0.toList, e1.toList, (c.nonce i).toList⟩, ⟨e0, e1, c.nonce i⟩⟩,
    ⟨⟨orThrow_ok (decode_otInit hproto A hlt), hindex, bob, hprocess, hkey⟩,
      orThrow_ok (decode_otEncrypted hproto e0 e1 (c.nonce i))⟩, ?_⟩
  have hvalue := hdecrypt (c.nonce i)
  rw [BobOT.decryptMessage, hkey, hbit] at hvalue
  exact Option.some.inj hvalue

/-- The frames of an honest client complete the rounds. -/
theorem exists_completed (sha256 : List UInt8 → Bytes 32) (mem : Memory) (hops : ops.Lawful)
    (hproto : proto.Lawful) (hc : c.Valid) (hb : ∀ i < 256, ValidScalar (secret i))
    (hdeg : NonDegenerate c y secret) :
    ∃ config rounds history, Completed ops sha256 mem (getBit y) secret config rounds history ∧
      rounds.length = 256 ∧ values (getBit y) rounds = (List.range 256).map (c.selected y) := by
  have hround : ∀ i, ∃ round : Round, i < 256 →
      round.Valid ops sha256 mem (getBit y) secret i ∧
        round.value (getBit y i) = c.selected y i := by
    intro i
    by_cases hi : i < 256
    · obtain ⟨round, h⟩ := exists_round sha256 mem hops hproto hi (hc.a i hi) (hb i hi)
        (hdeg i hi)
      exact ⟨round, fun _ => h⟩
    · exact ⟨⟨[], ⟨.ofNat 33 0, 0⟩, .ofNat 33 0, .ofNat 32 0, [], ⟨.ofNat 32 0, .ofNat 32 0,
        .ofNat 12 0⟩⟩, fun hlt => absurd hlt hi⟩
  choose round hvalid using hround
  refine ⟨⟨false⟩, (List.range 256).map round, _, ⟨⟨proto.encodeSessionConfig false,
    orThrow_ok (decode_sessionConfig hproto false), rfl⟩, fun i hi => ?_⟩, ?_, ?_⟩
  · rw [List.length_map, List.length_range] at hi
    rw [List.getElem_map, List.getElem_range]
    exact (hvalid i hi).1
  · rw [List.length_map, List.length_range]
  · refine List.ext_getElem ?_ fun i hi _ => ?_
    · rw [length_values, List.length_map, List.length_map]
    · rw [length_values, List.length_map, List.length_range] at hi
      simp only [values, List.getElem_mapIdx, List.getElem_map, List.getElem_range]
      exact (hvalid i hi).2

/-- Zeros in memory, and the frames of an honest client with the share three. -/
theorem share_not_sum : ¬∀ mem y secret inputs,
    KeepsOrder affineOps (fun _ => .ofNat 32 7) mem y secret inputs := by
  intro h
  have hb : ValidScalar (.ofNat 32 2) := by decide
  obtain ⟨config, rounds, history, hcompleted, hlen, hvalues⟩ :=
    exists_completed (fun _ => .ofNat 32 7) .zero affineOps_lawful Client.wireTypes_lawful
      smallChoices_valid (fun _ _ => hb) (smallChoices_nonDegenerate (.ofNat 32 5))
  have hsum := (h .zero (.ofNat 32 5) (fun _ => .ofNat 32 2)
    (history.filterMap Event.read?)).modEq hcompleted hlen (List.prefix_refl _)
  rw [hvalues] at hsum
  have hzero : termWeights 256 * wordsVal (Memory.zero).term = 0 := by decide +kernel
  rw [hzero] at hsum
  have hsel := hsum.trans (weightedSum_selected smallChoices (.ofNat 32 5))
  revert hsel
  decide +kernel

end CotMta.Session
