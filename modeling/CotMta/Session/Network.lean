/-
  The network session of an honest client and an honest server.

  `network_answers` and `network_aborts` give one run to the end, the two sides
  taking turns.  As the order of the steps does not matter (`Net.towards_end`),
  every other run leads to the same end (`network_in_step`).  Only a debug session
  may abort: the server's check multiplies words that were never set, and an
  assertion may not hold.
-/
import CotMta.Session.Choices
import CotMta.Session.Codecs

namespace CotMta.Session

open Trezor Secp256k1 Client Server Relation Net

section
variable (ops : GroupOps) (sha256 : List UInt8 → Bytes 32) (proto : ProtoTypes)
  (mem : Memory) (c : AliceChoices) (y : Scalar) (b : ℕ → Scalar)

/-- The client, with or without `--debug-reveal`. -/
def client (debugReveal : Bool) : Client.Session DemoOutput :=
  runNetworkDemo sha256 (c.draws y b) proto ⟨debugReveal, c.given.map Bytes.toList, none⟩

/-- The server. -/
def server : Server.Session ServerOutput := ServerApp.run ops sha256 mem y b

/-- The two connected, before the first step. -/
def network (debugReveal : Bool) : Net Frame Message DemoOutput ServerOutput :=
  .init (client sha256 proto c y b debugReveal) (server ops sha256 mem y b)

end

variable {ops : GroupOps} {sha256 : List UInt8 → Bytes 32} {proto : ProtoTypes}
  {mem : Memory} {c : AliceChoices} {y : Scalar} {b : ℕ → Scalar}
  {toRight toLeft : Channel Frame Message}

/-! ## The run -/

section
variable (hops : ops.Lawful) (hproto : proto.Lawful)
include hops hproto

omit hops hproto in
/-- The client's part of a round, its object being built. -/
theorem networkRound_eq {i : ℕ} (ha : ValidScalar (c.a i)) {A : Point}
    (hA : compressed ((c.a i).nat • G) = some A) :
    networkRound sha256 (c.draws y b) proto c.x.toList i = (do
      .send (.otInit A.toList i) (proto.encodeOTInit ⟨A.toList, i⟩)
      let pointB ← .receive proto.decodeOTResponse .otResponse
      let encrypted ← attempt ((AliceOT.ofBytes (c.ui i) (c.m1 i) (c.ui i) (c.a i) A).processResponse
        sha256 (c.nonce i).toList pointB)
      .send (.otEncrypted encrypted.encryptedM0 encrypted.encryptedM1 encrypted.nonce)
        (proto.encodeOTEncrypted encrypted)
      pure (c.ui i).toList) := by
  have hnew : AliceOT.new (c.ui i).toList (c.m1 i).toList (c.ui i).toList (c.a i).toList =
      .ok (AliceOT.ofBytes (c.ui i) (c.m1 i) (c.ui i) (c.a i) A) := AliceOT.new_eq _ _ _ ha hA
  simp only [networkRound, AliceChoices.draws, AliceChoices.modAdd_eq, hnew]
  rfl

omit hops hproto in
/-- The server's frame of a round, if it has a point to send. -/
def roundReply (c : AliceChoices) (y : Scalar) (b : ℕ → Scalar) (i : ℕ) : List (Message × Frame) :=
  (compressed (answer (Server.getBit y i) (c.a i) (b i))).toList.map fun B =>
    (.otResponse B.toList, ProtoCodec.encodeOtResponse ⟨B⟩)

/-- **One round:** three frames, and Bob has the selected message. -/
theorem round_runs (mem : Memory) {i : ℕ} (hi : i < 256) (ha : ValidScalar (c.a i))
    (hb : ValidScalar (b i)) (hdeg : ¬Degenerate (Server.getBit y i) (c.a i) (b i))
    {k : Uint8Array → Client.Session DemoOutput} {l : Scalar → Server.Session ServerOutput}
    (hright : toRight.inFlight = []) (hleft : toLeft.inFlight = []) :
    ∃ sent, Runs
      ⟨networkRound sha256 (c.draws y b) proto c.x.toList i >>= k,
        ServerApp.round ops sha256 mem y b i >>= l, toRight, toLeft⟩
      ⟨k (c.ui i).toList, l (c.selected y i), toRight.pass sent, toLeft.pass (roundReply c y b i)⟩ := by
  obtain ⟨A, B, bob, e0, e1, hA, hinit, hresponse, hdecrypt⟩ :=
    round_eq ha hb sha256 hops hdeg (c.ui i) (c.m1 i) (c.ui i)
  have hlt : i < 2 ^ 32 := hi.trans (by norm_num)
  have hindex : (UInt32.ofNat i).toNat = i := UInt32.toNat_ofNat_of_lt' hlt
  have hB : compressed (answer (Server.getBit y i) (c.a i) (b i)) = some B := by
    obtain ⟨shared, hshared⟩ := hb.exists_compressed (ha.nsmul_ne_zero G_isAt.ne_zero)
    exact congrArg Prod.snd ((init_eq hops hb hA hshared (mem.frame i) (mem.behind i)).symm.trans
      (hinit _ _))
  have hreply : roundReply c y b i = [(.otResponse B.toList, ProtoCodec.encodeOtResponse ⟨B⟩)] := by
    rw [roundReply, hB]
    rfl
  rw [networkRound_eq ha hA, hreply]
  simp only [Proc.bind_assoc, ServerApp.round, ServerApp.readOtInit]
  refine ⟨[(.otInit A.toList i, proto.encodeOTInit ⟨A.toList, i⟩)] ++
    [(.otEncrypted e0.toList e1.toList (c.nonce i).toList,
      proto.encodeOTEncrypted ⟨e0.toList, e1.toList, (c.nonce i).toList⟩)], ?_⟩
  rw [← Channel.pass_pass]
  refine .trans (send_right hright (decode_otInit hproto A hlt) (by rw [hindex])) ?_
  simp only [hindex, ne_eq, not_true_eq_false, if_false, hinit, ServerApp.writeOtResponse,
    Proc.bind_assoc, ServerApp.readOtEncrypted]
  refine .trans (send_left hleft (decode_otResponse hproto B) rfl) ?_
  simp only [hresponse, attempt, Proc.done_bind]
  refine .trans (send_right hright (decode_otEncrypted hproto e0 e1 (c.nonce i)) rfl) ?_
  simp only [hdecrypt]
  exact .refl

/-- The rounds from `i` on. -/
theorem rounds_runs (sha256 : List UInt8 → Bytes 32) (mem : Memory) (hc : c.Valid)
    (hb : ∀ i < 256, ValidScalar (b i)) (hdeg : NonDegenerate c y b)
    {k : List Uint8Array → Client.Session DemoOutput} {l : List Scalar → Server.Session ServerOutput} :
    ∀ (count i : ℕ) (ui : List Uint8Array) (mc : List Scalar)
      {toRight toLeft : Channel Frame Message}, i + count ≤ 256 → toRight.inFlight = [] →
      toLeft.inFlight = [] → ∃ sent, Runs
        ⟨networkRounds sha256 (c.draws y b) proto c.x.toList count i ui >>= k,
          ServerApp.rounds ops sha256 mem y b count i mc >>= l, toRight, toLeft⟩
        ⟨k (ui ++ (List.range' i count).map fun i => (c.ui i).toList),
          l (mc ++ (List.range' i count).map (c.selected y)),
          toRight.pass sent, toLeft.pass ((List.range' i count).flatMap (roundReply c y b))⟩
  | 0, i, ui, mc, toRight, toLeft, _, _, _ => by
    refine ⟨[], ?_⟩
    rw [List.range'_zero, List.flatMap_nil, Channel.pass_nil, Channel.pass_nil, List.map_nil,
      List.append_nil, List.map_nil, List.append_nil]
    exact .refl
  | count + 1, i, ui, mc, toRight, toLeft, hi, hright, hleft => by
    have hi' : i < 256 := by omega
    simp only [networkRounds, ServerApp.rounds, Proc.bind_assoc]
    obtain ⟨sent, hround⟩ := round_runs hops hproto mem hi' (hc.a i hi') (hb i hi')
      (hdeg i hi') (k := fun ui' => networkRounds sha256 (c.draws y b) proto c.x.toList count (i + 1)
        (ui ++ [ui']) >>= k) (l := fun value => ServerApp.rounds ops sha256 mem y b count (i + 1)
        (mc ++ [value]) >>= l) hright hleft
    obtain ⟨sent', hrest⟩ := rounds_runs sha256 mem hc hb hdeg (k := k) (l := l) count
      (i + 1) (ui ++ [(c.ui i).toList]) (mc ++ [c.selected y i]) (by omega)
      (Channel.pass_inFlight.trans hright) (Channel.pass_inFlight.trans hleft)
    refine ⟨sent ++ sent', hround.trans ?_⟩
    rw [List.append_assoc, List.append_assoc, Channel.pass_pass, Channel.pass_pass] at hrest
    exact hrest

/-! ## The end of the session -/

omit hops hproto

/-- Alice's additive share. -/
def aliceShare (c : AliceChoices) : Scalar :=
  Bytes.ofNat 32 ((n - weightedSum ((List.range 256).map c.ui) % n) % n)

theorem client_aliceShare :
    MTAProtocol.computeAliceShare ((List.range 256).map fun i => (c.ui i).toList) =
      (aliceShare c).toList := by
  have h := clientAliceShare_eq ((List.range 256).map c.ui)
  rw [List.map_map] at h
  exact h

/-- The outcome of the server's check, when it has one. -/
def verified (mem : Memory) (y : Scalar) : Bool :=
  decide (CheckPasses mem.bn_xy mem.bn_uv y (serverShare mem.term))

/-- A session in which no assertion fails: only `verify_mta` has one that can. -/
def Returns (mem : Memory) (y : Scalar) (debugReveal : Bool) : Prop :=
  debugReveal = true → CheckReturns mem.bn_xy y

theorem server_check (hcheck : CheckReturns mem.bn_xy y) (x u : Scalar) :
    MTA.verifyMta machine mem.bn_xy mem.bn_uv x y u (serverShare mem.term) =
      some (verified mem y) := by
  rw [verifyMta_eq, if_pos hcheck, verified]

/-- What the client prints at the end. -/
def clientOutput (mem : Memory) (c : AliceChoices) (y : Scalar) (debugReveal : Bool) :
    DemoOutput where
  x := c.x.toList
  y := if debugReveal then some y.toList else none
  u := (aliceShare c).toList
  v := (serverShare mem.term).toList
  verification :=
    if debugReveal then if verified mem y then "ok" else "failed"
    else "unavailable in network mode without revealing Bob's secret y"

/-- What the server prints at the end. -/
def serverOutput (mem : Memory) (y : Scalar) (debugReveal : Bool) : ServerOutput where
  v := serverShare mem.term
  verification := if debugReveal then some (verified mem y) else none

/-- The frame with the server's additive share. -/
def shareFrame (term : Words) : Frame := ProtoCodec.encodeScalar ⟨serverShare term⟩

/-- The frame after it, in a debug session. -/
def revealFrames (mem : Memory) (y : Scalar) (debugReveal : Bool) : List (Message × Frame) :=
  if debugReveal then [(.debugRevealResponse y.toList (verified mem y),
    ProtoCodec.encodeDebugRevealResponse ⟨y, verified mem y⟩)]
  else []

/-- The client's frame in a debug session. -/
def requestFrames (proto : ProtoTypes) (c : AliceChoices) (debugReveal : Bool) :
    List (Message × Frame) :=
  if debugReveal then [(.debugRevealRequest c.x.toList (aliceShare c).toList,
    proto.encodeDebugRevealRequest c.x.toList (aliceShare c).toList)]
  else []

include hproto in
theorem finish_runs {mc_values : List Scalar} (hlen : mc_values.length = 256) (debugReveal : Bool)
    (hcheck : Returns mem y debugReveal) (hright : toRight.inFlight = [])
    (hleft : toLeft.inFlight = []) :
    Runs
      ⟨networkFinish proto debugReveal c.x.toList ((List.range 256).map fun i => (c.ui i).toList),
        ServerApp.finish mem y ⟨debugReveal⟩ mc_values, toRight, toLeft⟩
      ⟨.done (clientOutput mem c y debugReveal), .done (serverOutput mem y debugReveal),
        toRight.pass (requestFrames proto c debugReveal), toLeft.pass
          ((.mtaShare (serverShare mem.term).toList, shareFrame mem.term) ::
            revealFrames mem y debugReveal)⟩ := by
  simp only [networkFinish, ServerApp.finish, client_aliceShare, server_share mem.term y hlen,
    ServerApp.orAbort, ServerApp.writeScalar]
  cases debugReveal with
  | false =>
    refine .trans (send_left hleft (decode_mtaShare hproto (serverShare mem.term)) rfl) ?_
    have hnone : requestFrames proto c false = [] := rfl
    rw [hnone, Channel.pass_nil]
    exact .refl
  | true =>
    refine .trans (send_left hleft (decode_mtaShare hproto (serverShare mem.term)) rfl) ?_
    simp only [if_true, ServerApp.readDebugRevealRequest, ServerApp.writeDebugRevealResponse]
    refine .trans (send_right hright (decode_debugRevealRequest hproto c.x (aliceShare c)) rfl) ?_
    simp only [server_check (hcheck rfl)]
    refine .trans (send_left hleft (decode_debugRevealResponse hproto y _) rfl) ?_
    rw [Channel.pass_pass]
    exact .refl

include hproto in
/-- Where the check of a debug session aborts, the client waits for the reveal. -/
theorem finish_aborts {mc_values : List Scalar} (hlen : mc_values.length = 256)
    (hcheck : ¬CheckReturns mem.bn_xy y) (hright : toRight.inFlight = [])
    (hleft : toLeft.inFlight = []) :
    ∃ got next, Runs
      ⟨networkFinish proto true c.x.toList ((List.range 256).map fun i => (c.ui i).toList),
        ServerApp.finish mem y ⟨true⟩ mc_values, toRight, toLeft⟩
      ⟨.read got next, .throw "assertion failed", toRight.pass (requestFrames proto c true),
        toLeft.pass [(.mtaShare (serverShare mem.term).toList, shareFrame mem.term)]⟩ := by
  simp only [networkFinish, ServerApp.finish, client_aliceShare, server_share mem.term y hlen,
    ServerApp.orAbort, ServerApp.writeScalar, if_true, ServerApp.readDebugRevealRequest]
  refine ⟨?got, ?next,
    .trans (send_left hleft (decode_mtaShare hproto (serverShare mem.term)) rfl) ?run⟩
  case run =>
    refine .trans (send_right hright (decode_debugRevealRequest hproto c.x (aliceShare c)) rfl) ?_
    simp only [verifyMta_eq, if_neg hcheck]
    exact .refl

theorem client_opens (debugReveal : Bool) :
    client sha256 proto c y b debugReveal =
      .send (.sessionConfig debugReveal) (proto.encodeSessionConfig debugReveal) >>= fun _ =>
        networkRounds sha256 (c.draws y b) proto c.x.toList 256 0 [] >>=
          networkFinish proto debugReveal c.x.toList := by
  rw [client, runNetworkDemo, if_neg (by simp)]
  simp only [AliceChoices.draws, AliceChoices.x_eq]

/-- The client looks at no choice of the server. -/
theorem client_eq (y y' : Scalar) (b b' : ℕ → Scalar) (debugReveal : Bool) :
    client sha256 proto c y b debugReveal = client sha256 proto c y' b' debugReveal := by
  have hrounds : ∀ (x : Uint8Array) (count i : ℕ) (ui : List Uint8Array),
      networkRounds sha256 (c.draws y b) proto x count i ui =
        networkRounds sha256 (c.draws y' b') proto x count i ui := by
    intro x count
    induction count with
    | zero => exact fun _ _ => rfl
    | succ count ih =>
      intro i ui
      exact congrArg (networkRound sha256 (c.draws y b) proto x i >>= ·) (funext fun _ => ih _ _)
  rw [client_opens, client_opens, hrounds]

include hproto in
/-- The first frame, up to the rounds. -/
theorem network_opens (debugReveal : Bool) :
    Runs (network ops sha256 proto mem c y b debugReveal)
      ⟨networkRounds sha256 (c.draws y b) proto c.x.toList 256 0 [] >>=
          networkFinish proto debugReveal c.x.toList,
        ServerApp.rounds ops sha256 mem y b 256 0 [] >>= ServerApp.finish mem y ⟨debugReveal⟩,
        Channel.empty.pass [(.sessionConfig debugReveal, proto.encodeSessionConfig debugReveal)],
        Channel.empty⟩ := by
  rw [network, Net.init, client_opens, server, ServerApp.run, ServerApp.readSessionConfig]
  exact send_right rfl (decode_sessionConfig hproto debugReveal) rfl

/-- Bob has decrypted 256 values. -/
theorem length_selected (c : AliceChoices) (y : Scalar) :
    ((List.range 256).map (c.selected y)).length = 256 := by
  rw [List.length_map, List.length_range]

include hops hproto in
/-- The session up to the end of the rounds. -/
theorem network_rounds (sha256 : List UInt8 → Bytes 32) (mem : Memory) (hc : c.Valid)
    (hb : ∀ i < 256, ValidScalar (b i)) (hdeg : NonDegenerate c y b) (debugReveal : Bool) :
    ∃ sent, Runs (network ops sha256 proto mem c y b debugReveal)
      ⟨networkFinish proto debugReveal c.x.toList ((List.range 256).map fun i => (c.ui i).toList),
        ServerApp.finish mem y ⟨debugReveal⟩ ((List.range 256).map (c.selected y)),
        Channel.empty.pass sent,
        Channel.empty.pass ((List.range 256).flatMap (roundReply c y b))⟩ := by
  obtain ⟨sent, hrounds⟩ := rounds_runs hops hproto sha256 mem hc hb hdeg
    (k := networkFinish proto debugReveal c.x.toList) (l := ServerApp.finish mem y ⟨debugReveal⟩)
    256 0 [] [] le_rfl
    (show (Channel.empty.pass [(.sessionConfig debugReveal,
      proto.encodeSessionConfig debugReveal)] : Channel Frame Message).inFlight = [] from rfl)
    (show (Channel.empty : Channel Frame Message).inFlight = [] from rfl)
  rw [List.nil_append, List.nil_append, ← List.range_eq_range', Channel.pass_pass] at hrounds
  exact ⟨_, (network_opens hproto debugReveal).trans hrounds⟩

include hops hproto in
/-- **A complete run of the session,** with the frames of the server. -/
theorem network_answers (sha256 : List UInt8 → Bytes 32) (mem : Memory) (hc : c.Valid)
    (hb : ∀ i < 256, ValidScalar (b i)) (hdeg : NonDegenerate c y b) (debugReveal : Bool)
    (hcheck : Returns mem y debugReveal) :
    ∃ sent, Runs (network ops sha256 proto mem c y b debugReveal)
      ⟨.done (clientOutput mem c y debugReveal), .done (serverOutput mem y debugReveal),
        Channel.empty.pass (sent ++ requestFrames proto c debugReveal),
        Channel.empty.pass ((List.range 256).flatMap (roundReply c y b) ++
          (.mtaShare (serverShare mem.term).toList, shareFrame mem.term) ::
            revealFrames mem y debugReveal)⟩ := by
  obtain ⟨sent, hrounds⟩ := network_rounds hops hproto sha256 mem hc hb hdeg debugReveal
  have hfinish := finish_runs (c := c) hproto (length_selected c y) debugReveal hcheck
    (show (Channel.empty.pass sent : Channel Frame Message).inFlight = [] from rfl)
    (show (Channel.empty.pass ((List.range 256).flatMap (roundReply c y b)) :
      Channel Frame Message).inFlight = [] from rfl)
  rw [Channel.pass_pass, Channel.pass_pass] at hfinish
  exact ⟨_, hrounds.trans hfinish⟩

include hops hproto in
theorem network_finishes (sha256 : List UInt8 → Bytes 32) (mem : Memory) (hc : c.Valid)
    (hb : ∀ i < 256, ValidScalar (b i)) (hdeg : NonDegenerate c y b) (debugReveal : Bool)
    (hcheck : Returns mem y debugReveal) :
    ∃ t, Runs (network ops sha256 proto mem c y b debugReveal) t ∧
      t.Finished (clientOutput mem c y debugReveal) (serverOutput mem y debugReveal) := by
  obtain ⟨sent, hrun⟩ := network_answers hops hproto sha256 mem hc hb hdeg debugReveal hcheck
  exact ⟨_, hrun, rfl, rfl, rfl, rfl⟩

include hops hproto in
/-- **A run of a debug session whose check aborts.** -/
theorem network_aborts (sha256 : List UInt8 → Bytes 32) (mem : Memory) (hc : c.Valid)
    (hb : ∀ i < 256, ValidScalar (b i)) (hdeg : NonDegenerate c y b)
    (hcheck : ¬CheckReturns mem.bn_xy y) :
    ∃ got next sent answered, Runs (network ops sha256 proto mem c y b true)
      ⟨.read got next, .throw "assertion failed", Channel.empty.pass sent,
        Channel.empty.pass answered⟩ := by
  obtain ⟨sent, hrounds⟩ := network_rounds hops hproto sha256 mem hc hb hdeg true
  obtain ⟨got, next, hfinish⟩ := finish_aborts (c := c) hproto (length_selected c y) hcheck
    (show (Channel.empty.pass sent : Channel Frame Message).inFlight = [] from rfl)
    (show (Channel.empty.pass ((List.range 256).flatMap (roundReply c y b)) :
      Channel Frame Message).inFlight = [] from rfl)
  rw [Channel.pass_pass, Channel.pass_pass] at hfinish
  exact ⟨got, next, _, _, hrounds.trans hfinish⟩

end

/-! ## Every interleaving -/

/-- What holds in every state of a session. -/
structure InStep (mem : Memory) (c : AliceChoices) (y : Scalar) (debugReveal : Bool)
    (s : Net Frame Message DemoOutput ServerOutput) : Prop where
  /-- the two do not both wait while no frame is under way -/
  not_deadlocked : ¬s.Deadlocked
  /-- the frames that have arrived were decoded as the messages that were sent -/
  toRight_faithful : s.toRight.Faithful
  toLeft_faithful : s.toLeft.Faithful
  /-- no check of the client fails -/
  left_not_throw : ∀ text, s.left ≠ .throw text
  /-- no check of the server fails, but for the assertions on the words of a debug session -/
  right_throw : ∀ text, s.right = .throw text →
    text = "assertion failed" ∧ debugReveal = true ∧ ¬CheckReturns mem.bn_xy y
  /-- no frame is under way when both have returned -/
  nothing_left : ∀ output result, s.left = .done output → s.right = .done result →
    s.toRight.inFlight = [] ∧ s.toLeft.inFlight = []
  /-- before the end a step is possible -/
  progress : (∃ t, Step s t) ∨
    s.Finished (clientOutput mem c y debugReveal) (serverOutput mem y debugReveal) ∨
    s.Aborted "assertion failed"

section
variable {debugReveal : Bool} {s t : Net Frame Message DemoOutput ServerOutput}

/-- What holds at the end holds on the way to it. -/
theorem InStep.before (ht : InStep mem c y debugReveal t) (h : s.Towards t) :
    InStep mem c y debugReveal s := by
  refine ⟨h.not_deadlocked ht.not_deadlocked, h.toRight_faithful, h.toLeft_faithful, ?_, ?_, ?_, ?_⟩
  · exact fun text hthrow => ht.left_not_throw text (h.left_throw text hthrow)
  · exact fun text hthrow => ht.right_throw text (h.right_throw text hthrow)
  · intro output result hleft hright
    obtain rfl := h.eq_of_done hleft hright
    exact ht.nothing_left output result hleft hright
  · rcases h.progress with hstep | rfl
    · exact Or.inl hstep
    · exact ht.progress

/-- The end of a session that returns. -/
theorem InStep.of_finished
    (h : t.Finished (clientOutput mem c y debugReveal) (serverOutput mem y debugReveal))
    (hright : t.toRight.Faithful) (hleft : t.toLeft.Faithful) : InStep mem c y debugReveal t := by
  obtain ⟨hl, hr, hempty⟩ := id h
  refine ⟨?_, hright, hleft, ?_, ?_, fun _ _ _ _ => hempty, Or.inr (Or.inl h)⟩
  · rintro ⟨⟨got, next, hread⟩, -⟩
    rw [hl] at hread
    cases hread
  · intro text hthrow
    rw [hl] at hthrow
    cases hthrow
  · intro text hthrow
    rw [hr] at hthrow
    cases hthrow

/-- The end of a debug session whose check aborts. -/
theorem InStep.of_aborted (h : t.Aborted "assertion failed") (hcheck : ¬CheckReturns mem.bn_xy y)
    (hright : t.toRight.Faithful) (hleft : t.toLeft.Faithful) : InStep mem c y true t := by
  obtain ⟨⟨got, next, hl⟩, hr, hempty⟩ := id h
  refine ⟨?_, hright, hleft, ?_, ?_, fun _ _ _ _ => hempty, Or.inr (Or.inr h)⟩
  · rintro ⟨-, ⟨got, next, hread⟩, -⟩
    rw [hr] at hread
    cases hread
  · intro text hthrow
    rw [hl] at hthrow
    cases hthrow
  · intro text hthrow
    rw [hr] at hthrow
    exact ⟨(Proc.throw.inj hthrow).symm, rfl, hcheck⟩

end

/-- **The two never deadlock and never misread each other,** in whatever order the
    steps and the deliveries come, with and without debug reveal, and whatever lies
    in the memory that the server reads. -/
theorem network_in_step (sha256 : List UInt8 → Bytes 32) (mem : Memory) (hops : ops.Lawful)
    (hproto : proto.Lawful) (hc : c.Valid) (hb : ∀ i < 256, ValidScalar (b i))
    (hdeg : NonDegenerate c y b) (debugReveal : Bool)
    {s : Net Frame Message DemoOutput ServerOutput}
    (hs : Runs (network ops sha256 proto mem c y b debugReveal) s) :
    InStep mem c y debugReveal s := by
  by_cases hcheck : Returns mem y debugReveal
  · obtain ⟨sent, hrun⟩ := network_answers hops hproto sha256 mem hc hb hdeg debugReveal hcheck
    refine InStep.before ?_ (towards_end hrun (Finished.stuck ⟨rfl, rfl, rfl, rfl⟩)
      Channel.faithful_pass Channel.faithful_pass hs)
    exact .of_finished ⟨rfl, rfl, rfl, rfl⟩ Channel.faithful_pass Channel.faithful_pass
  · obtain ⟨rfl, hfails⟩ := Classical.not_imp.1 hcheck
    obtain ⟨got, next, sent, answered, hrun⟩ :=
      network_aborts hops hproto sha256 mem hc hb hdeg hfails
    refine InStep.before ?_ (towards_end hrun (Aborted.stuck ⟨⟨got, next, rfl⟩, rfl, rfl, rfl⟩)
      Channel.faithful_pass Channel.faithful_pass hs)
    exact .of_aborted ⟨⟨got, next, rfl⟩, rfl, rfl, rfl⟩ hfails
      Channel.faithful_pass Channel.faithful_pass

/-- Zeros in memory, but for the top limb of `bn_xy`. -/
def topMemory : Memory := { Memory.zero with bn_xy := fun i => if i.val = 8 then 0xFFFFFFFF else 0 }

/-- The ends of two debug sessions: over zeros in memory, and over `topMemory`,
    where the check aborts. -/
theorem in_step_at_ends :
    (∃ t, Runs (network affineOps (fun _ => .ofNat 32 7) wireTypes .zero smallChoices
        (.ofNat 32 5) (fun _ => .ofNat 32 2) true) t ∧
      (∃ output result, t.left = .done output ∧ t.right = .done result) ∧
      InStep .zero smallChoices (.ofNat 32 5) true t) ∧
    ∃ t, Runs (network affineOps (fun _ => .ofNat 32 7) wireTypes topMemory smallChoices
        (.ofNat 32 (n - 1)) (fun _ => .ofNat 32 2) true) t ∧
      t.right = .throw "assertion failed" ∧
      InStep topMemory smallChoices (.ofNat 32 (n - 1)) true t := by
  have hb : ValidScalar (.ofNat 32 2) := by decide
  constructor
  · have hcheck : Returns .zero (.ofNat 32 5) true := fun _ => by decide +kernel
    obtain ⟨t, hrun, hend⟩ := network_finishes affineOps_lawful wireTypes_lawful
      (fun _ => .ofNat 32 7) .zero smallChoices_valid (fun _ _ => hb)
      (smallChoices_nonDegenerate _) true hcheck
    exact ⟨t, hrun, ⟨_, _, hend.1, hend.2.1⟩, network_in_step _ _ affineOps_lawful
      wireTypes_lawful smallChoices_valid (fun _ _ => hb) (smallChoices_nonDegenerate _) true hrun⟩
  · have hcheck : ¬CheckReturns topMemory.bn_xy (.ofNat 32 (n - 1)) := by decide +kernel
    obtain ⟨got, next, sent, answered, hrun⟩ := network_aborts affineOps_lawful wireTypes_lawful
      (fun _ => .ofNat 32 7) topMemory smallChoices_valid (fun _ _ => hb)
      (smallChoices_nonDegenerate _) hcheck
    exact ⟨_, hrun, rfl, network_in_step _ _ affineOps_lawful wireTypes_lawful smallChoices_valid
      (fun _ _ => hb) (smallChoices_nonDegenerate _) true hrun⟩

end CotMta.Session
