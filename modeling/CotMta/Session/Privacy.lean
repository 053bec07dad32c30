/-
  What the frames of a session without debug reveal say about Bob's share.

  The replies fit every share, for some choice of the transfers' secrets, and the
  last frame, the server's additive share, depends on the memory alone.  So the
  frames of a session fit every share.
-/
import CotMta.Session.EndToEnd

namespace CotMta.Session

open Trezor Secp256k1 Client Server Relation Net

variable {ops : GroupOps} {sha256 : List UInt8 → Bytes 32} {proto : ProtoTypes}
  {mem : Memory} {c : AliceChoices} {y : Scalar} {b : ℕ → Scalar}
  {toRight toLeft : Channel Frame Message} {frames : List Frame}

/-- A side has thrown. -/
def Failed (s : Net Frame Message DemoOutput ServerOutput) : Prop :=
  (∃ text, s.left = .throw text) ∨ ∃ text, s.right = .throw text

/-- The client and the server can finish, and the server has sent these frames then. -/
def Completes (client : Client.Session DemoOutput) (server : Server.Session ServerOutput)
    (frames : List Frame) : Prop :=
  ∃ t output result, Runs (.init client server) t ∧ t.Finished output result ∧
    t.toLeft.written.map Prod.snd = frames

/-! ## Degenerate rounds -/

section
variable (hops : ops.Lawful) (hproto : proto.Lawful)
include hops hproto

/-- A degenerate round makes one side throw: the server when it has no point to
    send, the client when it has no second key. -/
theorem round_fails (sha256 : List UInt8 → Bytes 32) (mem : Memory) {i : ℕ} (hi : i < 256)
    (ha : ValidScalar (c.a i)) (hb : ValidScalar (b i))
    (hdeg : Degenerate (Server.getBit y i) (c.a i) (b i))
    {k : Uint8Array → Client.Session DemoOutput} {l : Scalar → Server.Session ServerOutput}
    (hright : toRight.inFlight = []) (hleft : toLeft.inFlight = []) :
    ∃ s, Runs
      ⟨networkRound sha256 (c.draws y b) proto c.x.toList i >>= k,
        ServerApp.round ops sha256 mem y b i >>= l, toRight, toLeft⟩ s ∧ Failed s := by
  obtain ⟨A, hA⟩ := ha.exists_compressed G_isAt.ne_zero
  obtain ⟨shared, hshared⟩ := hb.exists_compressed (ha.nsmul_ne_zero G_isAt.ne_zero)
  have hlt : i < 2 ^ 32 := hi.trans (by norm_num)
  have hindex : (UInt32.ofNat i).toNat = i := UInt32.toNat_ofNat_of_lt' hlt
  have hinit : (BobOT.new (Server.getBit y i) (b i)).processInit ops sha256 (mem.frame i)
      ⟨A, mem.behind i⟩ = (_, compressed (answer (Server.getBit y i) (c.a i) (b i))) :=
    init_eq hops hb hA hshared _ _
  rw [networkRound_eq ha hA]
  simp only [Proc.bind_assoc, ServerApp.round, ServerApp.readOtInit]
  rcases hdeg with hown | hzero
  · rw [(answer_eq_own ha hb).2 hown, hA] at hinit
    have hthrow : (AliceOT.ofBytes (c.ui i) (c.m1 i) (c.ui i) (c.a i) A).processResponse sha256
        (c.nonce i).toList A.toList = .error "cannot encode point at infinity" :=
      AliceOT.processResponse_own ha hA
    refine ⟨⟨.throw "cannot encode point at infinity", ?right, ?toRight, ?toLeft⟩,
      .trans (send_right hright (decode_otInit hproto A hlt) (by rw [hindex])) ?run,
      Or.inl ⟨_, rfl⟩⟩
    case run =>
      simp only [hindex, ne_eq, not_true_eq_false, if_false, hinit, ServerApp.writeOtResponse,
        Proc.bind_assoc]
      refine .trans (send_left hleft (decode_otResponse hproto A) rfl) ?_
      simp only [hthrow, attempt, Proc.throw_bind]
      exact .refl
  · rw [(answer_eq_zero ha hb).2 hzero, compressed_zero] at hinit
    refine ⟨⟨?left, .throw "failed to process OT init", ?sent, ?answered⟩,
      .trans (send_right hright (decode_otInit hproto A hlt) (by rw [hindex])) ?run',
      Or.inr ⟨_, rfl⟩⟩
    case run' =>
      simp only [hindex, ne_eq, not_true_eq_false, if_false, hinit, Proc.throw_bind]
      exact .refl

/-- The rounds from `i` on, one of them degenerate. -/
theorem rounds_fail (sha256 : List UInt8 → Bytes 32) (mem : Memory) (hc : c.Valid)
    (hb : ∀ i < 256, ValidScalar (b i)) {k : List Uint8Array → Client.Session DemoOutput}
    {l : List Scalar → Server.Session ServerOutput} :
    ∀ (count i : ℕ) (ui : List Uint8Array) (mc : List Scalar)
      {toRight toLeft : Channel Frame Message}, i + count ≤ 256 →
      (∃ j, i ≤ j ∧ j < i + count ∧ Degenerate (Server.getBit y j) (c.a j) (b j)) →
      toRight.inFlight = [] → toLeft.inFlight = [] → ∃ s, Runs
        ⟨networkRounds sha256 (c.draws y b) proto c.x.toList count i ui >>= k,
          ServerApp.rounds ops sha256 mem y b count i mc >>= l, toRight, toLeft⟩ s ∧ Failed s
  | 0, i, ui, mc, toRight, toLeft, _, hdeg, _, _ => by
    obtain ⟨j, hle, hlt, -⟩ := hdeg
    omega
  | count + 1, i, ui, mc, toRight, toLeft, hi, hdeg, hright, hleft => by
    have hi' : i < 256 := by omega
    simp only [networkRounds, ServerApp.rounds, Proc.bind_assoc]
    by_cases hthis : Degenerate (Server.getBit y i) (c.a i) (b i)
    · exact round_fails hops hproto sha256 mem hi' (hc.a i hi') (hb i hi') hthis hright hleft
    · obtain ⟨j, hle, hlt, hj⟩ := hdeg
      have hne : i ≠ j := by
        rintro rfl
        exact hthis hj
      obtain ⟨sent, hround⟩ := round_runs hops hproto mem hi' (hc.a i hi') (hb i hi')
        hthis (k := fun ui' => networkRounds sha256 (c.draws y b) proto c.x.toList count (i + 1)
          (ui ++ [ui']) >>= k) (l := fun value => ServerApp.rounds ops sha256 mem y b count (i + 1)
          (mc ++ [value]) >>= l) hright hleft
      obtain ⟨s, hrest, hfailed⟩ := rounds_fail sha256 mem hc hb (k := k) (l := l) count (i + 1)
        (ui ++ [(c.ui i).toList]) (mc ++ [c.selected y i]) (by omega)
        ⟨j, by omega, by omega, hj⟩
        (Channel.pass_inFlight.trans hright) (Channel.pass_inFlight.trans hleft)
      exact ⟨s, hround.trans hrest, hfailed⟩

/-- Only a session without a degenerate round completes. -/
theorem Completes.nonDegenerate {debugReveal : Bool} (hc : c.Valid)
    (hb : ∀ i < 256, ValidScalar (b i))
    (h : Completes (client sha256 proto c y b debugReveal) (server ops sha256 mem y b) frames) :
    NonDegenerate c y b := by
  obtain ⟨t, output, result, hrun, hend, -⟩ := h
  intro j hj hdeg
  obtain ⟨s, hrounds, hfailed⟩ := rounds_fail hops hproto sha256 mem hc hb
    (k := networkFinish proto debugReveal c.x.toList) (l := ServerApp.finish mem y ⟨debugReveal⟩) 256 0 [] []
    le_rfl ⟨j, Nat.zero_le j, by omega, hdeg⟩
    (show (Channel.empty.pass [(.sessionConfig debugReveal,
      proto.encodeSessionConfig debugReveal)] : Channel Frame Message).inFlight = [] from rfl)
    (show (Channel.empty : Channel Frame Message).inFlight = [] from rfl)
  have hthrow := Runs.throw
    (runs_to_end hrun hend.stuck ((network_opens hproto debugReveal).trans hrounds))
  rcases hfailed with ⟨text, hleft⟩ | ⟨text, hright⟩
  · have hdone := hend.1
    rw [hthrow.1 text hleft] at hdone
    cases hdone
  · have hdone := hend.2.1
    rw [hthrow.2 text hright] at hdone
    cases hdone

/-- Only a debug session whose check returns completes. -/
theorem Completes.returns {debugReveal : Bool} (hc : c.Valid) (hb : ∀ i < 256, ValidScalar (b i))
    (h : Completes (client sha256 proto c y b debugReveal) (server ops sha256 mem y b) frames) :
    Returns mem y debugReveal := by
  have hdeg := h.nonDegenerate hops hproto hc hb
  obtain ⟨t, output, result, hrun, hend, -⟩ := h
  rintro rfl
  by_contra hcheck
  obtain ⟨got, next, sent, answered, hs⟩ :=
    network_aborts hops hproto sha256 mem hc hb hdeg hcheck
  have hdone := hend.2.1
  rw [(Runs.throw (runs_to_end hrun hend.stuck hs)).2 _ rfl] at hdone
  cases hdone

/-! ## The frames -/

/-- The frames of the server: its replies, and its additive share. -/
theorem Completes.frames_eq (hc : c.Valid) (hb : ∀ i < 256, ValidScalar (b i))
    (h : Completes (client sha256 proto c y b false) (server ops sha256 mem y b) frames) :
    frames = ((List.range 256).flatMap (roundReply c y b)).map Prod.snd ++
      [shareFrame mem.term] := by
  have hdeg := h.nonDegenerate hops hproto hc hb
  have hcheck := h.returns hops hproto hc hb
  obtain ⟨t, output, result, hrun, hend, rfl⟩ := h
  obtain ⟨sent, hrun'⟩ := network_answers hops hproto sha256 mem hc hb hdeg false hcheck
  have hsame := (reflTransGen_iff_eq hend.stuck).1
    (runs_to_end hrun' (Finished.stuck ⟨rfl, rfl, rfl, rfl⟩) hrun)
  rw [← hsame]
  simp [Channel.pass, Channel.empty, revealFrames]

/-- A session without degenerate round completes with these frames. -/
theorem completes_frames (sha256 : List UInt8 → Bytes 32) (mem : Memory) (hc : c.Valid)
    (hb : ∀ i < 256, ValidScalar (b i)) (hdeg : NonDegenerate c y b) :
    Completes (client sha256 proto c y b false) (server ops sha256 mem y b)
      (((List.range 256).flatMap (roundReply c y b)).map Prod.snd ++ [shareFrame mem.term]) := by
  have hcheck : Returns mem y false := fun h => absurd h (by decide)
  obtain ⟨t, hrun, hend⟩ := network_finishes hops hproto sha256 mem hc hb hdeg false hcheck
  have h : Completes (client sha256 proto c y b false) (server ops sha256 mem y b) _ :=
    ⟨t, _, _, hrun, hend, rfl⟩
  rw [← h.frames_eq hops hproto hc hb]
  exact h

end

/-- **The exact condition for a session to complete**: no round is degenerate, and in
    a debug session the assertions of the check hold. -/
theorem completes_iff (hops : ops.Lawful) (hproto : proto.Lawful) (debugReveal : Bool)
    (hc : c.Valid) (hb : ∀ i < 256, ValidScalar (b i)) :
    (∃ frames, Completes (client sha256 proto c y b debugReveal) (server ops sha256 mem y b)
      frames) ↔ NonDegenerate c y b ∧ Returns mem y debugReveal := by
  constructor
  · rintro ⟨frames, h⟩
    exact ⟨h.nonDegenerate hops hproto hc hb, h.returns hops hproto hc hb⟩
  · rintro ⟨hdeg, hcheck⟩
    obtain ⟨t, hrun, hend⟩ :=
      network_finishes hops hproto sha256 mem hc hb hdeg debugReveal hcheck
    exact ⟨_, t, _, _, hrun, hend, rfl⟩

/-- A debug session over zeros in memory completes; one with a server that draws the
    client's ones does not, as the rounds of the zero bits are degenerate. -/
theorem completes_iff_smallChoices :
    (∃ frames, Completes
      (client (fun _ => .ofNat 32 7) wireTypes smallChoices (.ofNat 32 5) (fun _ => .ofNat 32 2) true)
      (server affineOps (fun _ => .ofNat 32 7) .zero (.ofNat 32 5) fun _ => .ofNat 32 2) frames) ∧
    ¬∃ frames, Completes
      (client (fun _ => .ofNat 32 7) wireTypes smallChoices (.ofNat 32 5) (fun _ => .ofNat 32 1) true)
      (server affineOps (fun _ => .ofNat 32 7) .zero (.ofNat 32 5) fun _ => .ofNat 32 1) frames := by
  have hone : ValidScalar (.ofNat 32 1) := by decide
  have htwo : ValidScalar (.ofNat 32 2) := by decide
  have hdegenerate : ¬NonDegenerate smallChoices (.ofNat 32 5) fun _ => .ofNat 32 1 :=
    fun h => h 1 (by norm_num) (.inl ⟨by decide, rfl⟩)
  exact ⟨(completes_iff affineOps_lawful wireTypes_lawful true smallChoices_valid
      fun _ _ => htwo).2 ⟨smallChoices_nonDegenerate _, fun _ => by decide +kernel⟩,
    fun h => hdegenerate ((completes_iff affineOps_lawful wireTypes_lawful true smallChoices_valid
      fun _ _ => hone).1 h).1⟩

/-! ## The replies -/

/-- For any other choice some secret gives the same reply, and no degenerate round. -/
theorem exists_secret {q q' : UInt8} {a b : Bytes 32} (ha : ValidScalar a) (hb : ValidScalar b)
    (hdeg : ¬Degenerate q a b) :
    ∃ b', ValidScalar b' ∧ ¬Degenerate q' a b' ∧ answer q' a b' = answer q a b := by
  have hzero : answer q a b ≠ 0 := fun h => hdeg (Or.inr ((answer_eq_zero ha hb).1 h))
  have hown : answer q a b ≠ a.nat • G := fun h => hdeg (Or.inl ((answer_eq_own ha hb).1 h))
  have hsecret : ∃ b', ValidScalar b' ∧ answer q' a b' = answer q a b := by
    by_cases hq : q' = 0
    · obtain ⟨b', ⟨hb', heq⟩, -⟩ := existsUnique_validScalar hzero
      refine ⟨b', hb', ?_⟩
      rw [answer, if_pos hq, add_zero, heq]
    · obtain ⟨b', ⟨hb', heq⟩, -⟩ := existsUnique_validScalar (sub_ne_zero.2 hown)
      refine ⟨b', hb', ?_⟩
      rw [answer, if_neg hq, heq, sub_add_cancel]
  obtain ⟨b', hb', heq⟩ := hsecret
  refine ⟨b', hb', ?_, heq⟩
  rintro (h | h)
  · exact hown (heq.symm.trans ((answer_eq_own ha hb').2 h))
  · exact hzero (heq.symm.trans ((answer_eq_zero ha hb').2 h))

/-- Secrets with which a server with the share `y'` gives the same replies. -/
theorem exists_secrets (hc : c.Valid) (hb : ∀ i < 256, ValidScalar (b i))
    (hdeg : NonDegenerate c y b) (y' : Scalar) :
    ∃ b', (∀ i < 256, ValidScalar (b' i)) ∧ NonDegenerate c y' b' ∧
      (List.range 256).flatMap (roundReply c y' b') =
        (List.range 256).flatMap (roundReply c y b) := by
  have hsecret : ∀ i, ∃ s, i < 256 → ValidScalar s ∧
      ¬Degenerate (Server.getBit y' i) (c.a i) s ∧
      answer (Server.getBit y' i) (c.a i) s = answer (Server.getBit y i) (c.a i) (b i) := by
    intro i
    by_cases hi : i < 256
    · obtain ⟨s, hs⟩ := exists_secret (hc.a i hi) (hb i hi) (hdeg i hi)
      exact ⟨s, fun _ => hs⟩
    · exact ⟨b i, fun hlt => absurd hlt hi⟩
  choose b' hb' using hsecret
  refine ⟨b', fun i hi => (hb' i hi).1, fun i hi => (hb' i hi).2.1, ?_⟩
  refine List.flatMap_congr fun i hi => ?_
  rw [roundReply, roundReply, (hb' i (List.mem_range.1 hi)).2.2]

/-- **The frames of a session without debug reveal hide the server's share**: with
    some secrets a server with any share `y'` over the same memory sends the client
    the same frames. -/
theorem frames_hide_share (hops : ops.Lawful) (hproto : proto.Lawful) (hc : c.Valid)
    (hb : ∀ i < 256, ValidScalar (b i))
    (h : Completes (client sha256 proto c y b false) (server ops sha256 mem y b) frames)
    (y' : Scalar) :
    ∃ b', (∀ i < 256, ValidScalar (b' i)) ∧
      Completes (client sha256 proto c y b false) (server ops sha256 mem y' b') frames := by
  have hdeg := h.nonDegenerate hops hproto hc hb
  obtain ⟨b', hb', hdeg', hreplies⟩ := exists_secrets hc hb hdeg y'
  refine ⟨b', hb', ?_⟩
  rw [h.frames_eq hops hproto hc hb, ← hreplies, client_eq y y' b b']
  exact completes_frames hops hproto sha256 mem hc hb' hdeg'

/-- The frames for the share one also fit the share two. -/
theorem frames_hide_share_one : ∃ frames,
    Completes (client (fun _ => .ofNat 32 7) wireTypes smallChoices (.ofNat 32 1)
        (fun _ => .ofNat 32 2) false)
      (server affineOps (fun _ => .ofNat 32 7) .zero (.ofNat 32 1) fun _ => .ofNat 32 2) frames ∧
    ∃ b', (∀ i < 256, ValidScalar (b' i)) ∧
      Completes (client (fun _ => .ofNat 32 7) wireTypes smallChoices (.ofNat 32 1)
          (fun _ => .ofNat 32 2) false)
        (server affineOps (fun _ => .ofNat 32 7) .zero (.ofNat 32 2) b') frames := by
  have hb : ValidScalar (.ofNat 32 2) := by decide
  have h := completes_frames (y := .ofNat 32 1) affineOps_lawful wireTypes_lawful
    (fun _ => .ofNat 32 7) .zero smallChoices_valid (fun _ _ => hb) (smallChoices_nonDegenerate _)
  exact ⟨_, h, frames_hide_share affineOps_lawful wireTypes_lawful smallChoices_valid
    (fun _ _ => hb) h (.ofNat 32 2)⟩

/-- **Only the last frame tells of the server's memory**: the replies are the same for
    some secrets of a server with any share, whatever is in its memory, and the last
    frame is a function of the words where `term` lies. -/
theorem replies_hide_share (hops : ops.Lawful) (hproto : proto.Lawful) (hc : c.Valid)
    (hb : ∀ i < 256, ValidScalar (b i))
    (h : Completes (client sha256 proto c y b false) (server ops sha256 mem y b) frames) :
    ∃ answered, frames = answered ++ [shareFrame mem.term] ∧ ∀ y', ∃ b',
      (∀ i < 256, ValidScalar (b' i)) ∧ ∀ mem',
        Completes (client sha256 proto c y b false) (server ops sha256 mem' y' b')
          (answered ++ [shareFrame mem'.term]) := by
  have hdeg := h.nonDegenerate hops hproto hc hb
  refine ⟨_, h.frames_eq hops hproto hc hb, fun y' => ?_⟩
  obtain ⟨b', hb', hdeg', hreplies⟩ := exists_secrets hc hb hdeg y'
  refine ⟨b', hb', fun mem' => ?_⟩
  rw [← hreplies, client_eq y y' b b']
  exact completes_frames hops hproto sha256 mem' hc hb' hdeg'

/-- The session of `smallChoices` with the share five. -/
theorem replies_hide_share_five : ∃ answered, ∀ y', ∃ b',
    (∀ i < 256, ValidScalar (b' i)) ∧ ∀ mem',
      Completes (client (fun _ => .ofNat 32 7) wireTypes smallChoices (.ofNat 32 5)
          (fun _ => .ofNat 32 2) false)
        (server affineOps (fun _ => .ofNat 32 7) mem' y' b')
        (answered ++ [shareFrame mem'.term]) := by
  have hb : ValidScalar (.ofNat 32 2) := by decide
  have h := completes_frames (y := .ofNat 32 5) affineOps_lawful wireTypes_lawful
    (fun _ => .ofNat 32 7) .zero smallChoices_valid (fun _ _ => hb) (smallChoices_nonDegenerate _)
  obtain ⟨answered, -, hfit⟩ := replies_hide_share affineOps_lawful wireTypes_lawful
    smallChoices_valid (fun _ _ => hb) h
  exact ⟨answered, hfit⟩

end CotMta.Session
