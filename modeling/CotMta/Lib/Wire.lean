/-
  Two programs over byte streams.

  A `Port` stands between a program and its connection: it turns a frame into
  symbols, keeps the symbols that have come, and takes the frames from them step
  by step.  In a `Wire` the programs of a `Net` exchange their frames through
  ports; the symbols arrive in any pieces and at any moment.

  `Port.Sound` says what the ports owe to the code of the frames: behind each step
  of a port, the frames that it has not taken are in what it stores and in what is
  still to come.  Then every run of the wire shows a run of the net
  (`Wire.Runs.shows`), every run of the net can be realised (`Wire.Shows.realise`),
  and a session that can finish on the net always does on the wire
  (`Wire.completes`).
-/
import CotMta.Lib.ProcessLogic

namespace CotMta

open Relation

/-- What a port does for a program that waits for a frame. -/
inductive Outcome (F σ : Type) where
  /-- nothing, until more symbols come -/
  | wait
  | busy (port : σ)
  | frame (frame : F) (port : σ)
  | failed (text : String)

/-- What stands between a process and its connection. -/
structure Port (F A σ : Type) where
  write : σ → F → Except String (List A × σ)
  deliver : σ → List A → σ
  next : σ → Outcome F σ

namespace Port
variable {F A σ : Type}

/-- The port codes frames by `code`.  `Unread port frames symbols`: the frames are
    still to be taken by the port, and the symbols are still to be delivered. -/
structure Sound (P : Port F A σ) (code : F → List A) (Fits : F → Prop)
    (Unread : σ → List F → List A → Prop) (rank : σ → ℕ) : Prop where
  write : ∀ {port frames symbols frame}, Unread port frames symbols → Fits frame →
    ∃ port', P.write port frame = .ok (code frame, port') ∧ Unread port' frames symbols
  deliver : ∀ {port frames piece symbols}, Unread port frames (piece ++ symbols) →
    Unread (P.deliver port piece) frames symbols
  push : ∀ {port frames symbols frame}, Unread port frames symbols → Fits frame →
    Unread port (frames ++ [frame]) (symbols ++ code frame)
  /-- a port with all symbols does not wait for a frame -/
  wait : ∀ {port frames}, Unread port frames [] → P.next port = .wait → frames = []
  busy : ∀ {port port' frames symbols}, Unread port frames symbols → P.next port = .busy port' →
    Unread port' frames symbols ∧ rank port' < rank port
  frame : ∀ {port port' frames symbols frame}, Unread port frames symbols →
    P.next port = .frame frame port' →
    ∃ rest, frames = frame :: rest ∧ Unread port' rest symbols
  failed : ∀ {port frames symbols text}, Unread port frames symbols → P.next port ≠ .failed text
  finished : ∀ {port symbols}, Unread port [] symbols → symbols = []

end Port

namespace Proc
variable {F M A σ α : Type}

/-- One step of a program at its port, with the symbols that it has written. -/
inductive Acts (P : Port F A σ) : Proc F M α → σ → List A → Proc F M α → σ → List A → Prop where
  | write {sent : M} {frame : F} {next : Proc F M α} {port port' : σ} {out symbols : List A} :
    P.write port frame = .ok (symbols, port') →
    Acts P (.write sent frame next) port out next port' (out ++ symbols)
  | writeFailed {sent : M} {frame : F} {next : Proc F M α} {port : σ} {out : List A}
      {text : String} :
    P.write port frame = .error text →
    Acts P (.write sent frame next) port out (.throw text) port out
  | busy {got : F → Option M} {next : F → Proc F M α} {port port' : σ} {out : List A} :
    P.next port = .busy port' → Acts P (.read got next) port out (.read got next) port' out
  | frame {got : F → Option M} {next : F → Proc F M α} {port port' : σ} {out : List A} {frame : F} :
    P.next port = .frame frame port' → Acts P (.read got next) port out (next frame) port' out
  | readFailed {got : F → Option M} {next : F → Proc F M α} {port : σ} {out : List A}
      {text : String} :
    P.next port = .failed text → Acts P (.read got next) port out (.throw text) port out

end Proc

/-- The programs with their ports, and the symbols under way. -/
structure Wire (F M A σ τ α β : Type) where
  left : Proc F M α
  leftPort : σ
  right : Proc F M β
  rightPort : τ
  toRight : List A
  toLeft : List A

namespace Wire
variable {F M A σ τ α β : Type}

/-- Nothing is under way. -/
def start (left : Proc F M α) (leftPort : σ) (right : Proc F M β) (rightPort : τ) :
    Wire F M A σ τ α β := ⟨left, leftPort, right, rightPort, [], []⟩

/-- A side writes, a piece arrives, or a side goes on reading. -/
inductive Step (L : Port F A σ) (R : Port F A τ) :
    Wire F M A σ τ α β → Wire F M A σ τ α β → Prop where
  | left {p q : Proc F M α} {s s' : σ} {r : Proc F M β} {t : τ} {out out' back : List A} :
    p.Acts L s out q s' out' → Step L R ⟨p, s, r, t, out, back⟩ ⟨q, s', r, t, out', back⟩
  | right {p : Proc F M α} {s : σ} {q r : Proc F M β} {t t' : τ} {out back back' : List A} :
    q.Acts R t back r t' back' → Step L R ⟨p, s, q, t, out, back⟩ ⟨p, s, r, t', out, back'⟩
  | toRight {p : Proc F M α} {s : σ} {r : Proc F M β} {t : τ} {piece out back : List A} :
    Step L R ⟨p, s, r, t, piece ++ out, back⟩ ⟨p, s, r, R.deliver t piece, out, back⟩
  | toLeft {p : Proc F M α} {s : σ} {r : Proc F M β} {t : τ} {piece out back : List A} :
    Step L R ⟨p, s, r, t, out, piece ++ back⟩ ⟨p, L.deliver s piece, r, t, out, back⟩

/-- The steps of a run, in any order. -/
abbrev Runs (L : Port F A σ) (R : Port F A τ) :
    Wire F M A σ τ α β → Wire F M A σ τ α β → Prop := ReflTransGen (Step L R)

/-- Both programs have ended with a result and nothing is under way. -/
def Finished (w : Wire F M A σ τ α β) (a : α) (b : β) : Prop :=
  w.left = .done a ∧ w.right = .done b ∧ w.toRight = [] ∧ w.toLeft = []

/-! ## An ended program -/

section
variable {L : Port F A σ} {R : Port F A τ} {w w' : Wire F M A σ τ α β}

/-- Nothing comes behind a result or an error. -/
theorem Runs.ended (h : Runs L R w w') :
    ((∀ a, w.left = .done a → w'.left = .done a) ∧
      ∀ text, w.left = .throw text → w'.left = .throw text) ∧
    (∀ b, w.right = .done b → w'.right = .done b) ∧
      ∀ text, w.right = .throw text → w'.right = .throw text := by
  induction h with
  | refl => exact ⟨⟨fun _ h => h, fun _ h => h⟩, fun _ h => h, fun _ h => h⟩
  | tail _ hstep ih =>
    obtain ⟨⟨hdone, hthrow⟩, hright⟩ := ih
    cases hstep with
    | left hact =>
      refine ⟨⟨fun a h => ?_, fun text h => ?_⟩, hright⟩
      · have hend := hdone a h
        cases hact <;> cases hend
      · have hend := hthrow text h
        cases hact <;> cases hend
    | right hact =>
      refine ⟨⟨hdone, hthrow⟩, fun b h => ?_, fun text h => ?_⟩
      · have hend := hright.1 b h
        cases hact <;> cases hend
      · have hend := hright.2 text h
        cases hact <;> cases hend
    | toRight => exact ⟨⟨hdone, hthrow⟩, hright⟩
    | toLeft => exact ⟨⟨hdone, hthrow⟩, hright⟩

/-- A run that can still finish has not failed, and gives no other result. -/
structure OnCourse (w : Wire F M A σ τ α β) (a : α) (b : β) : Prop where
  left_not_throw : ∀ text, w.left ≠ .throw text
  right_not_throw : ∀ text, w.right ≠ .throw text
  left_result : ∀ a', w.left = .done a' → a' = a
  right_result : ∀ b', w.right = .done b' → b' = b

theorem Finished.onCourse {a : α} {b : β} (hend : w'.Finished a b) (h : Runs L R w w') :
    w.OnCourse a b := by
  obtain ⟨⟨hdone, hthrow⟩, hdone', hthrow'⟩ := h.ended
  obtain ⟨ha, hb, -, -⟩ := hend
  refine ⟨fun text h => ?_, fun text h => ?_, fun a' h => ?_, fun b' h => ?_⟩
  · cases ha.symm.trans (hthrow text h)
  · cases hb.symm.trans (hthrow' text h)
  · exact Proc.done.inj ((hdone a' h).symm.trans ha)
  · exact Proc.done.inj ((hdone' b' h).symm.trans hb)

end

/-! ## The net behind a wire -/

section
variable {L : Port F A σ} {R : Port F A τ} {code : F → List A} {Fits : F → Prop}
  {UnreadL : σ → List F → List A → Prop} {UnreadR : τ → List F → List A → Prop}
  {rankL : σ → ℕ} {rankR : τ → ℕ}

/-- Every frame that the program writes fits. -/
abbrev WritesFit (Fits : F → Prop) (p : Proc F M α) : Prop :=
  ∃ history, p.Ensures (fun _ frame => Fits frame) (fun _ _ => True) history

/-- The frames under way in the net are in the ports and the symbols of the wire. -/
structure Shows (Fits : F → Prop) (UnreadL : σ → List F → List A → Prop)
    (UnreadR : τ → List F → List A → Prop) (w : Wire F M A σ τ α β) (s : Net F M α β) : Prop where
  left : w.left = s.left
  right : w.right = s.right
  leftFits : WritesFit Fits s.left
  rightFits : WritesFit Fits s.right
  toRight : UnreadR w.rightPort s.toRight.inFlight w.toRight
  toLeft : UnreadL w.leftPort s.toLeft.inFlight w.toLeft

theorem shows_start {l : Proc F M α} {r : Proc F M β} {s : σ} {t : τ} (hl : WritesFit Fits l)
    (hr : WritesFit Fits r) (hs : UnreadL s [] []) (ht : UnreadR t [] []) :
    Shows Fits UnreadL UnreadR (start l s r t) (.init l r) := ⟨rfl, rfl, hl, hr, ht, hs⟩

/-- One end: a step at the port is none of the program, or one between the
    channels. -/
theorem acts_shows {p q : Proc F M α} {s s' : σ} {t : τ} {out out' back : List A}
    {i o : Channel F M} (hL : L.Sound code Fits UnreadL rankL)
    (hR : R.Sound code Fits UnreadR rankR) (hfits : WritesFit Fits p)
    (hin : UnreadL s i.inFlight back) (hout : UnreadR t o.inFlight out)
    (h : p.Acts L s out q s' out') :
    ∃ i' o', ((q = p ∧ i' = i ∧ o' = o) ∨ p.Moves i o q i' o') ∧ WritesFit Fits q ∧
      UnreadL s' i'.inFlight back ∧ UnreadR t o'.inFlight out' := by
  obtain ⟨history, hfits⟩ := hfits
  cases h with
  | write hwrite =>
    obtain ⟨port', hport, hin'⟩ := hL.write hin hfits.1
    obtain ⟨rfl, rfl⟩ := Prod.mk.inj (Except.ok.inj (hwrite.symm.trans hport))
    exact ⟨i, _, .inr .write, ⟨_, hfits.2⟩, hin', hR.push hout hfits.1⟩
  | writeFailed hwrite =>
    obtain ⟨port', hport, -⟩ := hL.write hin hfits.1
    cases hwrite.symm.trans hport
  | busy hnext => exact ⟨i, o, .inl ⟨rfl, rfl, rfl⟩, ⟨_, hfits⟩, (hL.busy hin hnext).1, hout⟩
  | frame hnext =>
    obtain ⟨inFlight, written, got⟩ := i
    obtain ⟨rest, rfl, hin'⟩ := hL.frame hin hnext
    exact ⟨_, o, .inr .read, ⟨_, hfits _⟩, hin', hout⟩
  | readFailed hnext => exact absurd hnext (hL.failed hin)

/-- **A step of the wire is none of the net, or one.** -/
theorem Step.shows {w w' : Wire F M A σ τ α β} {s : Net F M α β}
    (hL : L.Sound code Fits UnreadL rankL) (hR : R.Sound code Fits UnreadR rankR)
    (hshows : Shows Fits UnreadL UnreadR w s) (h : Step L R w w') :
    ∃ s', (s' = s ∨ Net.Step s s') ∧ Shows Fits UnreadL UnreadR w' s' := by
  obtain ⟨l, r, toRight, toLeft⟩ := s
  obtain ⟨hl, hr, hlfits, hrfits, hright, hleft⟩ := hshows
  cases h with
  | left hact =>
    obtain rfl := hl
    obtain ⟨i', o', hmoves, hfits, hin, hout⟩ := acts_shows hL hR hlfits hleft hright hact
    rcases hmoves with ⟨rfl, rfl, rfl⟩ | hmoves
    · exact ⟨_, .inl rfl, rfl, hr, hfits, hrfits, hout, hin⟩
    · exact ⟨_, .inr (.left hmoves), rfl, hr, hfits, hrfits, hout, hin⟩
  | right hact =>
    obtain rfl := hr
    obtain ⟨i', o', hmoves, hfits, hin, hout⟩ := acts_shows hR hL hrfits hright hleft hact
    rcases hmoves with ⟨rfl, rfl, rfl⟩ | hmoves
    · exact ⟨_, .inl rfl, hl, rfl, hlfits, hfits, hin, hout⟩
    · exact ⟨_, .inr (.right hmoves), hl, rfl, hlfits, hfits, hin, hout⟩
  | toRight => exact ⟨_, .inl rfl, hl, hr, hlfits, hrfits, hR.deliver hright, hleft⟩
  | toLeft => exact ⟨_, .inl rfl, hl, hr, hlfits, hrfits, hright, hL.deliver hleft⟩

/-- **A run of the wire shows a run of the net.** -/
theorem Runs.shows {w w' : Wire F M A σ τ α β} {s : Net F M α β}
    (hL : L.Sound code Fits UnreadL rankL) (hR : R.Sound code Fits UnreadR rankR)
    (hshows : Shows Fits UnreadL UnreadR w s) (h : Runs L R w w') :
    ∃ s', Net.Runs s s' ∧ Shows Fits UnreadL UnreadR w' s' := by
  induction h with
  | refl => exact ⟨s, .refl, hshows⟩
  | tail _ hstep ih =>
    obtain ⟨s₁, hrun, hshows₁⟩ := ih
    obtain ⟨s', hs', hshows'⟩ := Step.shows hL hR hshows₁ hstep
    rcases hs' with rfl | hs'
    · exact ⟨_, hrun, hshows'⟩
    · exact ⟨s', hrun.tail hs', hshows'⟩

/-! ## The wire behind a net -/

/-- A port that has all symbols takes a frame out of them, and no step of it goes
    on forever. -/
theorem takes_frame {s : σ} {frame : F} {frames : List F} (hL : L.Sound code Fits UnreadL rankL)
    (h : UnreadL s (frame :: frames) []) :
    ∃ s₁ s', ReflTransGen (fun s s' => L.next s = .busy s') s s₁ ∧ L.next s₁ = .frame frame s' ∧
      UnreadL s' frames [] := by
  induction hrank : rankL s using Nat.strong_induction_on generalizing s with
  | _ rank ih =>
    cases hnext : L.next s with
    | wait => cases hL.wait h hnext
    | busy s₁ =>
      obtain ⟨h₁, hlt⟩ := hL.busy h hnext
      obtain ⟨s₂, s', hrun, hframe, h'⟩ := ih _ (hrank ▸ hlt) h₁ rfl
      exact ⟨s₂, s', .head hnext hrun, hframe, h'⟩
    | frame frame' s' =>
      obtain ⟨rest, hcons, h'⟩ := hL.frame h hnext
      obtain ⟨rfl, rfl⟩ := List.cons.inj hcons
      exact ⟨s, s', .refl, hnext, h'⟩
    | failed text => exact absurd hnext (hL.failed h)

theorem busy_left {s s' : σ} {got : F → Option M} {next : F → Proc F M α} {r : Proc F M β} {t : τ}
    {out back : List A} (h : ReflTransGen (fun s s' => L.next s = .busy s') s s') :
    Runs L R ⟨.read got next, s, r, t, out, back⟩ ⟨.read got next, s', r, t, out, back⟩ := by
  induction h with
  | refl => exact .refl
  | tail _ hstep ih => exact ih.tail (.left (.busy hstep))

theorem busy_right {p : Proc F M α} {s : σ} {got : F → Option M} {next : F → Proc F M β} {t t' : τ}
    {out back : List A} (h : ReflTransGen (fun t t' => R.next t = .busy t') t t') :
    Runs L R ⟨p, s, .read got next, t, out, back⟩ ⟨p, s, .read got next, t', out, back⟩ := by
  induction h with
  | refl => exact .refl
  | tail _ hstep ih => exact ih.tail (.right (.busy hstep))

/-- **A step of the net can be realised**: for a frame that is read, all symbols
    are delivered first. -/
theorem Shows.step {w : Wire F M A σ τ α β} {s s' : Net F M α β}
    (hL : L.Sound code Fits UnreadL rankL) (hR : R.Sound code Fits UnreadR rankR)
    (hshows : Shows Fits UnreadL UnreadR w s) (h : Net.Step s s') :
    ∃ w', Runs L R w w' ∧ Shows Fits UnreadL UnreadR w' s' := by
  obtain ⟨p, s₀, r, t₀, out, back⟩ := w
  obtain ⟨hl, hr, ⟨history, hlfits⟩, ⟨history', hrfits⟩, hright, hleft⟩ := hshows
  cases h with
  | left hmoves =>
    obtain rfl := hl
    cases hmoves with
    | write =>
      obtain ⟨s₁, hwrite, hleft'⟩ := hL.write hleft hlfits.1
      exact ⟨_, .single (.left (.write hwrite)), rfl, hr, ⟨_, hlfits.2⟩, ⟨_, hrfits⟩,
        hR.push hright hlfits.1, hleft'⟩
    | @read got next frame frames =>
      have hall : UnreadL (L.deliver s₀ back) _ [] := hL.deliver (by rwa [List.append_nil])
      obtain ⟨s₁, s', hbusy, hframe, hleft'⟩ := takes_frame hL hall
      have hdeliver : Step L R ⟨.read got next, s₀, r, t₀, out, back ++ []⟩
          ⟨.read got next, L.deliver s₀ back, r, t₀, out, []⟩ := .toLeft
      rw [List.append_nil] at hdeliver
      exact ⟨⟨next frame, s', r, t₀, out, []⟩,
        .head hdeliver ((busy_left hbusy).tail (.left (.frame hframe))), rfl, hr, ⟨_, hlfits _⟩,
        ⟨_, hrfits⟩, hright, hleft'⟩
  | right hmoves =>
    obtain rfl := hr
    cases hmoves with
    | write =>
      obtain ⟨t₁, hwrite, hright'⟩ := hR.write hright hrfits.1
      exact ⟨_, .single (.right (.write hwrite)), hl, rfl, ⟨_, hlfits⟩, ⟨_, hrfits.2⟩,
        hright', hL.push hleft hrfits.1⟩
    | @read got next frame frames =>
      have hall : UnreadR (R.deliver t₀ out) _ [] := hR.deliver (by rwa [List.append_nil])
      obtain ⟨t₁, t', hbusy, hframe, hright'⟩ := takes_frame hR hall
      have hdeliver : Step L R ⟨p, s₀, .read got next, t₀, out ++ [], back⟩
          ⟨p, s₀, .read got next, R.deliver t₀ out, [], back⟩ := .toRight
      rw [List.append_nil] at hdeliver
      exact ⟨⟨p, s₀, next frame, t', [], back⟩,
        .head hdeliver ((busy_right hbusy).tail (.right (.frame hframe))), hl, rfl, ⟨_, hlfits⟩,
        ⟨_, hrfits _⟩, hright', hleft⟩

theorem Shows.realise {w : Wire F M A σ τ α β} {s s' : Net F M α β}
    (hL : L.Sound code Fits UnreadL rankL) (hR : R.Sound code Fits UnreadR rankR)
    (hshows : Shows Fits UnreadL UnreadR w s) (h : Net.Runs s s') :
    ∃ w', Runs L R w w' ∧ Shows Fits UnreadL UnreadR w' s' := by
  induction h with
  | refl => exact ⟨w, .refl, hshows⟩
  | tail _ hstep ih =>
    obtain ⟨w₁, hrun, hshows₁⟩ := ih
    obtain ⟨w', hrun', hshows'⟩ := hshows₁.step hL hR hstep
    exact ⟨w', hrun.trans hrun', hshows'⟩

/-! ## A session that can finish -/

theorem Shows.finished {w : Wire F M A σ τ α β} {s : Net F M α β} {a : α} {b : β}
    (hL : L.Sound code Fits UnreadL rankL) (hR : R.Sound code Fits UnreadR rankR)
    (hshows : Shows Fits UnreadL UnreadR w s) (hend : s.Finished a b) : w.Finished a b := by
  obtain ⟨ha, hb, hright, hleft⟩ := hend
  exact ⟨hshows.left.trans ha, hshows.right.trans hb, hR.finished (hright ▸ hshows.toRight),
    hL.finished (hleft ▸ hshows.toLeft)⟩

/-- **A session that can finish on the net always does on the wire,** in whatever
    pieces and whenever the symbols arrive. -/
theorem completes {l : Proc F M α} {r : Proc F M β} {s : σ} {t : τ} {e : Net F M α β} {a : α} {b : β}
    {w : Wire F M A σ τ α β} (hL : L.Sound code Fits UnreadL rankL)
    (hR : R.Sound code Fits UnreadR rankR) (hl : WritesFit Fits l) (hr : WritesFit Fits r)
    (hs : UnreadL s [] []) (ht : UnreadR t [] []) (hrun : Net.Runs (.init l r) e)
    (hend : e.Finished a b) (hw : Runs L R (start l s r t) w) :
    (∃ w', Runs L R w w' ∧ w'.Finished a b) ∧ w.OnCourse a b := by
  obtain ⟨s₁, hs₁, hshows₁⟩ := Runs.shows hL hR (shows_start hl hr hs ht) hw
  obtain ⟨w', hw', hshows'⟩ := hshows₁.realise hL hR (Net.runs_to_end hrun hend.stuck hs₁)
  have hfinished := hshows'.finished hL hR hend
  exact ⟨⟨w', hw', hfinished⟩, hfinished.onCourse hw'⟩

end
end Wire
end CotMta
