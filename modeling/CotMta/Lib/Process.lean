/-
  Two sequential programs that exchange frames over a pair of FIFO channels.

  A `Proc` writes frames and waits for frames; next to the frame it says which
  message it encoded (`sent`) or decoded (`got`).  In a `Net` two programs take
  steps in any order, a frame being delivered whenever its reader takes it.

  Steps of the two sides commute, so the order does not matter: once some run
  ends in a state without steps, every run can still be continued to that state
  (`Net.runs_to_end`), and what holds of its history holds of every prefix.
-/
import Mathlib.Logic.Relation
import Mathlib.Data.List.Infix

namespace CotMta

open Relation

/-- A program on frames of type `F` with messages of type `M`. -/
inductive Proc (F M α : Type) where
  | done (result : α)
  | throw (message : String)
  | write (sent : M) (frame : F) (next : Proc F M α)
  | read (got : F → Option M) (next : F → Proc F M α)

namespace Proc
variable {F M α β : Type}

/-- The process goes on with what the first one returns. -/
def bind : Proc F M α → (α → Proc F M β) → Proc F M β
  | .done result, k => k result
  | .throw message, _ => .throw message
  | .write sent frame next, k => .write sent frame (next.bind k)
  | .read got next, k => .read got fun frame => (next frame).bind k

instance : Monad (Proc F M) where
  pure := .done
  bind := Proc.bind

/-- Waits for a frame and decodes it. -/
def receive (decode : F → Except String α) (message : α → M) : Proc F M α :=
  .read (fun frame => (decode frame).toOption.map message) fun frame =>
    match decode frame with
    | .ok value => .done value
    | .error text => .throw text

/-- A frame is written. -/
def send (message : M) (frame : F) : Proc F M Unit := .write message frame (.done ())

section
variable {k : α → Proc F M β} {value : α}

@[simp] theorem done_bind : (Proc.done value : Proc F M α) >>= k = k value := rfl

@[simp] theorem throw_bind {text : String} : (Proc.throw text : Proc F M α) >>= k = .throw text := rfl

theorem bind_assoc {γ : Type} {l : β → Proc F M γ} : ∀ {p : Proc F M α},
    p >>= k >>= l = p >>= fun value => k value >>= l
  | .done _ => rfl
  | .throw _ => rfl
  | .write sent frame _ => congrArg (Proc.write sent frame) bind_assoc
  | .read got _ => congrArg (Proc.read got) (funext fun _ => bind_assoc)

end

end Proc

/-! ## Channels -/

/-- A channel: the frames that are under way, and its history. -/
structure Channel (F M : Type) where
  inFlight : List F
  /-- the messages that were encoded, with their frames -/
  written : List (M × F)
  /-- what the frames that arrived were decoded as -/
  got : List (Option M)

namespace Channel
variable {F M : Type}

/-- Nothing has been written. -/
def empty : Channel F M := ⟨[], [], []⟩

/-- A frame is put behind those under way. -/
def push (c : Channel F M) (sent : M) (frame : F) : Channel F M :=
  ⟨c.inFlight ++ [frame], c.written ++ [(sent, frame)], c.got⟩

/-- Every frame is under way or has arrived. -/
def Consistent (c : Channel F M) : Prop := c.got.length + c.inFlight.length = c.written.length

/-- The messages have been sent, have arrived and were decoded as sent. -/
def pass (c : Channel F M) (messages : List (M × F)) : Channel F M :=
  ⟨c.inFlight, c.written ++ messages, c.got ++ messages.map fun w => some w.1⟩

@[simp] theorem pass_inFlight {c : Channel F M} {messages : List (M × F)} :
    (c.pass messages).inFlight = c.inFlight := rfl

theorem pass_nil {c : Channel F M} : c.pass [] = c := by simp [pass]

theorem pass_pass {c : Channel F M} {l m : List (M × F)} : (c.pass l).pass m = c.pass (l ++ m) := by
  simp [pass]

/-- The history grows. -/
def LE (c d : Channel F M) : Prop := c.written <+: d.written ∧ c.got <+: d.got

/-- What was decoded is what was sent, as far as it has arrived. -/
def Faithful (c : Channel F M) : Prop := c.got <+: c.written.map fun w => some w.1

theorem faithful_pass {messages : List (M × F)} :
    (pass (empty : Channel F M) messages).Faithful := List.prefix_rfl

theorem LE.refl (c : Channel F M) : c.LE c := ⟨List.prefix_rfl, List.prefix_rfl⟩

theorem LE.trans {c d e : Channel F M} (h : c.LE d) (h' : d.LE e) : c.LE e :=
  ⟨h.1.trans h'.1, h.2.trans h'.2⟩

/-- A shorter history of a faithful channel is faithful. -/
theorem Faithful.of_LE {c d : Channel F M} (hd : d.Faithful) (h : c.LE d) (hc : c.Consistent) :
    c.Faithful := by
  refine List.prefix_of_prefix_length_le (h.2.trans hd) (h.1.map _) ?_
  rw [List.length_map, ← hc]
  exact Nat.le_add_right _ _

end Channel

namespace Proc
variable {F M α : Type} {p q : Proc F M α} {i o i' o' : Channel F M}

/-- One step of a program between its incoming and its outgoing channel. -/
inductive Moves : Proc F M α → Channel F M → Channel F M →
    Proc F M α → Channel F M → Channel F M → Prop where
  | write {sent : M} {frame : F} {next : Proc F M α} {i o : Channel F M} :
    Moves (.write sent frame next) i o next i (o.push sent frame)
  | read {got : F → Option M} {next : F → Proc F M α} {frame : F} {frames : List F}
      {written : List (M × F)} {arrived : List (Option M)} {o : Channel F M} :
    Moves (.read got next) ⟨frame :: frames, written, arrived⟩ o
      (next frame) ⟨frames, written, arrived ++ [got frame]⟩ o

theorem Moves.deterministic {q₁ q₂ : Proc F M α} {i₁ i₂ o₁ o₂ : Channel F M}
    (h₁ : Moves p i o q₁ i₁ o₁) (h₂ : Moves p i o q₂ i₂ o₂) : q₁ = q₂ ∧ i₁ = i₂ ∧ o₁ = o₂ := by
  cases h₁ <;> cases h₂ <;> exact ⟨rfl, rfl, rfl⟩

theorem Moves.le (h : Moves p i o q i' o') : i.LE i' ∧ o.LE o' := by
  cases h with
  | write => exact ⟨.refl _, List.prefix_append _ _, List.prefix_rfl⟩
  | read => exact ⟨⟨List.prefix_rfl, List.prefix_append _ _⟩, .refl _⟩

theorem Moves.consistent (h : Moves p i o q i' o') (hi : i.Consistent) (ho : o.Consistent) :
    i'.Consistent ∧ o'.Consistent := by
  cases h with
  | write =>
    refine ⟨hi, ?_⟩
    simp only [Channel.Consistent, Channel.push, List.length_append, List.length_singleton] at ho ⊢
    omega
  | read =>
    refine ⟨?_, ho⟩
    simp only [Channel.Consistent, List.length_append, List.length_cons, List.length_nil] at hi ⊢
    omega

end Proc

/-! ## Two programs -/

/-- The programs and the channels between them. -/
structure Net (F M α β : Type) where
  left : Proc F M α
  right : Proc F M β
  toRight : Channel F M
  toLeft : Channel F M

namespace Net
variable {F M α β : Type} {s t u : Net F M α β}

/-- Two processes before the first step. -/
def init (left : Proc F M α) (right : Proc F M β) : Net F M α β := ⟨left, right, .empty, .empty⟩

/-- One side writes or reads. -/
inductive Step : Net F M α β → Net F M α β → Prop where
  | left {p q : Proc F M α} {r : Proc F M β} {i o i' o' : Channel F M} :
    p.Moves i o q i' o' → Step ⟨p, r, o, i⟩ ⟨q, r, o', i'⟩
  | right {p : Proc F M α} {q r : Proc F M β} {i o i' o' : Channel F M} :
    q.Moves i o r i' o' → Step ⟨p, q, i, o⟩ ⟨p, r, i', o'⟩

/-- The steps of a run, in any order. -/
abbrev Runs : Net F M α β → Net F M α β → Prop := ReflTransGen Step

/-- No side can go on. -/
def Stuck (s : Net F M α β) : Prop := ∀ t, ¬Step s t

/-- A step of one side leaves a step of the other possible: a frame that is
    written goes behind those under way, a frame that is read is the first. -/
theorem Moves.commute {p q : Proc F M α} {r r' : Proc F M β} {i o i₁ o₁ i₂ o₂ : Channel F M}
    (h₁ : p.Moves i o q i₁ o₁) (h₂ : r.Moves o i r' o₂ i₂) :
    ∃ i₃ o₃, p.Moves i₂ o₂ q i₃ o₃ ∧ r.Moves o₁ i₁ r' o₃ i₃ := by
  cases h₁ with
  | write =>
    cases h₂ with
    | write => exact ⟨_, _, .write, .write⟩
    | read => exact ⟨_, _, .write, .read⟩
  | read =>
    cases h₂ with
    | write => exact ⟨_, _, .read, .write⟩
    | read => exact ⟨_, _, .read, .read⟩

theorem Step.diamond (h : Step s t) (h' : Step s u) : t = u ∨ ∃ v, Step t v ∧ Step u v := by
  cases h with
  | left h =>
    cases h' with
    | left h' =>
      obtain ⟨rfl, rfl, rfl⟩ := h.deterministic h'
      exact Or.inl rfl
    | right h' =>
      obtain ⟨i, o, h₁, h₂⟩ := Moves.commute h h'
      exact Or.inr ⟨_, .right h₂, .left h₁⟩
  | right h =>
    cases h' with
    | left h' =>
      obtain ⟨i, o, h₁, h₂⟩ := Moves.commute h' h
      exact Or.inr ⟨_, .left h₁, .right h₂⟩
    | right h' =>
      obtain ⟨rfl, rfl, rfl⟩ := h.deterministic h'
      exact Or.inl rfl

/-- **The order of the steps does not matter.** -/
theorem runs_to_end (ht : Runs s t) (hend : t.Stuck) (hu : Runs s u) : Runs u t := by
  have hjoin := church_rosser (r := Step) (fun a b c hb hc => by
    rcases Step.diamond hb hc with rfl | ⟨d, hbd, hcd⟩
    · exact ⟨b, .refl, .refl⟩
    · exact ⟨d, .single hbd, .single hcd⟩) ht hu
  obtain ⟨d, htd, hud⟩ := hjoin
  rcases ReflTransGen.cases_head htd with rfl | ⟨v, hv, -⟩
  · exact hud
  · exact absurd hv (hend v)

theorem Runs.le (h : Runs s t) : s.toRight.LE t.toRight ∧ s.toLeft.LE t.toLeft := by
  induction h with
  | refl => exact ⟨.refl _, .refl _⟩
  | tail _ hstep ih =>
    cases hstep with
    | left h => exact ⟨ih.1.trans h.le.2, ih.2.trans h.le.1⟩
    | right h => exact ⟨ih.1.trans h.le.1, ih.2.trans h.le.2⟩

theorem Runs.consistent {l : Proc F M α} {r : Proc F M β} (h : Runs (init l r) s) :
    s.toRight.Consistent ∧ s.toLeft.Consistent := by
  induction h with
  | refl => exact ⟨rfl, rfl⟩
  | tail _ hstep ih =>
    cases hstep with
    | left h => exact (h.consistent ih.2 ih.1).symm
    | right h => exact h.consistent ih.1 ih.2

/-- Both programs have ended with a result and nothing is under way. -/
def Finished (s : Net F M α β) (a : α) (b : β) : Prop :=
  s.left = .done a ∧ s.right = .done b ∧ s.toRight.inFlight = [] ∧ s.toLeft.inFlight = []

theorem Finished.stuck {a : α} {b : β} (h : s.Finished a b) : s.Stuck := by
  obtain ⟨hl, hr, -, -⟩ := h
  intro t hstep
  cases hstep with
  | left hm =>
    obtain rfl := hl
    cases hm
  | right hm =>
    obtain rfl := hr
    cases hm

/-- Both programs wait for a frame and none is under way. -/
def Deadlocked (s : Net F M α β) : Prop :=
  (∃ got next, s.left = .read got next) ∧ (∃ got next, s.right = .read got next) ∧
    s.toRight.inFlight = [] ∧ s.toLeft.inFlight = []

theorem Deadlocked.stuck (h : s.Deadlocked) : s.Stuck := by
  obtain ⟨⟨gotl, nextl, hl⟩, ⟨gotr, nextr, hr⟩, hright, hleft⟩ := h
  intro t hstep
  cases hstep with
  | left hm =>
    cases hm with
    | write => cases hl
    | read => cases hleft
  | right hm =>
    cases hm with
    | write => cases hr
    | read => cases hright

/-- A thrown error stays. -/
theorem Runs.throw (h : Runs s t) :
    (∀ text, s.left = .throw text → t.left = .throw text) ∧
      ∀ text, s.right = .throw text → t.right = .throw text := by
  induction h with
  | refl => exact ⟨fun _ h => h, fun _ h => h⟩
  | tail _ hstep ih =>
    cases hstep with
    | left hm =>
      refine ⟨fun text h => ?_, ih.2⟩
      have hthrow := ih.1 text h
      cases hm <;> cases hthrow
    | right hm =>
      refine ⟨ih.1, fun text h => ?_⟩
      have hthrow := ih.2 text h
      cases hm <;> cases hthrow

/-- The right program has thrown an error while the left one waits for a frame,
    and none is under way. -/
def Aborted (s : Net F M α β) (text : String) : Prop :=
  (∃ got next, s.left = .read got next) ∧ s.right = .throw text ∧
    s.toRight.inFlight = [] ∧ s.toLeft.inFlight = []

theorem Aborted.stuck {text : String} (h : s.Aborted text) : s.Stuck := by
  obtain ⟨⟨got, next, hl⟩, hr, -, hleft⟩ := h
  intro t hstep
  cases hstep with
  | left hm =>
    cases hm with
    | write => cases hl
    | read => cases hleft
  | right hm =>
    obtain rfl := hr
    cases hm

/-- What holds in every state on the way to an end `t`. -/
structure Towards (s t : Net F M α β) : Prop where
  /-- a step is possible before the end -/
  progress : (∃ u, Step s u) ∨ s = t
  /-- what one side decodes is what the other encoded -/
  toRight_faithful : s.toRight.Faithful
  toLeft_faithful : s.toLeft.Faithful
  /-- no error is thrown but the ones of the end -/
  left_throw : ∀ text, s.left = .throw text → t.left = .throw text
  right_throw : ∀ text, s.right = .throw text → t.right = .throw text

/-- **A session that can end faithfully always does,** whatever the order of the steps. -/
theorem towards_end {l : Proc F M α} {r : Proc F M β} (ht : Runs (init l r) t) (hend : t.Stuck)
    (hright : t.toRight.Faithful) (hleft : t.toLeft.Faithful) (hs : Runs (init l r) s) :
    s.Towards t := by
  have hrun := runs_to_end ht hend hs
  obtain ⟨hle, hle'⟩ := Runs.le hrun
  obtain ⟨hcons, hcons'⟩ := Runs.consistent hs
  obtain ⟨hthrow, hthrow'⟩ := Runs.throw hrun
  refine ⟨?_, hright.of_LE hle hcons, hleft.of_LE hle' hcons', hthrow, hthrow'⟩
  rcases ReflTransGen.cases_head hrun with h | ⟨u, hu, -⟩
  · exact Or.inr h
  · exact Or.inl ⟨u, hu⟩

/-- Where the end is no deadlock, nothing before it is. -/
theorem Towards.not_deadlocked (h : s.Towards t) (hend : ¬t.Deadlocked) : ¬s.Deadlocked := by
  intro hdead
  rcases h.progress with ⟨u, hu⟩ | rfl
  · exact hdead.stuck u hu
  · exact hend hdead

/-- Both programs have returned only at the end. -/
theorem Towards.eq_of_done (h : s.Towards t) {a : α} {b : β} (ha : s.left = .done a)
    (hb : s.right = .done b) : s = t := by
  rcases h.progress with ⟨u, hu⟩ | rfl
  · cases hu with
    | left hm =>
      obtain rfl := ha
      cases hm
    | right hm =>
      obtain rfl := hb
      cases hm
  · rfl

/-! ## Exchanges -/

section
variable {γ : Type} {m : M} {f : F} {decode : F → Except String γ} {message : γ → M} {value : γ}
  {toRight toLeft : Channel F M}

/-- The left side sends, the right side is waiting. -/
theorem send_right {k : Unit → Proc F M α} {l : γ → Proc F M β} (hempty : toRight.inFlight = [])
    (hdecode : decode f = .ok value) (hmessage : message value = m) :
    Runs ⟨Proc.send m f >>= k, Proc.receive decode message >>= l, toRight, toLeft⟩
      ⟨k (), l value, toRight.pass [(m, f)], toLeft⟩ := by
  obtain ⟨inFlight, written, got⟩ := toRight
  obtain rfl : inFlight = [] := hempty
  refine .head (.left .write) (.head (.right .read) ?_)
  simp only [hdecode, Except.toOption, Option.map_some, hmessage]
  exact .refl

/-- The right side sends, the left side is waiting. -/
theorem send_left {k : Unit → Proc F M β} {l : γ → Proc F M α} (hempty : toLeft.inFlight = [])
    (hdecode : decode f = .ok value) (hmessage : message value = m) :
    Runs ⟨Proc.receive decode message >>= l, Proc.send m f >>= k, toRight, toLeft⟩
      ⟨l value, k (), toRight, toLeft.pass [(m, f)]⟩ := by
  obtain ⟨inFlight, written, got⟩ := toLeft
  obtain rfl : inFlight = [] := hempty
  refine .head (.right .write) (.head (.left .read) ?_)
  simp only [hdecode, Except.toOption, Option.map_some, hmessage]
  exact .refl

end

end Net
end CotMta
