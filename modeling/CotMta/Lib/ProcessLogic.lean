/-
  What a program on frames does alone, whatever it is sent.

  A run on a list of incoming frames gives a list of events (`feed`).
  `p.Ensures W Q h` says of a program with the history `h` that each frame it
  writes satisfies `W` together with the history at that moment, and that its
  result satisfies `Q` together with the history at the end.  There is one rule
  for each way to build a program; `Ensures.wrote` carries the assertion over to
  the events of a run.
-/
import CotMta.Lib.Process

namespace CotMta.Proc

variable {F M α β : Type}

/-- What a program does with a frame. -/
inductive Event (F : Type) where
  | read (frame : F)
  | wrote (frame : F)
deriving DecidableEq

/-- The frame that is read or written, if it is. -/
def Event.read? : Event F → Option F
  | .read frame => some frame
  | .wrote _ => none

/-- The frame, if the event wrote one. -/
def Event.wrote? : Event F → Option F
  | .read _ => none
  | .wrote frame => some frame

/-- The last frame that was written. -/
theorem Event.last_wrote (events : List (Event F)) : events.filterMap wrote? = [] ∨
    ∃ before frame after, events = before ++ .wrote frame :: after ∧
      events.filterMap wrote? = before.filterMap wrote? ++ [frame] := by
  induction events with
  | nil => exact Or.inl rfl
  | cons event events ih =>
    rcases ih with hnone | ⟨before, frame, after, rfl, hlast⟩
    · cases event with
      | read frame => exact Or.inl hnone
      | wrote frame =>
        exact Or.inr ⟨[], frame, events, rfl, congrArg (frame :: ·) hnone⟩
    · refine Or.inr ⟨event :: before, frame, after, rfl, ?_⟩
      rw [← List.singleton_append, List.filterMap_append, hlast, ← List.append_assoc,
        ← List.filterMap_append]
      rfl

/-- The events of a run.  It stops at the end of the program, at an error or when
    a frame is missing. -/
def feed : Proc F M α → List F → List (Event F)
  | .done _, _ | .throw _, _ | .read _ _, [] => []
  | .write _ frame next, frames => .wrote frame :: next.feed frames
  | .read _ next, frame :: frames => .read frame :: (next frame).feed frames

theorem feed_send {k : Unit → Proc F M β} {sent : M} {frame : F} {frames : List F} :
    (send sent frame >>= k).feed frames = .wrote frame :: (k ()).feed frames := rfl

section
variable {decode : F → Except String α} {message : α → M} {k : α → Proc F M β} {frame : F}
  {frames : List F}

theorem feed_receive_nil : (receive decode message >>= k).feed [] = [] := rfl

theorem feed_receive_ok {value : α} (h : decode frame = .ok value) :
    (receive decode message >>= k).feed (frame :: frames) =
      .read frame :: (k value).feed frames := by
  change Event.read frame :: (Proc.bind _ k).feed frames = _
  simp only [h]
  rfl

theorem feed_receive_error {text : String} (h : decode frame = .error text) :
    (receive decode message >>= k).feed (frame :: frames) = [.read frame] := by
  change Event.read frame :: (Proc.bind _ k).feed frames = _
  simp only [h]
  rfl

end

/-- The frames that are read are the first ones. -/
theorem read_feed {p : Proc F M α} {frames : List F} :
    (p.feed frames).filterMap Event.read? <+: frames := by
  induction p generalizing frames with
  | done result => exact List.nil_prefix
  | throw text => exact List.nil_prefix
  | write sent frame next ih => exact ih
  | read got next ih =>
    cases frames with
    | nil => exact List.nil_prefix
    | cons frame frames => exact (List.prefix_cons_inj frame).2 (ih frame)

/-- Every frame that is written satisfies `W` at its place, and a result satisfies `Q`. -/
def Ensures (W : List (Event F) → F → Prop) (Q : α → List (Event F) → Prop) :
    Proc F M α → List (Event F) → Prop
  | .done result, h => Q result h
  | .throw _, _ => True
  | .write _ frame next, h => W h frame ∧ next.Ensures W Q (h ++ [.wrote frame])
  | .read _ next, h => ∀ frame, (next frame).Ensures W Q (h ++ [.read frame])

section
variable {W : List (Event F) → F → Prop} {Q Q' : α → List (Event F) → Prop}
  {h : List (Event F)} {p : Proc F M α}

theorem ensures_bind {R : β → List (Event F) → Prop} {k : α → Proc F M β}
    (hp : p.Ensures W (fun value h' => (k value).Ensures W R h') h) : (p >>= k).Ensures W R h := by
  induction p generalizing h with
  | done result => exact hp
  | throw text => trivial
  | write sent frame next ih => exact ⟨hp.1, ih hp.2⟩
  | read got next ih => exact fun frame => ih frame (hp frame)

theorem Ensures.mono (hp : p.Ensures W Q h) (hQ : ∀ value h', Q value h' → Q' value h') :
    p.Ensures W Q' h := by
  induction p generalizing h with
  | done result => exact hQ _ _ hp
  | throw text => trivial
  | write sent frame next ih => exact ⟨hp.1, ih hp.2⟩
  | read got next ih => exact fun frame => ih frame (hp frame)

theorem Ensures.weaken {W' : List (Event F) → F → Prop} (hp : p.Ensures W Q h)
    (hW : ∀ h' frame, W h' frame → W' h' frame) : p.Ensures W' Q h := by
  induction p generalizing h with
  | done result => exact hp
  | throw text => trivial
  | write sent frame next ih => exact ⟨hW _ _ hp.1, ih hp.2⟩
  | read got next ih => exact fun frame => ih frame (hp frame)

theorem ensures_receive {decode : F → Except String α} {message : α → M}
    (hQ : ∀ frame value, decode frame = .ok value → Q value (h ++ [.read frame])) :
    (receive decode message : Proc F M α).Ensures W Q h := by
  intro frame
  dsimp only
  split
  next value hvalue => exact hQ frame value hvalue
  next => trivial

theorem ensures_send {Q : Unit → List (Event F) → Prop} {message : M} {frame : F}
    (hW : W h frame) (hQ : Q () (h ++ [.wrote frame])) : (send message frame).Ensures W Q h :=
  ⟨hW, hQ⟩

/-- **What a program ensures holds of every run.** -/
theorem Ensures.wrote (hp : p.Ensures W Q h) {frames : List F} {before after : List (Event F)}
    {frame : F} (hrun : p.feed frames = before ++ .wrote frame :: after) : W (h ++ before) frame := by
  induction p generalizing h frames before with
  | done result => cases before <;> cases hrun
  | throw text => cases before <;> cases hrun
  | write sent frame' next ih =>
    cases before with
    | nil =>
      obtain ⟨rfl⟩ := Event.wrote.inj (List.cons.inj hrun).1
      rw [List.append_nil]
      exact hp.1
    | cons event before =>
      obtain ⟨rfl, hrest⟩ := List.cons.inj hrun
      rw [← List.singleton_append, ← List.append_assoc]
      exact ih hp.2 hrest
  | read got next ih =>
    cases frames with
    | nil => cases before <;> cases hrun
    | cons first frames =>
      cases before with
      | nil => cases hrun
      | cons event before =>
        obtain ⟨rfl, hrest⟩ := List.cons.inj hrun
        rw [← List.singleton_append, ← List.append_assoc]
        exact ih first (hp first) hrest

end

/-! ## Two programs -/

/-- The events of one of two programs: its run alone on the frames that have arrived,
    up to where it stands. -/
structure Played (l p : Proc F M α) (i o : Channel F M) (events : List (Event F)) : Prop where
  feed : ∀ rest, l.feed (events.filterMap Event.read? ++ rest) = events ++ p.feed rest
  wrote : events.filterMap Event.wrote? = o.written.map Prod.snd
  read : events.filterMap Event.read? ++ i.inFlight = i.written.map Prod.snd

section
variable {l p q : Proc F M α} {r r' : Proc F M β} {i o i' o' : Channel F M}
  {events : List (Event F)}

/-- A step of the program adds its event. -/
theorem Played.moves (h : Played l p i o events) (hm : p.Moves i o q i' o') :
    ∃ events', Played l q i' o' events' := by
  obtain ⟨hfeed, hwrote, hread⟩ := h
  cases hm with
  | @write sent frame next =>
    refine ⟨events ++ [.wrote frame], fun rest => ?_, ?_, ?_⟩
    · have h := hfeed rest
      rw [List.filterMap_append, List.append_assoc, List.append_assoc]
      exact h
    · rw [List.filterMap_append, hwrote, Channel.push, List.map_append]
      rfl
    · rw [List.filterMap_append, List.append_assoc]
      exact hread
  | @read got next frame frames written arrived =>
    refine ⟨events ++ [.read frame], fun rest => ?_, ?_, ?_⟩
    · have h := hfeed (frame :: rest)
      rw [List.filterMap_append, List.append_assoc, List.append_assoc]
      exact h
    · rw [List.filterMap_append, ← hwrote]
      exact List.append_nil _
    · rw [List.filterMap_append, List.append_assoc]
      exact hread

/-- A step of the other program adds no event. -/
theorem Played.other (h : Played l p i o events) (hm : r.Moves o i r' o' i') :
    Played l p i' o' events := by
  obtain ⟨hfeed, hwrote, hread⟩ := h
  cases hm with
  | write =>
    refine ⟨hfeed, hwrote, ?_⟩
    rw [Channel.push, List.map_append, ← hread, List.append_assoc]
    rfl
  | read => exact ⟨hfeed, hwrote, hread⟩

/-- **Between two programs a program does what it does alone.** -/
theorem played_of_runs {l : Proc F M α} {r : Proc F M β} {s : Net F M α β}
    (h : Net.Runs (.init l r) s) : ∃ events, Played l s.left s.toLeft s.toRight events := by
  induction h with
  | refl => exact ⟨[], fun _ => rfl, rfl, rfl⟩
  | tail _ hstep ih =>
    obtain ⟨events, h⟩ := ih
    cases hstep with
    | left hm => exact h.moves hm
    | right hm => exact ⟨events, h.other hm⟩

end
end CotMta.Proc
