/-
  `FramedSocket.read` on a stream that ends, with any number of calls under way.

  A call that waits hears the next `end` event and rejects.  The flag `ended` is
  looked at behind the wait only, so a wait that starts after the event hears
  nothing any more: a call is left pending exactly when one starts to wait on an
  ended stream with too few bytes.
-/
import CotMta.Client.FramedReads

namespace CotMta.Client

open Framing CryptoOps

namespace Readers
open FramedSocket

/-- Every state that the events reach has the property. -/
def Always (property : Readers → Prop) : Readers → List Event → Prop
  | readers, [] => property readers
  | readers, event :: events =>
    property readers ∧ ∀ next, readers.step event = some next → Always property next events

/-- Every step that the events make meets the condition. -/
def EachStep (condition : Readers → Event → Prop) : Readers → List Event → Prop
  | _, [] => True
  | readers, event :: events =>
    condition readers event ∧
      ∀ next, readers.step event = some next → EachStep condition next events

/-- Behind `end` no call waits: it is settled, or goes on by itself. -/
def NoneLeft (readers : Readers) : Prop :=
  readers.socket.ended = true → ∀ call ∈ readers.calls, call.isWaiting = false

/-- The event makes a call wait on an ended stream that holds too few bytes. -/
def StartsDry (readers : Readers) : Event → Prop
  | .read => readers.socket.ended = true ∧ readers.socket.bufferedLength < 4
  | .resume i => ∃ header socket, readers.socket.ended = true ∧
    readers.calls[i]? = some (.ready .header) ∧ readers.socket.consume 4 = (.ok header, socket) ∧
    socket.bufferedLength < beNat header
  | _ => False

end Readers

namespace FramedSocket
variable {socket socket' : FramedSocket} {call call' : Call}

/-! ## A call -/

namespace Call

theorem isWaiting_start {part : Part} :
    (start socket part).isWaiting = true ↔ socket.bufferedLength < part.required := by
  rw [start]
  split
  · next h => exact iff_of_false Bool.false_ne_true (not_lt.2 h)
  · next h => exact iff_of_true rfl (not_le.1 h)

theorem isWaiting_onData (h : call.isWaiting = false) :
    (call.onData socket).isWaiting = false := by
  cases call with
  | waiting part => cases h
  | woken part => rfl
  | ready part => rfl
  | settled result => rfl

theorem isWaiting_reject {message : String} : (call.reject message).isWaiting = false := by
  cases call <;> rfl

/-- What going on makes of a call. -/
inductive Resumes (socket : FramedSocket) : Call → Call → FramedSocket → Prop
  | closed {part : Part} : socket.ended = true → socket.bufferedLength < part.required →
    Resumes socket (.woken part)
      (.settled (.error "socket closed before enough data was received")) socket
  | ready {part : Part} : ¬(socket.ended ∧ socket.bufferedLength < part.required) →
    Resumes socket (.woken part) (.ready part) socket
  | throws {message : String} {socket' : FramedSocket} :
    socket.consume 4 = (.error message, socket') →
    Resumes socket (.ready .header) (.settled (.error message)) socket'
  | header {header : Uint8Array} {socket' : FramedSocket} :
    socket.consume 4 = (.ok header, socket') →
    Resumes socket (.ready .header) (start socket' (.body (beNat header))) socket'
  | body {size : ℕ} :
    Resumes socket (.ready (.body size)) (.settled (socket.consume size).1) (socket.consume size).2

theorem resumes_of_resume (h : call.resume socket = some (call', socket')) :
    Resumes socket call call' socket' := by
  cases call with
  | waiting part => cases h
  | settled result => cases h
  | woken part =>
    rw [resume] at h
    split at h
    · next hclosed =>
      cases h
      exact .closed hclosed.1 hclosed.2
    · next hready =>
      cases h
      exact .ready hready
  | ready part =>
    cases part with
    | header =>
      rw [resume] at h
      split at h
      · next hconsume =>
        cases h
        exact .throws hconsume
      · next hconsume =>
        cases h
        exact .header hconsume
    | body size =>
      cases h
      exact .body

theorem resume_ended (h : call.resume socket = some (call', socket')) :
    socket'.ended = socket.ended := by
  cases resumes_of_resume h with
  | closed => rfl
  | ready => rfl
  | throws hconsume =>
    have hended := consume_ended socket 4
    rwa [hconsume] at hended
  | header hconsume =>
    have hended := consume_ended socket 4
    rwa [hconsume] at hended
  | body => exact consume_ended socket _

/-- The only call that goes on to wait is one that has a header. -/
theorem resume_isWaiting (h : call.resume socket = some (call', socket')) :
    call'.isWaiting = true ↔ ∃ header, call = .ready .header ∧
      socket.consume 4 = (.ok header, socket') ∧ socket'.bufferedLength < beNat header := by
  cases resumes_of_resume h with
  | closed =>
    refine iff_of_false Bool.false_ne_true ?_
    rintro ⟨header, hcall, -⟩
    cases hcall
  | ready =>
    refine iff_of_false Bool.false_ne_true ?_
    rintro ⟨header, hcall, -⟩
    cases hcall
  | throws hthrow =>
    refine iff_of_false Bool.false_ne_true ?_
    rintro ⟨header, -, hconsume, -⟩
    cases hthrow.symm.trans hconsume
  | header hheader =>
    rw [isWaiting_start]
    constructor
    · intro hlt
      exact ⟨_, rfl, hheader, hlt⟩
    · rintro ⟨header, -, hconsume, hlt⟩
      cases hheader.symm.trans hconsume
      exact hlt
  | body =>
    refine iff_of_false Bool.false_ne_true ?_
    rintro ⟨header, hcall, -⟩
    cases hcall

/-- The steps that a call can still make by itself. -/
def weight : Call → ℕ
  | .waiting _ | .settled _ => 0
  | .ready (.body _) => 1
  | .woken (.body _) => 2
  | .ready .header => 3
  | .woken .header => 4

theorem resume_weight (h : call.resume socket = some (call', socket')) :
    call'.weight < call.weight := by
  cases resumes_of_resume h with
  | @closed part => cases part <;> simp [weight]
  | @ready part => cases part <;> simp [weight]
  | throws => simp [weight]
  | header =>
    rw [start]
    split <;> simp [weight]
  | body => simp [weight]

theorem settled_of_resume_none (h : call.resume socket = none) (hwait : call.isWaiting = false) :
    ∃ result, call = .settled result := by
  cases call with
  | waiting part => cases hwait
  | settled result => exact ⟨result, rfl⟩
  | woken part =>
    rw [resume] at h
    split at h <;> cases h
  | ready part =>
    cases part with
    | header =>
      rw [resume] at h
      split at h <;> cases h
    | body size => cases h

end Call
end FramedSocket

namespace Readers
open FramedSocket

variable {readers next : Readers} {event : Event} {property : Readers → Prop}
  {condition : Readers → Event → Prop}

/-! ## A step -/

theorem noneLeft_reject {socket : FramedSocket} {message : String} :
    NoneLeft ⟨socket, readers.calls.map (Call.reject message)⟩ := by
  rintro - call hcall
  obtain ⟨call', -, rfl⟩ := List.mem_map.1 hcall
  exact Call.isWaiting_reject

theorem noneLeft_read (h : readers.NoneLeft) :
    NoneLeft ⟨readers.socket, readers.calls ++ [Call.start readers.socket .header]⟩ ↔
      ¬readers.StartsDry .read := by
  have hdry : (Call.start readers.socket .header).isWaiting = true ↔
      readers.socket.bufferedLength < 4 := Call.isWaiting_start
  constructor
  · rintro hnone ⟨hended, hlt⟩
    have hstart := hnone hended _ (List.mem_append_right _ (List.mem_singleton_self _))
    rw [hdry.2 hlt] at hstart
    cases hstart
  · intro hnot hended call hcall
    rcases List.mem_append.1 hcall with hcall | hcall
    · exact h hended call hcall
    · rw [List.mem_singleton.1 hcall, Bool.eq_false_iff]
      exact fun hwait => hnot ⟨hended, hdry.1 hwait⟩

theorem noneLeft_resume {i : ℕ} {call call' : Call} {socket' : FramedSocket}
    (h : readers.NoneLeft) (hcall : readers.calls[i]? = some call)
    (hresume : call.resume readers.socket = some (call', socket')) :
    NoneLeft ⟨socket', readers.calls.set i call'⟩ ↔ ¬readers.StartsDry (.resume i) := by
  have hwait := Call.resume_isWaiting hresume
  have hended' := Call.resume_ended hresume
  have hi : i < readers.calls.length := (List.getElem?_eq_some_iff.1 hcall).1
  constructor
  · rintro hnone ⟨header, socket, hended, hheader, hconsume, hlt⟩
    cases hcall.symm.trans hheader
    have hsame : socket' = socket := by
      rw [Call.resume, hconsume] at hresume
      cases hresume
      rfl
    subst hsame
    have hset := hnone (hended'.trans hended) call' (List.mem_set hi call')
    rw [hwait.2 ⟨header, rfl, hconsume, hlt⟩] at hset
    cases hset
  · intro hnot hended c hc
    rw [hended'] at hended
    rcases List.mem_or_eq_of_mem_set hc with hc | rfl
    · exact h hended c hc
    · rw [Bool.eq_false_iff]
      intro hw
      obtain ⟨header, rfl, hconsume, hlt⟩ := hwait.1 hw
      exact hnot ⟨header, socket', hended, hcall, hconsume, hlt⟩

/-- **A step leaves a call pending exactly when it starts to wait too late.** -/
theorem step_noneLeft (h : readers.NoneLeft) (hstep : readers.step event = some next) :
    next.NoneLeft ↔ ¬readers.StartsDry event := by
  cases event with
  | data chunk =>
    cases hstep
    refine iff_of_true (fun hended call hcall => ?_) id
    obtain ⟨call', hcall', rfl⟩ := List.mem_map.1 hcall
    exact Call.isWaiting_onData (h hended call' hcall')
  | end_ =>
    cases hstep
    exact iff_of_true noneLeft_reject id
  | error message =>
    rw [step] at hstep
    split at hstep
    · cases hstep
      exact iff_of_true noneLeft_reject id
    · cases hstep
  | read =>
    cases hstep
    exact noneLeft_read h
  | resume i =>
    obtain ⟨call, hcall, hstep⟩ := Option.bind_eq_some_iff.1 hstep
    obtain ⟨⟨call', socket'⟩, hresume, hnext⟩ := Option.bind_eq_some_iff.1 hstep
    cases hnext
    exact noneLeft_resume h hcall hresume

theorem StartsDry.exists_step (h : readers.StartsDry event) :
    ∃ next, readers.step event = some next := by
  cases event with
  | data chunk => exact h.elim
  | end_ => exact h.elim
  | error message => exact h.elim
  | read => exact ⟨_, rfl⟩
  | resume i =>
    obtain ⟨header, socket, -, hcall, hconsume, -⟩ := h
    refine ⟨⟨socket, readers.calls.set i (Call.start socket (.body (beNat header)))⟩, ?_⟩
    simp only [step, hcall, Call.resume, hconsume, bind, Option.bind]

/-! ## A run -/

theorem Always.here : ∀ {events : List Event}, Always property readers events → property readers
  | [], h => h
  | _ :: _, h => h.1

theorem always_noneLeft_iff : ∀ {events : List Event} {readers : Readers}, readers.NoneLeft →
    (Always NoneLeft readers events ↔
      EachStep (fun readers event => ¬readers.StartsDry event) readers events)
  | [], _, h => iff_of_true h trivial
  | event :: events, readers, h => by
    constructor
    · rintro ⟨-, hnext⟩
      constructor
      · intro hdry
        obtain ⟨next, hstep⟩ := hdry.exists_step
        exact (step_noneLeft h hstep).1 (hnext next hstep).here hdry
      · intro next hstep
        have halways := hnext next hstep
        exact (always_noneLeft_iff halways.here).1 halways
    · rintro ⟨hnot, hnext⟩
      refine ⟨h, fun next hstep => ?_⟩
      exact (always_noneLeft_iff ((step_noneLeft h hstep).2 hnot)).2 (hnext next hstep)

theorem noneLeft_new : new.NoneLeft := fun h => nomatch h

/-- Behind `end`, when nothing goes on any more and no call waits, all are settled. -/
theorem settled_of_quiet (hended : readers.socket.ended = true) (hnone : readers.NoneLeft)
    (hquiet : ∀ i, readers.step (.resume i) = none) :
    ∀ call ∈ readers.calls, ∃ result, call = .settled result := by
  intro call hcall
  obtain ⟨i, hi⟩ := List.mem_iff_getElem?.1 hcall
  have hstep := hquiet i
  simp only [step, hi, bind, Option.bind_some] at hstep
  have hresume : call.resume readers.socket = none := by
    cases hresume : call.resume readers.socket with
    | none => rfl
    | some result =>
      rw [hresume] at hstep
      cases hstep
  exact Call.settled_of_resume_none hresume (hnone hended call hcall)

/-! ## Calls do not go on for ever -/

/-- The steps that the calls can still make by themselves. -/
def weight (readers : Readers) : ℕ := (readers.calls.map Call.weight).sum

theorem sum_set_lt {call call' : Call} (hlt : call'.weight < call.weight) :
    ∀ (calls : List Call) {i : ℕ}, calls[i]? = some call →
      ((calls.set i call').map Call.weight).sum < (calls.map Call.weight).sum
  | [], _, h => nomatch h
  | c :: calls, 0, h => by
    cases h
    simp only [List.set_cons_zero, List.map_cons, List.sum_cons]
    omega
  | c :: calls, i + 1, h => by
    have := sum_set_lt hlt calls h
    simp only [List.set_cons_succ, List.map_cons, List.sum_cons]
    omega

theorem resume_weight_lt {i : ℕ} (h : readers.step (.resume i) = some next) :
    next.weight < readers.weight := by
  obtain ⟨call, hcall, h⟩ := Option.bind_eq_some_iff.1 h
  obtain ⟨⟨call', socket'⟩, hresume, hnext⟩ := Option.bind_eq_some_iff.1 h
  cases hnext
  exact sum_set_lt (Call.resume_weight hresume) _ hcall

/-- Without events from outside the calls come to rest. -/
theorem exists_quiet (readers : Readers) : ∃ (indices : List ℕ) (next : Readers),
    readers.run (indices.map .resume) = some next ∧ ∀ i, next.step (.resume i) = none := by
  induction hw : readers.weight using Nat.strong_induction_on generalizing readers with
  | _ w ih =>
    by_cases hquiet : ∀ i, readers.step (.resume i) = none
    · exact ⟨[], readers, rfl, hquiet⟩
    · obtain ⟨i, hi⟩ := not_forall.1 hquiet
      obtain ⟨middle, hstep⟩ := Option.ne_none_iff_exists'.1 hi
      obtain ⟨indices, next, hrun, hnext⟩ := ih _ (hw ▸ resume_weight_lt hstep) middle rfl
      refine ⟨i :: indices, next, ?_, hnext⟩
      rw [List.map_cons, run, hstep]
      exact hrun

/-- **Reads on an ended stream.**  In every state that the events reach no read is
    left pending, exactly if no step makes a read wait on the ended stream; such
    reads are settled as soon as nothing goes on by itself. -/
theorem reads_settle_iff (events : List Event) :
    (Always NoneLeft new events ↔
      EachStep (fun readers event => ¬readers.StartsDry event) new events) ∧
    ∀ readers : Readers, readers.socket.ended = true → readers.NoneLeft →
      (∀ i, readers.step (.resume i) = none) →
        ∀ call ∈ readers.calls, ∃ result, call = .settled result :=
  ⟨always_noneLeft_iff noneLeft_new, fun _ => settled_of_quiet⟩

/-- A read of a stream that has ended with nothing stored waits, and nothing but
    another event of the socket can settle it. -/
theorem read_behind_end :
    ¬Always NoneLeft new [.end_, .read] ∧
      new.run [.end_, .read] = some ⟨⟨[], 0, true⟩, [.waiting .header]⟩ ∧
      ∀ i, Readers.step ⟨⟨[], 0, true⟩, [.waiting .header]⟩ (.resume i) = none := by
  refine ⟨fun h => ?_, rfl, ?_⟩
  · have hdry := ((always_noneLeft_iff noneLeft_new).1 h).2 _ rfl
    exact hdry.1 ⟨rfl, by decide⟩
  · rintro (_ | i) <;> rfl

end Readers
end CotMta.Client
