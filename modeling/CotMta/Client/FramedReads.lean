/-
  What calls of `FramedSocket.read` return.

  The stored bytes are the first ones that the call under way and the calls
  after it have not read (`Reading`); every event keeps that, whatever the
  chunks and the order.  So the k-th call returns the k-th body.
-/
import CotMta.Client.FramedSocket

namespace CotMta.Client

open Framing CryptoOps

namespace FramedSocket
variable {socket : FramedSocket} {out bytes : Uint8Array} {outOffset : ℕ}

/-- The stored bytes in order. -/
def stored (socket : FramedSocket) : Uint8Array := socket.chunks.flatten

/-- The counter is right. -/
def Counted (socket : FramedSocket) : Prop := socket.bufferedLength = socket.stored.length

theorem length_copy (h : outOffset + bytes.length ≤ out.length) :
    (copy out outOffset bytes).length = out.length := by
  simp only [copy, List.length_append, List.length_take, List.length_drop]
  omega

theorem take_copy (h : outOffset + bytes.length ≤ out.length) :
    (copy out outOffset bytes).take (outOffset + bytes.length) = out.take outOffset ++ bytes := by
  have hlen : (out.take outOffset ++ bytes).length = outOffset + bytes.length := by
    simp only [List.length_append, List.length_take]
    omega
  rw [copy, List.take_left' hlen]

theorem onData_counted (h : socket.Counted) (chunk : Uint8Array) :
    (socket.onData chunk).Counted ∧ (socket.onData chunk).stored = socket.stored ++ chunk := by
  have hstored : (socket.onData chunk).stored = socket.stored ++ chunk := by
    simp only [stored, onData, List.flatten_append, List.flatten_singleton]
  refine ⟨?_, hstored⟩
  rw [Counted, hstored, List.length_append, Nat.cast_add, ← h]
  rfl

theorem flatten_dropTaken {chunk : Uint8Array} {chunks : List Uint8Array} {take : ℕ}
    (h : take ≤ chunk.length) :
    (dropTaken chunk chunks take).flatten = (chunk ++ chunks.flatten).drop take := by
  rw [List.drop_append_of_le_length h, dropTaken]
  by_cases hall : take = chunk.length
  · rw [if_pos hall, hall, List.drop_length, List.nil_append]
  · rw [if_neg hall, List.flatten_cons]

theorem consumeLoop_nil {remaining : ℕ} (hpos : remaining ≠ 0) (hchunks : socket.chunks = []) :
    consumeLoop socket remaining out outOffset =
      (.error "Cannot read properties of undefined (reading 'length')", socket) := by
  rw [consumeLoop, if_neg hpos]
  split
  next => rfl
  next hcons =>
    rw [hchunks] at hcons
    cases hcons

/-- A pass of the loop of `consume`. -/
theorem consumeLoop_cons {chunk : Uint8Array} {chunks : List Uint8Array} {remaining : ℕ}
    (hpos : remaining ≠ 0) (hchunks : socket.chunks = chunk :: chunks) :
    consumeLoop socket remaining out outOffset =
      consumeLoop ⟨dropTaken chunk chunks (min remaining chunk.length),
          socket.bufferedLength - min remaining chunk.length, socket.ended⟩
        (remaining - min remaining chunk.length)
        (copy out outOffset (chunk.take (min remaining chunk.length)))
        (outOffset + min remaining chunk.length) := by
  rw [consumeLoop, if_neg hpos]
  split
  next hnil =>
    rw [hchunks] at hnil
    cases hnil
  next chunk' chunks' hcons =>
    rw [hchunks] at hcons
    cases hcons
    rfl

/-- The stored bytes after a pass. -/
theorem pass_stored {chunk : Uint8Array} {chunks : List Uint8Array} {take : ℕ}
    (hchunks : socket.chunks = chunk :: chunks) (htake : take ≤ chunk.length) :
    (dropTaken chunk chunks take).flatten = socket.stored.drop take ∧
      chunk.take take = socket.stored.take take ∧ take ≤ socket.stored.length := by
  have hstored : socket.stored = chunk ++ chunks.flatten := by
    rw [stored, hchunks, List.flatten_cons]
  refine ⟨?_, ?_, ?_⟩
  · rw [hstored, flatten_dropTaken htake]
  · rw [hstored, List.take_append_of_le_length htake]
  · rw [hstored, List.length_append]
    exact Nat.le_add_right_of_le htake

/-- The loop takes what is asked for off the stored bytes, and meets no missing
    chunk. -/
theorem consumeLoop_eq (socket : FramedSocket) (remaining : ℕ) (out : Uint8Array) (outOffset : ℕ)
    (hcount : socket.Counted) (hlen : remaining ≤ socket.stored.length)
    (hout : out.length = outOffset + remaining) :
    ∃ socket', consumeLoop socket remaining out outOffset =
        (.ok (out.take outOffset ++ socket.stored.take remaining), socket') ∧
      socket'.Counted ∧ socket'.stored = socket.stored.drop remaining ∧
      socket'.ended = socket.ended := by
  induction socket, remaining, out, outOffset using consumeLoop.induct with
  | case1 socket out outOffset =>
    refine ⟨socket, ?_, hcount, List.drop_zero.symm, rfl⟩
    rw [consumeLoop, if_pos rfl, List.take_zero, List.append_nil, List.take_of_length_le (by omega)]
  | case2 socket remaining out outOffset hpos hchunks =>
    rw [stored, hchunks] at hlen
    exact absurd (Nat.le_zero.1 hlen) hpos
  | case3 socket remaining out outOffset hpos chunk chunks hchunks take ih =>
    have hle : take ≤ remaining := min_le_left _ _
    have htake : take ≤ chunk.length := min_le_right _ _
    obtain ⟨hrest, hfirst, htotal⟩ := pass_stored hchunks htake
    have hcopy : outOffset + (chunk.take take).length ≤ out.length := by
      rw [List.length_take_of_le htake]
      omega
    have htaken := take_copy hcopy
    rw [List.length_take_of_le htake] at htaken
    have hcount' : socket.bufferedLength - take = ((socket.stored.drop take).length : ℤ) := by
      rw [hcount, List.length_drop, Nat.cast_sub htotal]
    obtain ⟨socket', heq, hcounted', hstored', hended'⟩ := ih
      (by rw [Counted, stored, hrest]; exact hcount')
      (by rw [stored, hrest, List.length_drop]; omega)
      (by rw [length_copy hcopy]; omega)
    have hbytes : chunk.take take ++ (socket.stored.drop take).take (remaining - take) =
        socket.stored.take remaining := by
      rw [hfirst, ← List.take_add, Nat.add_sub_cancel' hle]
    rw [stored, hrest, htaken, List.append_assoc, hbytes] at heq
    refine ⟨socket', (consumeLoop_cons hpos hchunks).trans heq, hcounted', ?_, hended'⟩
    rw [hstored', stored, hrest, List.drop_drop, Nat.add_sub_cancel' hle]

/-- **`consume` returns the first bytes and keeps the others.** -/
theorem consume_eq (socket : FramedSocket) (size : ℕ) (hcount : socket.Counted)
    (hlen : size ≤ socket.stored.length) :
    ∃ socket', socket.consume size = (.ok (socket.stored.take size), socket') ∧
      socket'.Counted ∧ socket'.stored = socket.stored.drop size ∧ socket'.ended = socket.ended :=
  consumeLoop_eq socket size (List.replicate size 0) 0 hcount hlen (by simp)

/-- Whatever it returns, the mark of the end stays. -/
theorem consumeLoop_ended (socket : FramedSocket) (remaining : ℕ) (out : Uint8Array)
    (outOffset : ℕ) : (consumeLoop socket remaining out outOffset).2.ended = socket.ended := by
  induction socket, remaining, out, outOffset using consumeLoop.induct with
  | case1 socket out outOffset => rw [consumeLoop, if_pos rfl]
  | case2 socket remaining out outOffset hpos hchunks => rw [consumeLoop_nil hpos hchunks]
  | case3 socket remaining out outOffset hpos chunk chunks hchunks take ih =>
    rw [consumeLoop_cons hpos hchunks]
    exact ih

theorem consume_ended (socket : FramedSocket) (size : ℕ) :
    (socket.consume size).2.ended = socket.ended :=
  consumeLoop_ended _ _ _ _

/-! ## A call -/

namespace Call

/-- What the call is about to read. -/
def part : Call → Part
  | .waiting part | .woken part | .ready part => part
  | .settled _ => .header

/-- A call that waits lacks bytes, one that goes on has enough of them. -/
def Suits (length : ℕ) : Call → Prop
  | .waiting part => length < part.required
  | .woken part | .ready part => part.required ≤ length
  | .settled _ => False

theorem start_part {part : Part} : (start socket part).part = part := by
  rw [start]
  split <;> rfl

theorem start_ready {part : Part} (h : start socket part ≠ .waiting part) :
    start socket part = .ready part := by
  rw [start] at h ⊢
  split at h
  next henough => rw [if_pos henough]
  next => exact absurd rfl h

theorem start_suits (hcount : socket.Counted) {part : Part} :
    (start socket part).Suits socket.stored.length := by
  rw [start, hcount]
  split
  next h => exact Int.ofNat_le.1 h
  next h => exact Int.ofNat_lt.1 (not_le.1 h)

theorem onData_part {call : Call} : (call.onData socket).part = call.part := by
  cases call with
  | waiting part =>
    rw [onData]
    split <;> rfl
  | _ => rfl

/-- More bytes wake a call, and take none from one that goes on. -/
theorem onData_suits {call : Call} {length : ℕ} (h : call.Suits length) (hcount : socket.Counted)
    (hle : length ≤ socket.stored.length) : (call.onData socket).Suits socket.stored.length := by
  cases call with
  | waiting part =>
    rw [onData, hcount]
    split
    next henough => exact Int.ofNat_le.1 henough
    next hshort => exact Int.ofNat_lt.1 (not_le.1 hshort)
  | woken part => exact le_trans h hle
  | ready part => exact le_trans h hle
  | settled result => exact h.elim

end Call

/-- The bytes that an event delivers. -/
def Event.delivered : Event → Uint8Array
  | .data chunk => chunk
  | _ => []

/-- An event of a socket that stays open. -/
def Event.Open : Event → Prop
  | .end_ | .error _ => False
  | _ => True

end FramedSocket

/-! ## The runs -/

namespace Reader
open FramedSocket

/-- An event of the one call, which is the last one. -/
def toReaders (reader : Reader) : Event → Readers.Event
  | .data chunk => .data chunk
  | .end_ => .end_
  | .error message => .error message
  | .read => .read
  | .resume => .resume reader.results.length

theorem readers_put {socket : FramedSocket} {results : List (Throws Uint8Array)} {call : Call} :
    (put socket results call).readers = ⟨socket, results.map Call.settled ++ [call]⟩ := by
  cases call with
  | settled result => simp only [put, readers, List.map_append, List.map_singleton,
      Option.toList_none, List.append_nil]
  | _ => rfl

/-- Calls that have settled hear no event. -/
theorem map_settled (heard : Call → Call) (h : ∀ result, heard (.settled result) = .settled result)
    (results : List (Throws Uint8Array)) (phase : Option Call) :
    (results.map Call.settled ++ phase.toList).map heard =
      results.map Call.settled ++ (phase.map heard).toList := by
  rw [List.map_append, List.map_map]
  congr 1
  · exact List.map_congr_left fun result _ => h result
  · cases phase <;> rfl

/-- The last call goes on. -/
theorem readers_resume {socket socket' : FramedSocket} {results : List (Throws Uint8Array)}
    {call call' : Call} (h : call.resume socket = some (call', socket')) :
    Readers.step ⟨socket, results.map Call.settled ++ [call]⟩ (.resume results.length) =
      some ⟨socket', results.map Call.settled ++ [call']⟩ := by
  have hget : (results.map Call.settled ++ [call])[results.length]? = some call := by
    rw [List.getElem?_append_right (List.length_map _).le, List.length_map, Nat.sub_self]
    rfl
  have hset : (results.map Call.settled ++ [call]).set results.length call' =
      results.map Call.settled ++ [call'] := by
    rw [List.set_append_right _ _ (List.length_map _).le, List.length_map, Nat.sub_self]
    rfl
  simp only [Readers.step, hget, h, hset, bind, Option.bind]

/-- **Calls one after another** are a run of the model with any number of calls. -/
theorem step_readers {reader reader' : Reader} {event : Event}
    (hstep : reader.step event = some reader') :
    reader.readers.step (reader.toReaders event) = some reader'.readers := by
  obtain ⟨socket, phase, results⟩ := reader
  cases event with
  | data chunk =>
    obtain rfl := Option.some.inj hstep
    have hcalls := map_settled (Call.onData (socket.onData chunk)) (fun _ => rfl) results
      phase
    exact congrArg (fun calls => some (⟨socket.onData chunk, calls⟩ : Readers)) hcalls
  | end_ =>
    have hcalls := map_settled (Call.reject "socket closed before full frame arrived")
      (fun _ => rfl) results phase
    have hreaders : (Reader.mk socket phase results).readers.step .end_ =
        some ⟨{ socket with ended := true }, results.map Call.settled ++
          (phase.map (Call.reject "socket closed before full frame arrived")).toList⟩ :=
      congrArg (fun calls => some (⟨{ socket with ended := true }, calls⟩ : Readers)) hcalls
    cases phase with
    | none =>
      obtain rfl := Option.some.inj hstep
      exact hreaders
    | some call =>
      obtain rfl := Option.some.inj hstep
      rw [readers_put]
      exact hreaders
  | error message =>
    cases phase with
    | none => cases hstep
    | some call =>
      cases call with
      | waiting part =>
        obtain rfl := Option.some.inj hstep
        have hheard : (results.map Call.settled ++ [Call.waiting part]).any Call.isWaiting = true := by
          rw [List.any_append]
          exact Bool.or_true _
        have hcalls := map_settled (Call.reject message) (fun _ => rfl) results
          (some (.waiting part))
        rw [readers_put]
        simp only [toReaders, readers, Readers.step, Option.toList_some, hheard, if_true]
        exact congrArg (fun calls => some (⟨socket, calls⟩ : Readers)) hcalls
      | _ => cases hstep
  | read =>
    cases phase with
    | none =>
      obtain rfl := Option.some.inj hstep
      simp only [toReaders, readers, Readers.step, Option.toList_none, Option.toList_some,
        List.append_nil]
    | some call => cases hstep
  | resume =>
    cases phase with
    | none => cases hstep
    | some call =>
      obtain ⟨⟨call', socket'⟩, hresume, hnext⟩ := Option.bind_eq_some_iff.1 hstep
      obtain rfl := Option.some.inj hnext
      rw [readers_put]
      exact readers_resume hresume

theorem run_readers : ∀ {events : List Event} {reader reader' : Reader},
    reader.run events = some reader' →
      ∃ events', reader.readers.run events' = some reader'.readers
  | [], _, _, hrun => ⟨[], congrArg (fun reader => some (readers reader)) (Option.some.inj hrun)⟩
  | event :: events, reader, _, hrun => by
    obtain ⟨next, hstep, hrun⟩ := Option.bind_eq_some_iff.1 hrun
    obtain ⟨events', hrest⟩ := run_readers hrun
    refine ⟨reader.toReaders event :: events', ?_⟩
    rw [Readers.run, step_readers hstep]
    exact hrest

/-- What the call under way is about to read, or the next call. -/
def part (reader : Reader) : Part :=
  reader.phase.elim .header Call.part

/-- The calls that have ended returned the first bodies; the next bytes of the
    others are stored, those behind them are `future`. -/
structure Reading (bodies : List Uint8Array) (reader : Reader) (future : Uint8Array) : Prop where
  counted : reader.socket.Counted
  notEnded : reader.socket.ended = false
  suits : ∀ call ∈ reader.phase, call.Suits reader.socket.stored.length
  unread : ∃ done todo, bodies = done ++ todo ∧ reader.results = done.map .ok ∧
    Unread reader.part todo (reader.socket.stored ++ future)

variable {reader reader' : Reader} {bodies : List Uint8Array} {future : Uint8Array}

theorem reading_new : Reading bodies .new (frames bodies) :=
  ⟨rfl, rfl, fun _ h => (Option.not_mem_none _ h).elim, [], bodies, rfl, rfl, rfl⟩

theorem Reading.data {chunk : Uint8Array} (h : Reading bodies reader (chunk ++ future))
    (hstep : reader.step (.data chunk) = some reader') : Reading bodies reader' future := by
  obtain ⟨hcount, hended, hsuits, done, todo, hbodies, hresults, hunread⟩ := h
  obtain ⟨hcount', hstored⟩ := onData_counted hcount chunk
  obtain rfl := Option.some.inj hstep
  have hle : reader.socket.stored.length ≤ (reader.socket.onData chunk).stored.length := by
    rw [hstored, List.length_append]
    exact Nat.le_add_right _ _
  refine ⟨hcount', hended, ?_, done, todo, hbodies, hresults, ?_⟩
  · rintro call hcall
    obtain ⟨call', hcall', rfl⟩ := Option.map_eq_some_iff.1 hcall
    exact Call.onData_suits (hsuits call' hcall') hcount' hle
  · have hpart : (reader.phase.map (Call.onData (reader.socket.onData chunk))).elim Part.header
        Call.part = reader.part := by
      cases hphase : reader.phase with
      | none => simp only [part, hphase, Option.map_none, Option.elim_none]
      | some call =>
        simp only [part, hphase, Option.map_some, Option.elim_some, Call.onData_part]
    rw [part, hpart, hstored, List.append_assoc]
    exact hunread

/-- A call is made. -/
theorem Reading.read (h : Reading bodies reader future)
    (hstep : reader.step .read = some reader') : Reading bodies reader' future := by
  obtain ⟨socket, phase, results⟩ := reader
  obtain ⟨hcount, hended, -, done, todo, hbodies, hresults, hunread⟩ := h
  cases phase with
  | none =>
    obtain rfl := Option.some.inj hstep
    refine ⟨hcount, hended, ?_, done, todo, hbodies, hresults, ?_⟩
    · rintro call hcall
      obtain rfl := Option.some.inj hcall
      exact Call.start_suits hcount
    · rw [part, Option.elim_some, Call.start_part]
      exact hunread
  | some call => cases hstep

section
variable {socket : FramedSocket} {results : List (Throws Uint8Array)} {part : Part} {size : ℕ}

theorem put_start : put socket results (Call.start socket part) =
    ⟨socket, some (Call.start socket part), results⟩ := by
  rw [Call.start]
  split <;> rfl

theorem resume_woken (hended : socket.ended = false) :
    step ⟨socket, some (.woken part), results⟩ .resume =
      some ⟨socket, some (.ready part), results⟩ := by
  have hopen : ¬(socket.ended ∧ socket.bufferedLength < part.required) := by
    intro h
    rw [hended] at h
    cases h.1
  simp only [step, Call.resume, if_neg hopen, bind, Option.bind, put]

theorem resume_header (hcount : socket.Counted) (hlen : 4 ≤ socket.stored.length) :
    ∃ socket', step ⟨socket, some (.ready .header), results⟩ .resume = some ⟨socket',
        some (Call.start socket' (.body (beNat (socket.stored.take 4)))), results⟩ ∧
      socket'.Counted ∧ socket'.stored = socket.stored.drop 4 ∧ socket'.ended = socket.ended := by
  obtain ⟨socket', hconsume, hrest⟩ := consume_eq socket 4 hcount hlen
  refine ⟨socket', ?_, hrest⟩
  simp only [step, Call.resume, hconsume, bind, Option.bind, put_start]

theorem resume_body (hcount : socket.Counted) (hlen : size ≤ socket.stored.length) :
    ∃ socket', step ⟨socket, some (.ready (.body size)), results⟩ .resume =
        some ⟨socket', none, results ++ [.ok (socket.stored.take size)]⟩ ∧
      socket'.Counted ∧ socket'.stored = socket.stored.drop size ∧
      socket'.ended = socket.ended := by
  obtain ⟨socket', hconsume, hrest⟩ := consume_eq socket size hcount hlen
  refine ⟨socket', ?_, hrest⟩
  simp only [step, Call.resume, hconsume, bind, Option.bind, put]

end

/-- A call goes on. -/
theorem Reading.resume (hfits : ∀ body ∈ bodies, Fits body) (h : Reading bodies reader future)
    (hstep : reader.step .resume = some reader') : Reading bodies reader' future := by
  obtain ⟨socket, phase, results⟩ := reader
  obtain ⟨hcount, hended, hsuits, done, todo, rfl, hresults, hunread⟩ := h
  cases phase with
  | none => cases hstep
  | some call =>
    have hcall := hsuits call rfl
    cases call with
    | waiting part => cases hstep
    | settled result => exact hcall.elim
    | woken part =>
      obtain rfl := Option.some.inj ((resume_woken hended).symm.trans hstep)
      refine ⟨hcount, hended, ?_, done, todo, rfl, hresults, hunread⟩
      rintro call hready
      obtain rfl := Option.some.inj hready
      exact hcall
    | ready part =>
      cases part with
      | header =>
        obtain ⟨socket', hheader, hcount', hstored, hended'⟩ := resume_header hcount hcall
        obtain rfl := Option.some.inj (hheader.symm.trans hstep)
        have hrest := Unread.header (fun body hbody => hfits body (List.mem_append_right _ hbody))
          hunread hcall
        refine ⟨hcount', hended'.trans hended, ?_, done, todo, rfl, hresults, ?_⟩
        · rintro call hstart
          obtain rfl := Option.some.inj hstart
          exact Call.start_suits hcount'
        · simp only [part, Option.elim_some, Call.start_part, hstored]
          exact hrest
      | body size =>
        obtain ⟨socket', hbody, hcount', hstored, hended'⟩ := resume_body hcount hcall
        obtain rfl := Option.some.inj (hbody.symm.trans hstep)
        obtain ⟨rest, rfl, hrest⟩ := Unread.body hunread hcall
        have hresults : results = done.map .ok := hresults
        refine ⟨hcount', hended'.trans hended, fun _ h => (Option.not_mem_none _ h).elim,
          done ++ [socket.stored.take size], rest, ?_, ?_, ?_⟩
        · rw [List.append_assoc, List.singleton_append]
        · rw [List.map_append, List.map_singleton, ← hresults]
          rfl
        · simp only [hstored]
          exact hrest

theorem run_append {events more : List Event} : ∀ {reader : Reader},
    reader.run events = some reader' → reader.run (events ++ more) = reader'.run more := by
  induction events with
  | nil =>
    intro reader hrun
    obtain rfl := Option.some.inj hrun
    rfl
  | cons event events ih =>
    intro reader hrun
    obtain ⟨reader₁, hstep, hrun⟩ := Option.bind_eq_some_iff.1 hrun
    rw [List.cons_append, Reader.run, hstep]
    exact ih hrun

/-- **An event keeps what has been read.** -/
theorem Reading.step (hfits : ∀ body ∈ bodies, Fits body) {event : Event} (hopen : event.Open)
    (h : Reading bodies reader (event.delivered ++ future))
    (hstep : reader.step event = some reader') : Reading bodies reader' future := by
  cases event with
  | data chunk => exact h.data hstep
  | end_ => exact hopen.elim
  | error message => exact hopen.elim
  | read => exact h.read hstep
  | resume => exact h.resume hfits hstep

theorem Reading.run (hfits : ∀ body ∈ bodies, Fits body) {events : List Event} :
    ∀ {reader : Reader}, (∀ event ∈ events, event.Open) →
      Reading bodies reader (events.flatMap Event.delivered ++ future) →
      reader.run events = some reader' → Reading bodies reader' future := by
  induction events with
  | nil =>
    intro reader _ h hrun
    obtain rfl := Option.some.inj hrun
    exact h
  | cons event events ih =>
    intro reader hopen h hrun
    obtain ⟨reader₁, hstep, hrun⟩ := Option.bind_eq_some_iff.1 hrun
    rw [List.flatMap_cons, List.append_assoc] at h
    exact ih (fun e he => hopen e (List.mem_cons_of_mem _ he))
      (h.step hfits (hopen event (List.mem_cons_self ..)) hstep) hrun

/-! ## What that gives -/

/-- The k-th call has returned the k-th body. -/
theorem Reading.results_eq (h : Reading bodies reader future) :
    reader.results = (bodies.take reader.results.length).map .ok := by
  obtain ⟨-, -, -, done, todo, rfl, hresults, -⟩ := h
  rw [hresults, List.length_map, List.take_left]

/-- `consume` finds what it asks for. -/
theorem Reading.consume_ok (h : Reading bodies reader future) {part : Part}
    (hphase : reader.phase = some (.ready part)) : part.required ≤ reader.socket.stored.length ∧
      ∃ socket', reader.socket.consume part.required =
        (.ok (reader.socket.stored.take part.required), socket') := by
  have hsuits := h.suits _ hphase
  obtain ⟨socket', heq, -⟩ := consume_eq reader.socket part.required h.counted hsuits
  exact ⟨hsuits, socket', heq⟩

/-- A call waits only while bytes of its frame are missing: once the first `k`
    frames have come, `k` calls do not wait. -/
theorem Reading.waiting (h : Reading bodies reader future) {part : Part}
    (hphase : reader.phase = some (.waiting part)) {k : ℕ} (hk : k ≤ bodies.length)
    (hfuture : future.length ≤ (frames (bodies.drop k)).length) : k ≤ reader.results.length := by
  obtain ⟨-, -, hsuits, done, todo, rfl, hresults, hunread⟩ := h
  have hsuits : reader.socket.stored.length < part.required := hsuits _ hphase
  rw [Reader.part, hphase, Option.elim_some, Call.part] at hunread
  rw [hresults, List.length_map]
  by_contra hless
  cases todo with
  | nil =>
    rw [List.append_nil] at hk
    exact hless hk
  | cons body rest =>
    have hlen := Unread.length hunread
    obtain ⟨j, rfl⟩ : ∃ j, k = done.length + (j + 1) := ⟨k - done.length - 1, by omega⟩
    have hle := length_frames_drop rest j
    rw [List.drop_length_add_append, List.drop_succ_cons] at hfuture
    rw [List.length_append] at hlen
    omega

/-- How far a call has come. -/
def togo (bodies : List Uint8Array) (reader : Reader) : ℕ :=
  6 * (bodies.length - reader.results.length) + match reader.phase with
    | some (.woken .header) => 5
    | some (.ready .header) => 4
    | some (.woken (.body _)) => 3
    | some (.ready (.body _)) => 2
    | _ => 6

/-- A call that finds all bytes delivered goes on. -/
theorem Reading.progress (hfits : ∀ body ∈ bodies, Fits body) (h : Reading bodies reader [])
    (hless : reader.results.length < bodies.length) : ∃ event reader',
      (event = Event.read ∨ event = .resume) ∧ reader.step event = some reader' ∧
      reader'.togo bodies < reader.togo bodies := by
  have hwait : ∀ {reader' : Reader} (part : Part), Reading bodies reader' [] →
      reader'.results = reader.results → reader'.phase ≠ some (.waiting part) := by
    intro reader' part h' hresults hphase
    have hk := h'.waiting hphase le_rfl (Nat.zero_le _)
    rw [hresults] at hk
    exact absurd hless (Nat.not_lt.2 hk)
  obtain ⟨socket, phase, results⟩ := reader
  cases phase with
  | none =>
    have hread : Reading bodies ⟨socket, some (Call.start socket .header), results⟩ [] := h.read rfl
    have hphase := Call.start_ready fun hcall => hwait .header hread rfl (congrArg some hcall)
    refine ⟨.read, _, .inl rfl, rfl, ?_⟩
    simp [togo, hphase]
  | some call =>
    have hcall := h.suits call rfl
    cases call with
    | waiting part => exact absurd rfl (hwait part h rfl)
    | settled result => exact hcall.elim
    | woken part =>
      refine ⟨.resume, _, .inr rfl, resume_woken h.notEnded, ?_⟩
      cases part <;> simp [togo]
    | ready part =>
      cases part with
      | header =>
        obtain ⟨socket', hstep, -⟩ := resume_header h.counted hcall
        have hphase := Call.start_ready fun hcall =>
          hwait (.body _) (h.resume hfits hstep) rfl (congrArg some hcall)
        refine ⟨.resume, _, .inr rfl, hstep, ?_⟩
        simp [togo, hphase]
      | body size =>
        obtain ⟨socket', hstep, -⟩ := resume_body h.counted hcall
        refine ⟨.resume, _, .inr rfl, hstep, ?_⟩
        have hless : results.length < bodies.length := hless
        simp only [togo, List.length_append, List.length_singleton]
        omega

/-- Once all frames have come, the calls that are left can be made and end. -/
theorem Reading.finish (hfits : ∀ body ∈ bodies, Fits body) (h : Reading bodies reader []) :
    ∃ events reader', (∀ event ∈ events, event = Event.read ∨ event = .resume) ∧
      reader.run events = some reader' ∧ reader'.results = bodies.map .ok := by
  induction hgo : reader.togo bodies using Nat.strong_induction_on generalizing reader with
  | _ go ih =>
    by_cases hless : reader.results.length < bodies.length
    · obtain ⟨event, reader₁, hevent, hstep, hlt⟩ := h.progress hfits hless
      have h₁ : Reading bodies reader₁ [] := by
        rcases hevent with rfl | rfl
        · exact h.read hstep
        · exact h.resume hfits hstep
      obtain ⟨events, reader', hevents, hrun, hresults⟩ := ih _ (hgo ▸ hlt) h₁ rfl
      refine ⟨event :: events, reader', ?_, ?_, hresults⟩
      · intro e he
        rcases List.mem_cons.1 he with rfl | he
        · exact hevent
        · exact hevents e he
      · rw [Reader.run, hstep]
        exact hrun
    · refine ⟨[], reader, fun e he => absurd he List.not_mem_nil, rfl, ?_⟩
      rw [h.results_eq, List.take_of_length_le (Nat.not_lt.1 hless)]

end Reader
end CotMta.Client
