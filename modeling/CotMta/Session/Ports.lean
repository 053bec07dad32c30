/-
  What stands between the two programs and their connection.

  The client's port is its `FramedSocket` with the call of `read` on it, the
  server's is its `Socket` with `read_framed` and `write_framed`.  Both are sound
  for the length-prefixed frames.
-/
import CotMta.Client.FramedReads
import CotMta.Lib.Wire
import CotMta.Messages
import CotMta.Server.Framing

namespace CotMta

open Framing

/-- A frame that is written goes behind those that are to be read. -/
theorem Framing.Unread.push {part : Part} {bodies : List (List UInt8)} {bytes : List UInt8}
    (h : Unread part bodies bytes) (body : List UInt8) :
    Unread part (bodies ++ [body]) (bytes ++ frame body) := by
  have hframes : ∀ rest, frames rest ++ frame body = frames (rest ++ [body]) := by
    intro rest
    rw [frames, frames, List.flatMap_append, List.flatMap_singleton]
  cases part with
  | header =>
    obtain rfl := h
    exact hframes bodies
  | body size =>
    obtain ⟨first, rest, rfl, rfl, rfl⟩ := h
    refine ⟨first, rest ++ [body], rfl, rfl, ?_⟩
    rw [List.append_assoc, hframes]

/-! ## The client -/

namespace Client
namespace Reader
open FramedSocket

/-- The next event of a call of `read`, which is made if there is none. -/
def call (reader : Reader) : Event :=
  match reader.phase with
  | none => .read
  | some _ => .resume

/-- The end of the call, if it has ended. -/
def ended (reader reader' : Reader) : Option (Throws Uint8Array) :=
  reader'.results[reader.results.length]?

/-- What the next event of a call makes of the reader. -/
def next (reader : Reader) : Outcome Frame Reader :=
  match reader.step reader.call with
  | none => .wait
  | some reader' =>
    match reader.ended reader' with
    | none => .busy reader'
    | some (.ok body) => .frame body reader'
    | some (.error text) => .failed text

/-- The client's port. -/
def port : Port Frame UInt8 Reader where
  write reader body := (FramedSocket.write body).map fun bytes => (bytes, reader)
  deliver reader piece := (reader.step (.data piece)).getD reader
  next := next

/-- The frames that have not been read yet. -/
structure Unread (reader : Reader) (todo : List Frame) (future : Uint8Array) : Prop where
  fits : ∀ body ∈ todo, Fits body
  reading : ∃ done, (∀ body ∈ done, Fits body) ∧ reader.results = done.map .ok ∧
    Reading (done ++ todo) reader future

/-- How far a call has come. -/
def rank (reader : Reader) : ℕ :=
  match reader.phase with
  | none => 6
  | some (.woken .header) => 5
  | some (.ready .header) => 4
  | some (.woken (.body _)) => 3
  | some (.ready (.body _)) => 2
  | some _ => 0

variable {reader reader' : Reader} {todo bodies : List Frame} {future : Uint8Array}

theorem unread_new : Unread .new [] [] where
  fits _ h := absurd h List.not_mem_nil
  reading := ⟨[], by simp, rfl, reading_new⟩

theorem put_results {socket : FramedSocket} {results : List (Throws Uint8Array)} {call : Call} :
    (put socket results call).results = results ∨
      ∃ result, (put socket results call).results = results ++ [result] := by
  cases call with
  | settled result => exact .inr ⟨result, rfl⟩
  | _ => exact .inl rfl

/-- An event ends a call or none. -/
theorem step_results {event : Event} (hstep : reader.step event = some reader') :
    reader'.results = reader.results ∨ ∃ result, reader'.results = reader.results ++ [result] := by
  obtain ⟨socket, phase, results⟩ := reader
  cases event with
  | data chunk =>
    obtain rfl := Option.some.inj hstep
    exact .inl rfl
  | end_ =>
    cases phase with
    | none =>
      obtain rfl := Option.some.inj hstep
      exact .inl rfl
    | some call =>
      obtain rfl := Option.some.inj hstep
      exact put_results
  | error message =>
    simp only [step] at hstep
    split at hstep
    · obtain rfl := Option.some.inj hstep
      exact put_results
    · cases hstep
  | read =>
    cases phase with
    | none =>
      obtain rfl := Option.some.inj hstep
      exact .inl rfl
    | some call => cases hstep
  | resume =>
    obtain ⟨call, -, hresume⟩ := Option.bind_eq_some_iff.1 hstep
    obtain ⟨⟨call', socket'⟩, -, hnext⟩ := Option.bind_eq_some_iff.1 hresume
    obtain rfl := Option.some.inj hnext
    exact put_results

/-- A step of a call keeps what is to be read. -/
theorem reading_call (hfits : ∀ body ∈ bodies, Fits body) (h : Reading bodies reader future)
    (hstep : reader.step reader.call = some reader') : Reading bodies reader' future := by
  rw [call] at hstep
  split at hstep
  next => exact h.read hstep
  next => exact h.resume hfits hstep

theorem map_ok_inj {l m : List Uint8Array} (h : (l.map .ok : List (Throws Uint8Array)) = m.map .ok) :
    l = m :=
  List.map_injective_iff.2 (fun _ _ hab => Except.ok.inj hab) h

/-- What is to be read behind a step: all of it, or a call has returned the first
    body. -/
theorem Unread.call (h : Unread reader todo future)
    (hstep : reader.step reader.call = some reader') :
    (reader.ended reader' = none ∧ Unread reader' todo future) ∨
      ∃ body rest, reader.ended reader' = some (.ok body) ∧ todo = body :: rest ∧
        Unread reader' rest future := by
  obtain ⟨hfits, done, hdone, hresults, hreading⟩ := h
  have hreading' := reading_call
    (fun body hbody => (List.mem_append.1 hbody).elim (hdone body) (hfits body)) hreading hstep
  rcases step_results hstep with hsame | ⟨result, hmore⟩
  · refine .inl ⟨?_, hfits, done, hdone, hsame.trans hresults, hreading'⟩
    rw [ended, hsame, List.getElem?_eq_none le_rfl]
  · obtain ⟨done', todo', hbodies, hresults', -⟩ := hreading'.unread
    rw [hmore, hresults] at hresults'
    obtain ⟨l, m, rfl, hl, hm⟩ := List.map_eq_append_iff.1 hresults'.symm
    obtain rfl := map_ok_inj hl
    obtain ⟨body, rfl, rfl⟩ := List.map_eq_singleton_iff.1 hm
    rw [List.append_assoc, List.append_cancel_left_eq, List.singleton_append] at hbodies
    subst hbodies
    refine .inr ⟨body, todo', ?_, rfl, fun b hb => hfits b (List.mem_cons_of_mem _ hb),
      l ++ [body], ?_, ?_, ?_⟩
    · rw [ended, hmore, List.getElem?_concat_length]
    · intro b hb
      rcases List.mem_append.1 hb with hb | hb
      · exact hdone b hb
      · exact hfits b (List.mem_singleton.1 hb ▸ List.mem_cons_self ..)
    · rw [hmore, hresults, List.map_append, List.map_singleton]
    · rw [List.append_assoc, List.singleton_append]
      exact hreading'

theorem rank_start {socket : FramedSocket} {results : List (Throws Uint8Array)} {part : Part} :
    rank ⟨socket, some (Call.start socket part), results⟩ ≤
      rank ⟨socket, some (.ready part), results⟩ := by
  rw [Call.start]
  split
  · exact le_rfl
  · exact Nat.zero_le _

/-- A step of a call that does not end it brings it on. -/
theorem rank_call (h : Reading bodies reader future)
    (hstep : reader.step reader.call = some reader') (hended : reader.ended reader' = none) :
    reader'.rank < reader.rank := by
  obtain ⟨socket, phase, results⟩ := reader
  cases phase with
  | none =>
    obtain rfl := Option.some.inj hstep
    exact rank_start.trans_lt (by decide : 4 < 6)
  | some call =>
    have hcall := h.suits call rfl
    cases call with
    | waiting part => cases hstep
    | settled result => exact hcall.elim
    | woken part =>
      obtain rfl := Option.some.inj ((resume_woken h.notEnded).symm.trans hstep)
      cases part with
      | header => exact (by decide : 4 < 5)
      | body size => exact (by decide : 2 < 3)
    | ready part =>
      cases part with
      | header =>
        obtain ⟨socket', hheader, -⟩ := resume_header h.counted hcall
        obtain rfl := Option.some.inj (hheader.symm.trans hstep)
        exact rank_start.trans_lt (by decide : 2 < 4)
      | body size =>
        obtain ⟨socket', hbody, -⟩ := resume_body h.counted hcall
        obtain rfl := Option.some.inj (hbody.symm.trans hstep)
        simp only [ended, List.getElem?_concat_length, reduceCtorEq] at hended

theorem next_eq_wait (h : reader.next = .wait) : reader.step reader.call = none := by
  rw [next] at h
  split at h
  next hstep => exact hstep
  next => split at h <;> cases h

theorem next_eq_busy (h : reader.next = .busy reader') :
    reader.step reader.call = some reader' ∧ reader.ended reader' = none := by
  rw [next] at h
  split at h
  next => cases h
  next hstep =>
    split at h
    next hended =>
      obtain rfl := Outcome.busy.inj h
      exact ⟨hstep, hended⟩
    all_goals cases h

theorem next_eq_frame {body : Frame} (h : reader.next = .frame body reader') :
    reader.step reader.call = some reader' ∧ reader.ended reader' = some (.ok body) := by
  rw [next] at h
  split at h
  next => cases h
  next hstep =>
    split at h
    next => cases h
    next hended =>
      obtain ⟨rfl, rfl⟩ := Outcome.frame.inj h
      exact ⟨hstep, hended⟩
    next => cases h

theorem next_eq_failed {text : String} (h : reader.next = .failed text) :
    ∃ reader', reader.step reader.call = some reader' ∧
      reader.ended reader' = some (.error text) := by
  rw [next] at h
  split at h
  next => cases h
  next reader' hstep =>
    split at h
    next => cases h
    next => cases h
    next hended => exact ⟨reader', hstep, Outcome.failed.inj h ▸ hended⟩

/-- **The client's port is sound.** -/
theorem port_sound : port.Sound frame Fits Unread rank where
  write {reader todo future body} h hfits := by
    have hwrite : FramedSocket.write body = .ok (frame body) := if_pos hfits
    refine ⟨reader, ?_, h⟩
    simp only [port, hwrite]
    rfl
  deliver {reader todo piece future} h := by
    obtain ⟨hfits, done, hdone, hresults, hreading⟩ := h
    exact ⟨hfits, done, hdone, hresults, hreading.data rfl⟩
  push {reader todo future body} h hfits := by
    obtain ⟨hall, done, hdone, hresults, hreading⟩ := h
    refine ⟨?_, done, hdone, hresults, hreading.counted, hreading.notEnded, hreading.suits, ?_⟩
    · intro b hb
      rcases List.mem_append.1 hb with hb | hb
      · exact hall b hb
      · exact List.mem_singleton.1 hb ▸ hfits
    · obtain ⟨done', todo', hbodies, hresults', hunread⟩ := hreading.unread
      refine ⟨done', todo' ++ [body], ?_, hresults', ?_⟩
      · rw [← List.append_assoc, ← List.append_assoc, hbodies]
      · rw [← List.append_assoc]
        exact hunread.push body
  wait {reader todo} h hnext := by
    obtain ⟨hfits, done, hdone, hresults, hreading⟩ := h
    by_contra htodo
    have hless : reader.results.length < (done ++ todo).length := by
      rw [hresults, List.length_map, List.length_append]
      exact Nat.lt_add_of_pos_right (List.length_pos_iff.2 htodo)
    obtain ⟨event, reader', hevent, hstep, -⟩ := hreading.progress
      (fun b hb => (List.mem_append.1 hb).elim (hdone b) (hfits b)) hless
    have hcall : reader.call = event := by
      obtain ⟨socket, phase, results⟩ := reader
      rcases hevent with rfl | rfl
      · cases phase <;> first | rfl | cases hstep
      · cases phase <;> first | rfl | cases hstep
    have hnone := next_eq_wait hnext
    rw [hcall, hstep] at hnone
    cases hnone
  busy {reader reader' todo future} h hnext := by
    obtain ⟨hstep, hended⟩ := next_eq_busy hnext
    obtain ⟨done, hdone, -, hreading⟩ := h.reading
    refine ⟨?_, rank_call hreading hstep hended⟩
    rcases h.call hstep with ⟨-, h'⟩ | ⟨body, rest, hbody, -⟩
    · exact h'
    · cases hended.symm.trans hbody
  frame {reader reader' todo future body} h hnext := by
    obtain ⟨hstep, hended⟩ := next_eq_frame hnext
    rcases h.call hstep with ⟨hnone, -⟩ | ⟨body', rest, hbody, htodo, h'⟩
    · cases hended.symm.trans hnone
    · obtain rfl := Except.ok.inj (Option.some.inj (hended.symm.trans hbody))
      exact ⟨rest, htodo, h'⟩
  failed {reader todo future text} h hnext := by
    obtain ⟨reader', hstep, hended⟩ := next_eq_failed hnext
    rcases h.call hstep with ⟨hnone, -⟩ | ⟨body, rest, hbody, -⟩
    · cases hended.symm.trans hnone
    · cases hended.symm.trans hbody
  finished {reader future} h := by
    obtain ⟨-, done, -, hresults, hreading⟩ := h
    obtain ⟨done', todo', hbodies, hresults', hunread⟩ := hreading.unread
    obtain rfl := map_ok_inj (hresults.symm.trans hresults')
    obtain rfl := List.append_cancel_left hbodies
    generalize reader.part = part at hunread
    cases part with
    | header => exact (List.append_eq_nil_iff.1 hunread).2
    | body size =>
      obtain ⟨body, rest, hcons, -⟩ := hunread
      cases hcons

end Reader
end Client

/-! ## The server -/

namespace Server.Socket
variable {most : ℕ → ℕ} {socket : Socket} {todo : List Frame} {future : List UInt8}

/-- A call of `recv` that finds nothing waits, so `read_framed` returns when its
    frame has come. -/
def port (most : ℕ → ℕ) : Port Frame UInt8 Socket where
  write socket body :=
    (writeFramed most { socket with outgoing := [] } body).map fun socket => (socket.outgoing, socket)
  deliver socket piece := { socket with incoming := socket.incoming ++ piece }
  next socket :=
    match readFramed most socket with
    | .ok (body, socket) => .frame body socket
    | .error _ => .wait

/-- The frames that have not been read yet. -/
def Unread (socket : Socket) (todo : List Frame) (future : List UInt8) : Prop :=
  (∀ body ∈ todo, Fits body) ∧ Framing.Unread .header todo (socket.incoming ++ future)

/-- **The server's port is sound,** whatever the calls of `recv` and `send` move. -/
theorem port_sound (hmost : ∀ k, 0 < most k) :
    (port most).Sound frame Fits Unread fun _ => 0 where
  write {socket todo future body} h hfits := by
    obtain ⟨socket', hwrite, hout⟩ :=
      writeFramed_eq hmost hfits { socket with outgoing := [] }
    have hin := writeFramed_incoming hmost hfits hwrite
    refine ⟨socket', ?_, h.1, by rw [hin]; exact h.2⟩
    simp only [port, hwrite, Except.map, hout, List.nil_append]
  deliver {socket todo piece future} h := by
    refine ⟨h.1, ?_⟩
    simp only [port, List.append_assoc]
    exact h.2
  push {socket todo future body} h hfits := by
    refine ⟨?_, ?_⟩
    · intro b hb
      rcases List.mem_append.1 hb with hb | hb
      · exact h.1 b hb
      · exact List.mem_singleton.1 hb ▸ hfits
    · rw [← List.append_assoc]
      exact h.2.push body
  wait {socket todo} h hnext := by
    cases todo with
    | nil => rfl
    | cons body rest =>
      have hin : socket.incoming = frame body ++ frames rest := by
        have hframes : socket.incoming ++ [] = frames (body :: rest) := h.2
        rw [← List.append_nil socket.incoming, hframes, frames, List.flatMap_cons, frames]
      obtain ⟨socket', hread, -⟩ := readFramed_eq hmost (h.1 body (List.mem_cons_self ..)) hin
      simp only [port, hread, reduceCtorEq] at hnext
  busy {socket socket' todo future} h hnext := by
    simp only [port] at hnext
    split at hnext <;> cases hnext
  frame {socket socket' todo future body} h hnext := by
    simp only [port] at hnext
    split at hnext
    next hread =>
      obtain ⟨rfl, rfl⟩ := Outcome.frame.inj hnext
      obtain ⟨rest, rfl, hrest⟩ := readFramed_unread hmost h.1 h.2 hread
      exact ⟨rest, rfl, fun b hb => h.1 b (List.mem_cons_of_mem _ hb), hrest⟩
    next => cases hnext
  failed {socket todo future text} h hnext := by
    simp only [port] at hnext
    split at hnext <;> cases hnext
  finished {socket future} h := (List.append_eq_nil_iff.1 h.2).2

end Server.Socket
end CotMta
