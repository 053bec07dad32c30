/-
  Framing between the two programs: whatever the pieces are in which the bytes
  arrive, both sides read the bodies that were written.
-/
import CotMta.Client.FramedReads
import CotMta.Server.Framing

namespace CotMta.Session

open Framing Client Client.FramedSocket Server

/-- **Framing survives any fragmentation.**  In every run of the client on chunks
    of the frames of `bodies`, calls of `read` made at any moment, the k-th call
    that has ended has returned the k-th body, the counter is the length of the
    stored bytes, `consume` finds what it asks for, a call waits only for bytes
    that have not come, and all calls can end once they have.  The server reads
    the bodies for any positive counts of `recv`, and both sides write the same
    bytes. -/
theorem framing_faithful (bodies : List (List UInt8)) (hfits : ∀ body ∈ bodies, Fits body)
    (most : ℕ → ℕ) (hmost : ∀ k, 0 < most k) :
    (∀ events reader, (∀ event ∈ events, Event.Open event) →
      events.flatMap Event.delivered <+: frames bodies → Reader.new.run events = some reader →
      reader.results = (bodies.take reader.results.length).map .ok ∧
      reader.socket.bufferedLength = reader.socket.chunks.flatten.length ∧
      (∀ part, reader.phase = some (.ready part) →
        part.required ≤ reader.socket.chunks.flatten.length ∧
        ∃ socket', reader.socket.consume part.required =
          (.ok (reader.socket.chunks.flatten.take part.required), socket')) ∧
      (∀ part, reader.phase = some (.waiting part) → ∀ k ≤ bodies.length,
        (frames (bodies.take k)).length ≤ (events.flatMap Event.delivered).length →
        k ≤ reader.results.length) ∧
      (events.flatMap Event.delivered = frames bodies → ∃ more reader',
        (∀ event ∈ more, event = Event.read ∨ event = .resume) ∧
        Reader.new.run (events ++ more) = some reader' ∧ reader'.results = bodies.map .ok)) ∧
    (∀ rest socket, Socket.incoming socket = frames bodies ++ rest →
      ∃ socket', readFrames most bodies.length socket = .ok (bodies, socket') ∧
        socket'.incoming = rest) ∧
    ∀ body ∈ bodies, ∀ socket, ∃ bytes socket', FramedSocket.write body = .ok bytes ∧
      writeFramed most socket body = .ok socket' ∧
      socket'.outgoing = socket.outgoing ++ bytes := by
  refine ⟨?_, ?_, ?_⟩
  · intro events reader hopen hpre hrun
    obtain ⟨future, hfuture⟩ := hpre
    have h : Reader.Reading bodies reader future :=
      Reader.Reading.run hfits hopen (hfuture.symm ▸ Reader.reading_new) hrun
    refine ⟨h.results_eq, h.counted, fun part => h.consume_ok, ?_, ?_⟩
    · intro part hphase k hk hdelivered
      refine h.waiting hphase hk ?_
      have htotal := congrArg List.length hfuture
      rw [← frames_take_drop k, List.length_append, List.length_append] at htotal
      omega
    · intro hall
      rw [hall] at hfuture
      obtain rfl := List.append_right_eq_self.1 hfuture
      obtain ⟨more, reader', hmore, hrest, hresults⟩ := h.finish hfits
      exact ⟨more, reader', hmore, (Reader.run_append hrun).trans hrest, hresults⟩
  · intro rest socket hsocket
    exact readFrames_eq hmost hfits hsocket
  · intro body hbody socket
    obtain ⟨socket', hwrite, hout⟩ := writeFramed_eq hmost (hfits body hbody) socket
    exact ⟨frame body, socket', if_pos (hfits body hbody), hwrite, hout⟩

/-- Two bodies, the second one empty, in chunks that cut headers and bodies. -/
theorem framing_pieces : ∃ more reader' socket',
    Reader.new.run ([.data [0, 0], .read, .data [], .data [0, 2, 1], .data [2, 0, 0, 0, 0]] ++ more) =
      some reader' ∧ reader'.results = [.ok [1, 2], .ok []] ∧
    readFrames (fun _ => 1) 2 ⟨[0, 0, 0, 2, 1, 2, 0, 0, 0, 0], [], 0⟩ =
      .ok ([[1, 2], []], socket') := by
  have hshort : ∀ body ∈ ([[1, 2], []] : List (List UInt8)), body.length ≤ 2 := by decide
  have hfits : ∀ body ∈ ([[1, 2], []] : List (List UInt8)), Fits body :=
    fun body hbody => (hshort body hbody).trans_lt (by norm_num)
  obtain ⟨hclient, hserver, -⟩ :=
    framing_faithful [[1, 2], []] hfits (fun _ => 1) fun _ => Nat.one_pos
  obtain ⟨-, -, -, -, hfinish⟩ := hclient
    [.data [0, 0], .read, .data [], .data [0, 2, 1], .data [2, 0, 0, 0, 0]] _
    (by simp [Event.Open]) (by decide) rfl
  obtain ⟨more, reader', -, hrun, hresults⟩ := hfinish (by decide)
  obtain ⟨socket', hread, -⟩ := hserver [] ⟨[0, 0, 0, 2, 1, 2, 0, 0, 0, 0], [], 0⟩ (by decide)
  exact ⟨more, reader', socket', hrun, hresults, hread⟩

end CotMta.Session
