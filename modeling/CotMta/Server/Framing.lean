/-
  `server/src/server.cpp`: the class `Socket`, `read_framed` and `write_framed`.

  Each call of the system's `recv` and `send` moves as many bytes as it likes
  (`most`), as long as they are asked for and there; it moves no more than an
  `int` can say.  A call that moves nothing is the end of the connection or a
  failure.
-/
import CotMta.Lib.Framing

namespace CotMta.Server

open Framing Limbs

/-- `static_cast<int>(size)`, as the `size_t` that `recv` and `send` take it for. -/
def requested (size : ℕ) : ℕ :=
  let low := size % 2 ^ 32
  if low < 2 ^ 31 then low else low + (2 ^ 64 - 2 ^ 32)

/-- A connection: the bytes that are on their way to the server, those that it has
    sent, and the number of its calls. -/
structure Socket where
  incoming : List UInt8
  outgoing : List UInt8
  calls : ℕ
deriving DecidableEq

namespace Socket
variable (most : ℕ → ℕ)

/-- The number of bytes that a call moves. -/
def moved (socket : Socket) (size : ℕ) : ℕ :=
  min (most socket.calls) (min (requested size) (2 ^ 31 - 1))

theorem moved_le (socket : Socket) (size : ℕ) : socket.moved most size ≤ size := by
  simp only [moved, requested]
  split <;> omega

theorem moved_pos (socket : Socket) {size : ℕ} (hmost : ∀ k, 0 < most k) (hpos : size ≠ 0)
    (hsize : size < 2 ^ 32) : 0 < socket.moved most size := by
  have hcall := hmost socket.calls
  simp only [moved, requested, Nat.mod_eq_of_lt hsize]
  split <;> omega

/-- What `receive` writes at `data`. -/
def receive (socket : Socket) (size : ℕ) : Except String (List UInt8 × Socket) :=
  if size = 0 then .ok ([], socket)
  else
    let recvd := min (socket.moved most size) socket.incoming.length
    if recvd = 0 then .error "receive failed or connection closed"
    else do
      let (data, socket') ← receive
        { socket with incoming := socket.incoming.drop recvd, calls := socket.calls + 1 }
        (size - recvd)
      .ok (socket.incoming.take recvd ++ data, socket')
termination_by size

/-- All the bytes, in as many calls as it takes. -/
def send (socket : Socket) (data : List UInt8) : Except String Socket :=
  if data.length = 0 then .ok socket
  else
    let sent := socket.moved most data.length
    if sent = 0 then .error "send failed"
    else send
      { socket with outgoing := socket.outgoing ++ data.take sent, calls := socket.calls + 1 }
      (data.drop sent)
termination_by data.length
decreasing_by
  rw [List.length_drop]
  omega

end Socket

/-- `size` in `read_framed`. -/
def headerSize (header : List UInt8) : UInt32 :=
  (header.getD 0 0).toUInt32 <<< 24 ||| (header.getD 1 0).toUInt32 <<< 16 |||
    (header.getD 2 0).toUInt32 <<< 8 ||| (header.getD 3 0).toUInt32

/-- `header` in `write_framed`. -/
def sizeHeader (size : UInt32) : List UInt8 :=
  [((size >>> 24) &&& 0xFF).toUInt8, ((size >>> 16) &&& 0xFF).toUInt8,
    ((size >>> 8) &&& 0xFF).toUInt8, (size &&& 0xFF).toUInt8]

section
variable (most : ℕ → ℕ)

/-- The length and the body behind it. -/
def readFramed (socket : Socket) : Except String (List UInt8 × Socket) := do
  let (header, socket) ← socket.receive most 4
  let size := headerSize header
  if 0 < size then socket.receive most size.toNat else .ok ([], socket)

/-- The body behind its length. -/
def writeFramed (socket : Socket) (body : List UInt8) : Except String Socket := do
  let size := UInt32.ofNat body.length
  let socket ← socket.send most (sizeHeader size)
  if 0 < size then socket.send most (body.take size.toNat) else .ok socket

/-- `count` calls of `read_framed`. -/
def readFrames : ℕ → Socket → Except String (List (List UInt8) × Socket)
  | 0, socket => .ok ([], socket)
  | count + 1, socket => do
    let (body, socket) ← readFramed most socket
    let (bodies, socket) ← readFrames count socket
    .ok (body :: bodies, socket)

end

/-! ## The header -/

theorem toNat_headerSize {a b c d : UInt8} :
    (headerSize [a, b, c, d]).toNat = beNat [a, b, c, d] := by
  have ha := a.toNat_lt
  have hb := b.toNat_lt
  have hc := c.toNat_lt
  have hd := d.toNat_lt
  have hshift : ∀ (x : UInt8) (k : UInt32), k.toNat ≤ 24 →
      (x.toUInt32 <<< k).toNat = 2 ^ k.toNat * x.toNat := by
    intro x k hk
    have hpow : 2 ^ k.toNat ≤ 2 ^ 24 := Nat.pow_le_pow_right (by norm_num) hk
    have hx := Nat.mul_le_mul hpow (Nat.le_of_lt_succ x.toNat_lt)
    rw [UInt32.toNat_shiftLeft, UInt8.toNat_toUInt32, Nat.mod_eq_of_lt (b := 32) (by omega),
      Nat.shiftLeft_eq, mul_comm, Nat.mod_eq_of_lt (hx.trans_lt (by norm_num))]
  have hlow : 2 ^ 8 * c.toNat + d.toNat < 2 ^ 16 := by omega
  have hmid : 2 ^ 16 * b.toNat + (2 ^ 8 * c.toNat + d.toNat) < 2 ^ 24 := by omega
  change (a.toUInt32 <<< 24 ||| b.toUInt32 <<< 16 ||| c.toUInt32 <<< 8 ||| d.toUInt32).toNat = _
  rw [UInt32.toNat_or, UInt32.toNat_or, UInt32.toNat_or, hshift a 24 (by decide),
    hshift b 16 (by decide), hshift c 8 (by decide), UInt8.toNat_toUInt32, Nat.or_assoc,
    Nat.or_assoc]
  change 2 ^ 24 * a.toNat ||| (2 ^ 16 * b.toNat ||| (2 ^ 8 * c.toNat ||| d.toNat)) = _
  rw [← Nat.two_pow_add_eq_or_of_lt hd, ← Nat.two_pow_add_eq_or_of_lt hlow,
    ← Nat.two_pow_add_eq_or_of_lt hmid]
  simp only [beNat_cons, List.length_cons, List.length_nil, beNat_nil]
  omega

theorem toNat_headerSize_take {bytes : List UInt8} (hlen : 4 ≤ bytes.length) :
    (headerSize (bytes.take 4)).toNat = beNat (bytes.take 4) := by
  obtain ⟨a, b, c, d, rest, rfl⟩ : ∃ a b c d rest, bytes = a :: b :: c :: d :: rest := by
    match bytes, hlen with
    | a :: b :: c :: d :: rest, _ => exact ⟨a, b, c, d, rest, rfl⟩
  exact toNat_headerSize

theorem headerSize_natBe {k : ℕ} (hk : k < 2 ^ 32) : (headerSize (natBe 4 k)).toNat = k := by
  obtain ⟨a, b, c, d, h⟩ : ∃ a b c d, natBe 4 k = [a, b, c, d] := ⟨_, _, _, _, rfl⟩
  rw [h, toNat_headerSize, ← h, beNat_natBe hk]

theorem sizeHeader_eq {k : ℕ} (hk : k < 2 ^ 32) : sizeHeader (UInt32.ofNat k) = natBe 4 k := by
  have hbyte : ∀ j : UInt32, j.toNat < 32 → ((UInt32.ofNat k >>> j) &&& 0xFF).toUInt8 =
      UInt8.ofNat (k / 2 ^ j.toNat % 256) := by
    intro j hj
    have h255 : ∀ m, m &&& 255 = m % 256 := fun m => Nat.and_two_pow_sub_one_eq_mod m 8
    apply UInt8.toNat_inj.1
    simp only [UInt32.toNat_toUInt8, UInt32.toNat_and, UInt32.toNat_shiftRight, UInt32.toNat_ofNat',
      UInt32.toNat_ofNat, Nat.mod_eq_of_lt hk, Nat.mod_eq_of_lt hj, Nat.shiftRight_eq_div_pow,
      UInt8.toNat_ofNat']
    norm_num only
    rw [h255]
  have hlast := hbyte 0 (by decide)
  rw [UInt32.shiftRight_zero] at hlast
  rw [sizeHeader, hbyte 24 (by decide), hbyte 16 (by decide), hbyte 8 (by decide), hlast]
  simp [natBe, limbs, Nat.div_div_eq_div_mul]

/-! ## Any counts -/

section
variable {most : ℕ → ℕ} (hmost : ∀ k, 0 < most k)
include hmost

namespace Socket

/-- **`receive` gives the next bytes,** in however many pieces they come. -/
theorem receive_eq : ∀ (size : ℕ) (socket : Socket), size < 2 ^ 32 → size ≤ socket.incoming.length →
    ∃ socket', socket.receive most size = .ok (socket.incoming.take size, socket') ∧
      socket'.incoming = socket.incoming.drop size ∧ socket'.outgoing = socket.outgoing := by
  intro size
  induction size using Nat.strong_induction_on with
  | _ size ih =>
    intro socket hsize hlen
    by_cases hzero : size = 0
    · subst hzero
      refine ⟨socket, ?_, rfl, rfl⟩
      rw [receive, if_pos rfl, List.take_zero]
    · have hpos := moved_pos most socket hmost hzero hsize
      have hle := moved_le most socket size
      have hrecvd : min (socket.moved most size) socket.incoming.length = socket.moved most size :=
        min_eq_left (hle.trans hlen)
      rw [receive, if_neg hzero]
      simp only [hrecvd]
      generalize socket.moved most size = recvd at hpos hle
      obtain ⟨socket', heq, hincoming, houtgoing⟩ := ih (size - recvd) (by omega)
        ⟨socket.incoming.drop recvd, socket.outgoing, socket.calls + 1⟩ (by omega)
        (by simp only [List.length_drop]; omega)
      refine ⟨socket', ?_, ?_, houtgoing⟩
      · rw [if_neg hpos.ne', heq]
        simp only [bind, Except.bind]
        rw [← List.take_add, Nat.add_sub_cancel' hle]
      · rw [hincoming, List.drop_drop, Nat.add_sub_cancel' hle]

/-- **`send` sends everything,** in however many pieces. -/
theorem send_eq : ∀ (length : ℕ) (data : List UInt8) (socket : Socket), data.length = length →
    length < 2 ^ 32 → ∃ socket', socket.send most data = .ok socket' ∧
      socket'.outgoing = socket.outgoing ++ data ∧ socket'.incoming = socket.incoming := by
  intro length
  induction length using Nat.strong_induction_on with
  | _ length ih =>
    intro data socket hlen hsize
    by_cases hzero : data.length = 0
    · refine ⟨socket, ?_, ?_, rfl⟩
      · rw [send, if_pos hzero]
      · rw [List.length_eq_zero_iff.1 hzero, List.append_nil]
    · subst hlen
      have hpos := moved_pos most socket hmost hzero hsize
      have hle := moved_le most socket data.length
      rw [send, if_neg hzero]
      dsimp only
      generalize socket.moved most data.length = sent at hpos hle
      obtain ⟨socket', heq, houtgoing, hincoming⟩ := ih (data.length - sent) (by omega)
        (data.drop sent) ⟨socket.incoming, socket.outgoing ++ data.take sent, socket.calls + 1⟩
        List.length_drop (by omega)
      refine ⟨socket', ?_, ?_, hincoming⟩
      · rw [if_neg hpos.ne', heq]
      · rw [houtgoing, List.append_assoc, List.take_append_drop]

end Socket

/-- **`read_framed` takes one frame off the stream.** -/
theorem readFramed_eq {body rest : List UInt8} (hfits : Fits body) {socket : Socket}
    (hsocket : socket.incoming = frame body ++ rest) :
    ∃ socket', readFramed most socket = .ok (body, socket') ∧ socket'.incoming = rest := by
  have hlen : 4 ≤ socket.incoming.length := by
    rw [hsocket, List.length_append, length_frame]
    omega
  obtain ⟨socket₁, hheader, hrest, -⟩ := Socket.receive_eq hmost 4 socket (by norm_num) hlen
  rw [hsocket, frame, List.append_assoc, List.take_left' length_natBe] at hheader
  rw [hsocket, frame, List.append_assoc, List.drop_left' length_natBe] at hrest
  have hsize : (headerSize (natBe 4 body.length)).toNat = body.length := headerSize_natBe hfits
  have hpos : 0 < headerSize (natBe 4 body.length) ↔ 0 < body.length := by
    rw [UInt32.lt_iff_toNat_lt, hsize]
    rfl
  simp only [readFramed, hheader, bind, Except.bind, hpos, hsize]
  by_cases hbody : 0 < body.length
  · obtain ⟨socket₂, heq, hrest₂, -⟩ := Socket.receive_eq hmost body.length socket₁ hfits
      (by rw [hrest, List.length_append]; omega)
    refine ⟨socket₂, ?_, ?_⟩
    · rw [if_pos hbody, heq, hrest, List.take_left]
    · rw [hrest₂, hrest, List.drop_left]
  · obtain rfl := List.length_eq_zero_iff.1 (Nat.eq_zero_of_not_pos hbody)
    exact ⟨socket₁, if_neg hbody, hrest⟩

/-- **`write_framed` sends one frame.** -/
theorem writeFramed_eq {body : List UInt8} (hfits : Fits body) (socket : Socket) :
    ∃ socket', writeFramed most socket body = .ok socket' ∧
      socket'.outgoing = socket.outgoing ++ frame body := by
  obtain ⟨socket₁, hheader, hout, -⟩ := Socket.send_eq hmost 4 (natBe 4 body.length) socket
    length_natBe (by norm_num)
  have hsize : (UInt32.ofNat body.length).toNat = body.length := by
    rw [UInt32.toNat_ofNat', Nat.mod_eq_of_lt hfits]
  have hpos : 0 < UInt32.ofNat body.length ↔ 0 < body.length := by
    rw [UInt32.lt_iff_toNat_lt, hsize]
    rfl
  simp only [writeFramed, sizeHeader_eq hfits, hheader, bind, Except.bind, hpos, hsize,
    List.take_length]
  by_cases hbody : 0 < body.length
  · obtain ⟨socket₂, heq, hout₂, -⟩ := Socket.send_eq hmost body.length body socket₁ rfl hfits
    refine ⟨socket₂, ?_, ?_⟩
    · rw [if_pos hbody, heq]
    · rw [hout₂, hout, frame, List.append_assoc]
  · obtain rfl := List.length_eq_zero_iff.1 (Nat.eq_zero_of_not_pos hbody)
    refine ⟨socket₁, if_neg hbody, ?_⟩
    rw [hout, frame, List.append_nil]

/-- Reading all frames of a stream, whatever follows them. -/
theorem readFrames_eq {rest : List UInt8} : ∀ {bodies : List (List UInt8)} {socket : Socket},
    (∀ body ∈ bodies, Fits body) → socket.incoming = frames bodies ++ rest →
    ∃ socket', readFrames most bodies.length socket = .ok (bodies, socket') ∧
      socket'.incoming = rest
  | [], socket, _, hsocket => ⟨socket, rfl, hsocket⟩
  | body :: bodies, socket, hfits, hsocket => by
    rw [frames, List.flatMap_cons, List.append_assoc] at hsocket
    obtain ⟨socket₁, hbody, hrest⟩ := readFramed_eq hmost (hfits body (List.mem_cons_self ..)) hsocket
    obtain ⟨socket₂, hbodies, hrest₂⟩ := readFrames_eq
      (fun b hb => hfits b (List.mem_cons_of_mem _ hb)) hrest
    refine ⟨socket₂, ?_, hrest₂⟩
    simp only [List.length_cons, readFrames, hbody, hbodies, bind, Except.bind]

/-! ## Frames on their way -/

omit hmost in
/-- A call for more bytes than there are does not return. -/
theorem Socket.receive_short : ∀ (size : ℕ) (socket : Socket), socket.incoming.length < size →
    ∃ text, socket.receive most size = .error text := by
  intro size
  induction size using Nat.strong_induction_on with
  | _ size ih =>
    intro socket hlen
    have hle := moved_le most socket size
    rw [receive, if_neg (by omega)]
    dsimp only
    generalize socket.moved most size = moved at hle
    split
    next => exact ⟨_, rfl⟩
    next hpos =>
      obtain ⟨text, htext⟩ := ih (size - min moved socket.incoming.length) (by omega)
        ⟨socket.incoming.drop (min moved socket.incoming.length), socket.outgoing,
          socket.calls + 1⟩ (by simp only [List.length_drop]; omega)
      exact ⟨text, by rw [htext]; rfl⟩

omit hmost in
theorem receive_ok {size : ℕ} {socket socket' : Socket} {data : List UInt8}
    (h : socket.receive most size = .ok (data, socket')) : size ≤ socket.incoming.length := by
  by_contra hlen
  have hshort : ∃ text, socket.receive most size = .error text :=
    Socket.receive_short size socket (Nat.lt_of_not_le hlen)
  obtain ⟨text, htext⟩ := hshort
  cases htext.symm.trans h

/-- **What `read_framed` returns is the next frame,** which has come. -/
theorem readFramed_unread {bodies : List (List UInt8)} (hfits : ∀ body ∈ bodies, Fits body)
    {socket socket' : Socket} {body future : List UInt8}
    (hunread : Unread .header bodies (socket.incoming ++ future))
    (h : readFramed most socket = .ok (body, socket')) :
    ∃ rest, bodies = body :: rest ∧ Unread .header rest (socket'.incoming ++ future) := by
  by_cases hlen : 4 ≤ socket.incoming.length
  · obtain ⟨socket₁, hheader, hrest, -⟩ := Socket.receive_eq hmost 4 socket (by norm_num) hlen
    have hunread₁ := Unread.header hfits hunread hlen
    rw [← hrest] at hunread₁
    have hsize := toNat_headerSize_take hlen
    simp only [readFramed, hheader, bind, Except.bind] at h
    split at h
    next hpos =>
      have hlen₁ := receive_ok h
      obtain ⟨socket₂, hbody, hrest₂, -⟩ :=
        Socket.receive_eq hmost _ socket₁ (headerSize _).toNat_lt hlen₁
      obtain ⟨rfl, rfl⟩ := Prod.mk.inj (Except.ok.inj (hbody.symm.trans h))
      rw [← hsize] at hunread₁
      rw [hrest₂]
      exact Unread.body hunread₁ hlen₁
    next hpos =>
      obtain ⟨rfl, rfl⟩ := Prod.mk.inj (Except.ok.inj h)
      have hzero : beNat (socket.incoming.take 4) = 0 := by
        rw [← hsize]
        exact Nat.eq_zero_of_not_pos fun hlt => hpos (UInt32.lt_iff_toNat_lt.2 hlt)
      rw [hzero] at hunread₁
      exact Unread.body hunread₁ (Nat.zero_le _)
  · have hshort : ∃ text, socket.receive most 4 = .error text :=
      Socket.receive_short 4 socket (Nat.lt_of_not_le hlen)
    obtain ⟨text, htext⟩ := hshort
    simp only [readFramed, htext, bind, Except.bind, reduceCtorEq] at h

/-- `write_framed` leaves what comes in. -/
theorem writeFramed_incoming {body : List UInt8} (hfits : Fits body) {socket socket' : Socket}
    (h : writeFramed most socket body = .ok socket') : socket'.incoming = socket.incoming := by
  obtain ⟨socket₁, hheader, -, hin⟩ := Socket.send_eq hmost 4 (natBe 4 body.length) socket
    length_natBe (by norm_num)
  simp only [writeFramed, sizeHeader_eq hfits, hheader, bind, Except.bind] at h
  split at h
  next hpos =>
    have hsize : (UInt32.ofNat body.length).toNat = body.length := by
      rw [UInt32.toNat_ofNat', Nat.mod_eq_of_lt hfits]
    rw [hsize, List.take_length] at h
    obtain ⟨socket₂, heq, -, hin₂⟩ := Socket.send_eq hmost body.length body socket₁ rfl hfits
    obtain rfl := Except.ok.inj (heq.symm.trans h)
    exact hin₂.trans hin
  next =>
    obtain rfl := Except.ok.inj h
    exact hin

end
end CotMta.Server
