/-
  Streams of length-prefixed frames, and how a reader takes them apart.

  A frame is four bytes of length and the body.  A reader is either before a
  header or before a body of known size (`Part`); `Unread` says what is still
  to come in each case, and `Unread.header` and `Unread.body` are its two steps.
-/
import CotMta.Lib.Bytes

namespace CotMta.Framing

/-- The frame of a body. -/
def frame (body : List UInt8) : List UInt8 := natBe 4 body.length ++ body

/-- The frames of several bodies, one behind the other. -/
def frames (bodies : List (List UInt8)) : List UInt8 := bodies.flatMap frame

/-- A body whose length fits the header. -/
def Fits (body : List UInt8) : Prop := body.length < 2 ^ 32

@[simp] theorem length_frame {body : List UInt8} : (frame body).length = 4 + body.length := by
  rw [frame, List.length_append, length_natBe]

theorem frames_cons {body : List UInt8} {bodies : List (List UInt8)} :
    frames (body :: bodies) = natBe 4 body.length ++ (body ++ frames bodies) := by
  rw [frames, List.flatMap_cons, frame, List.append_assoc, frames]

theorem frames_take_drop {bodies : List (List UInt8)} (k : ℕ) :
    frames (bodies.take k) ++ frames (bodies.drop k) = frames bodies := by
  rw [frames, frames, ← List.flatMap_append, List.take_append_drop, frames]

/-- What a reader reads next. -/
inductive Part
  | header
  | body (size : ℕ)
deriving DecidableEq

/-- The number of bytes it takes. -/
def Part.required : Part → ℕ
  | header => 4
  | body size => size

/-- The bytes that are still to be read of the frames of `bodies`. -/
def Unread : Part → List (List UInt8) → List UInt8 → Prop
  | .header, bodies, bytes => bytes = frames bodies
  | .body size, bodies, bytes => ∃ body rest, bodies = body :: rest ∧ size = body.length ∧
      bytes = body ++ frames rest

variable {bodies : List (List UInt8)} {stored future : List UInt8} {size : ℕ}

theorem length_frames_drop : ∀ (bodies : List (List UInt8)) (k : ℕ),
    (frames (bodies.drop k)).length ≤ (frames bodies).length
  | [], k => by rw [List.drop_nil]
  | body :: bodies, 0 => le_rfl
  | body :: bodies, k + 1 => by
    have h := length_frames_drop bodies k
    simp only [List.drop_succ_cons, frames_cons, List.length_append]
    omega

/-- The next part and the frames behind its body are among the unread bytes. -/
theorem Unread.length {part : Part} {body bytes : List UInt8}
    (h : Unread part (body :: bodies) bytes) :
    part.required + (frames bodies).length ≤ bytes.length := by
  cases part with
  | header =>
    rw [Unread] at h
    simp only [h, frames_cons, List.length_append, length_natBe, Part.required]
    omega
  | body size =>
    obtain ⟨body', rest, hcons, rfl, rfl⟩ := h
    cases hcons
    rw [List.length_append, Part.required]

/-- Four bytes are the header of the next body. -/
theorem Unread.header (hfits : ∀ body ∈ bodies, Fits body)
    (h : Unread .header bodies (stored ++ future)) (hlen : 4 ≤ stored.length) :
    Unread (.body (beNat (stored.take 4))) bodies (stored.drop 4 ++ future) := by
  cases bodies with
  | nil =>
    obtain ⟨rfl, rfl⟩ := List.append_eq_nil_iff.1 h
    exact absurd hlen (by decide)
  | cons body rest =>
    have hbytes : stored ++ future = natBe 4 body.length ++ (body ++ frames rest) :=
      h.trans frames_cons
    have htake : stored.take 4 = natBe 4 body.length := by
      rw [← List.take_append_of_le_length hlen, hbytes, List.take_left' length_natBe]
    have hdrop : stored.drop 4 ++ future = body ++ frames rest := by
      rw [← List.drop_append_of_le_length hlen, hbytes, List.drop_left' length_natBe]
    refine ⟨body, rest, rfl, ?_, hdrop⟩
    rw [htake, beNat_natBe (hfits body (List.mem_cons_self ..))]

/-- As many bytes as the header says are the body. -/
theorem Unread.body (h : Unread (.body size) bodies (stored ++ future))
    (hlen : size ≤ stored.length) :
    ∃ rest, bodies = stored.take size :: rest ∧ Unread .header rest (stored.drop size ++ future) := by
  obtain ⟨body, rest, rfl, rfl, hbytes⟩ := h
  have htake : stored.take body.length = body := by
    rw [← List.take_append_of_le_length hlen, hbytes, List.take_left]
  refine ⟨rest, by rw [htake], ?_⟩
  rw [Unread, ← List.drop_append_of_le_length hlen, hbytes, List.drop_left]

end CotMta.Framing
