/-
  `client/src/client.ts`: the class `FramedSocket`.

  The socket emits its events one by one; a read that has to wait has put its
  listeners behind those of the constructor, and a read that can go on does so
  at any later moment (`resume`).  `Readers` has any number of calls of `read`
  under way, `Reader` makes them one after another.  A JavaScript number that
  counts bytes is an integer.
-/
import CotMta.Client.CryptoOps
import CotMta.Lib.Framing

namespace CotMta.Client

open Framing CryptoOps

/-- The stored bytes. -/
structure FramedSocket where
  chunks : List Uint8Array
  bufferedLength : ℤ
  ended : Bool

namespace FramedSocket

/-- Nothing is stored. -/
def new : FramedSocket := ⟨[], 0, false⟩

/-- The constructor's listener for `data`. -/
def onData (socket : FramedSocket) (chunk : Uint8Array) : FramedSocket :=
  { socket with
    chunks := socket.chunks ++ [chunk]
    bufferedLength := socket.bufferedLength + chunk.length }

/-- Underscores between groups of three decimal digits, the last digit first. -/
def addNumericalSeparator : List Char → List Char
  | a :: b :: c :: d :: digits => a :: b :: c :: '_' :: addNumericalSeparator (d :: digits)
  | digits => digits

/-- How the range error prints a number: with separators above `2 ** 32`. -/
def received (value : ℕ) : String :=
  let digits := Nat.toDigits 10 value
  String.ofList
    (if 2 ^ 32 < value then (addNumericalSeparator digits.reverse).reverse else digits)

/-- What `write` hands to the socket; `writeUInt32BE` throws from `2 ** 32` on. -/
def write (body : Uint8Array) : Throws Uint8Array :=
  if body.length < 2 ^ 32 then .ok (natBe 4 body.length ++ body)
  else .error ("The value of \"value\" is out of range. It must be >= 0 and <= 4294967295. " ++
    "Received " ++ received body.length)

/-! ## Consuming -/

/-- `chunk.copy(out, outOffset, 0, take)`, the bytes of the chunk being given. -/
def copy (out : Uint8Array) (outOffset : ℕ) (bytes : Uint8Array) : Uint8Array :=
  out.take outOffset ++ bytes ++ out.drop (outOffset + bytes.length)

/-- `this.chunks` without the first `take` bytes, which are of the first chunk. -/
def dropTaken (chunk : Uint8Array) (chunks : List Uint8Array) (take : ℕ) : List Uint8Array :=
  if take = chunk.length then chunks else chunk.drop take :: chunks

/-- The loop of `consume`, with the socket that it leaves, also when it throws. -/
def consumeLoop (socket : FramedSocket) (remaining : ℕ) (out : Uint8Array) (outOffset : ℕ) :
    Throws Uint8Array × FramedSocket :=
  if remaining = 0 then (.ok out, socket)
  else match _hchunks : socket.chunks with
    | [] => (.error "Cannot read properties of undefined (reading 'length')", socket)
    | chunk :: chunks =>
      let take := min remaining chunk.length
      consumeLoop { socket with
          chunks := dropTaken chunk chunks take
          bufferedLength := socket.bufferedLength - take }
        (remaining - take) (copy out outOffset (chunk.take take)) (outOffset + take)
-- a pass takes a whole chunk away or nothing remains after it
termination_by remaining + socket.chunks.length
decreasing_by
  rw [_hchunks, dropTaken, List.length_cons]
  split
  · omega
  · rw [List.length_cons]
    omega

/-- The first bytes that are stored. -/
def consume (socket : FramedSocket) (size : ℕ) : Throws Uint8Array × FramedSocket :=
  consumeLoop socket size (List.replicate size 0) 0

/-! ## Reading -/

/-- A call of `read`. -/
inductive Call
  /-- `waitForBytes` has put its listeners on -/
  | waiting (part : Part)
  /-- its listener for `data` has resolved the promise -/
  | woken (part : Part)
  /-- `waitForBytes` has returned -/
  | ready (part : Part)
  | settled (result : Throws Uint8Array)
deriving DecidableEq

namespace Call

/-- Whether the call has its listeners on. -/
def isWaiting : Call → Bool
  | .waiting _ => true
  | _ => false

/-- `waitForBytes` up to its first `await`. -/
def start (socket : FramedSocket) (part : Part) : Call :=
  if (part.required : ℤ) ≤ socket.bufferedLength then .ready part else .waiting part

/-- The listener for `data`. -/
def onData (socket : FramedSocket) : Call → Call
  | .waiting part =>
    if (part.required : ℤ) ≤ socket.bufferedLength then .woken part else .waiting part
  | call => call

/-- The listeners for `end` and `error`. -/
def reject (message : String) : Call → Call
  | .waiting _ => .settled (.error message)
  | call => call

/-- A call goes on behind an `await`; `none` if it cannot. -/
def resume (socket : FramedSocket) : Call → Option (Call × FramedSocket)
  | .woken part =>
    if socket.ended ∧ socket.bufferedLength < part.required then
      some (.settled (.error "socket closed before enough data was received"), socket)
    else some (.ready part, socket)
  | .ready .header =>
    match socket.consume 4 with
    | (.error message, socket) => some (.settled (.error message), socket)
    | (.ok header, socket) => some (start socket (.body (beNat header)), socket)
  | .ready (.body size) =>
    let (result, socket) := socket.consume size
    some (.settled result, socket)
  | _ => none

end Call
end FramedSocket

/-! ## Any number of calls -/

/-- A socket and the calls of `read` on it, in order. -/
structure Readers where
  socket : FramedSocket
  calls : List FramedSocket.Call

namespace Readers
open FramedSocket

/-- Nothing has been read. -/
def new : Readers := ⟨.new, []⟩

/-- What happens to the socket and the calls. -/
inductive Event
  | data (chunk : Uint8Array)
  | end_
  | error (message : String)
  | read
  /-- the call at an index goes on -/
  | resume (i : ℕ)

/-- `none` for an event that cannot come, and for an `error` that nobody hears:
    it ends the process. -/
def step (readers : Readers) : Event → Option Readers
  | .data chunk =>
    let socket := readers.socket.onData chunk
    some ⟨socket, readers.calls.map (Call.onData socket)⟩
  | .end_ =>
    some ⟨{ readers.socket with ended := true },
      readers.calls.map (Call.reject "socket closed before full frame arrived")⟩
  | .error message =>
    if readers.calls.any Call.isWaiting then
      some ⟨readers.socket, readers.calls.map (Call.reject message)⟩
    else none
  | .read => some ⟨readers.socket, readers.calls ++ [Call.start readers.socket .header]⟩
  | .resume i => do
    let call ← readers.calls[i]?
    let (call, socket) ← call.resume readers.socket
    some ⟨socket, readers.calls.set i call⟩

/-- The events one after another. -/
def run : Readers → List Event → Option Readers
  | readers, [] => some readers
  | readers, event :: events => (readers.step event).bind fun readers => readers.run events

end Readers

/-! ## One call after another -/

namespace FramedSocket

/-- What happens to the socket and the one call. -/
inductive Event
  | data (chunk : Uint8Array)
  | end_
  | error (message : String)
  /-- a call of `read` -/
  | read
  /-- the call goes on behind an `await` -/
  | resume
deriving DecidableEq

end FramedSocket

/-- A socket, the call of `read` on it, and how the calls before it have ended. -/
structure Reader where
  socket : FramedSocket
  phase : Option FramedSocket.Call
  results : List (Throws Uint8Array)

namespace Reader
open FramedSocket

/-- Nothing has been read. -/
def new : Reader := ⟨.new, none, []⟩

/-- All the calls. -/
def readers (reader : Reader) : Readers :=
  ⟨reader.socket, reader.results.map Call.settled ++ reader.phase.toList⟩

/-- The call under way, which is over when it has settled. -/
def put (socket : FramedSocket) (results : List (Throws Uint8Array)) : Call → Reader
  | .settled result => ⟨socket, none, results ++ [result]⟩
  | call => ⟨socket, some call, results⟩

/-- A step of `Readers`: the call is the last one, and another one is made when it
    is over. -/
def step (reader : Reader) : Event → Option Reader
  | .data chunk =>
    let socket := reader.socket.onData chunk
    some { reader with socket := socket, phase := reader.phase.map (Call.onData socket) }
  | .end_ =>
    let socket := { reader.socket with ended := true }
    match reader.phase with
    | none => some { reader with socket := socket }
    | some call =>
      some (put socket reader.results (call.reject "socket closed before full frame arrived"))
  | .error message =>
    match reader.phase with
    | some (.waiting part) =>
      some (put reader.socket reader.results (Call.reject message (.waiting part)))
    | _ => none
  | .read =>
    match reader.phase with
    | none => some { reader with phase := some (Call.start reader.socket .header) }
    | some _ => none
  | .resume => do
    let call ← reader.phase
    let (call, socket) ← call.resume reader.socket
    some (put socket reader.results call)

/-- The events one after another. -/
def run : Reader → List Event → Option Reader
  | reader, [] => some reader
  | reader, event :: events => (reader.step event).bind fun reader => reader.run events

end Reader
end CotMta.Client
