import Mustache.Render.Sink
/-!
A sink that encodes characters as UTF-8 into a writer. The writer takes a limited number of bytes at
a time and in all; a character is offered to it again until all of its bytes are written.
-/
namespace Mustache

/-- What a writer takes. -/
structure WriterLimits where
  /-- The number of bytes it takes in all. -/
  total : Option Nat := none
  /-- The number of bytes it takes at a time. -/
  chunk : Option Nat := none
  /-- Whether a full writer takes no bytes instead of refusing them. -/
  zero : Bool := false
  /-- The number of flushes it takes. -/
  flush : Option Nat := none
deriving Repr

/-- Why writing fails. -/
inductive WriterError where
  /-- The writer refuses bytes. -/
  | writeRefused
  /-- The writer takes no bytes of those it was offered. -/
  | wroteNothing
  /-- The writer refuses to be flushed. -/
  | flushRefused
deriving DecidableEq, Repr

/-- What has been written. -/
structure Writer where
  bytes : ByteArray := .empty
  /-- The number of bytes written before each flush, last first. -/
  flushes : List Nat := []
  /-- What partials remarked, last first. -/
  remarks : List String := []

namespace WriterError

/-- The wording of a failure. -/
def message : WriterError → String
  | .writeRefused => "write refused"
  | .wroteNothing => "failed to write whole buffer"
  | .flushRefused => "flush refused"

end WriterError

namespace Writer

/-- How many of the offered bytes a writer takes now, or nothing if it refuses them. -/
def taken? (limits : WriterLimits) (written offered : Nat) : Option Nat :=
  let room := match limits.total with
    | some total => total - written
    | none => offered
  if room = 0 then if limits.zero then some 0 else none
  else some (min (min offered room) (limits.chunk.getD offered))

/-- Offers bytes until all are written; each attempt must take at least one. -/
def writeAll (limits : WriterLimits) : List UInt8 → Nat → SinkM Writer WriterError Unit
  | [], _ => pure ()
  | _ :: _, 0 => throw .wroteNothing
  | bytes, attempts + 1 => fun w =>
    match taken? limits w.bytes.size bytes.length with
    | none => .error .writeRefused w
    | some 0 => .error .wroteNothing w
    | some n =>
      let w := { w with bytes := (bytes.take n).foldl ByteArray.push w.bytes }
      writeAll limits (bytes.drop n) attempts w

/-- Flushes the writer. -/
def flush (limits : WriterLimits) : SinkM Writer WriterError Unit := fun w =>
  match limits.flush with
  | some limit =>
    if limit ≤ w.flushes.length then .error .flushRefused w
    else .ok () { w with flushes := w.bytes.size :: w.flushes }
  | none => .ok () { w with flushes := w.bytes.size :: w.flushes }

/-- The sink over a writer with the given limits. It is always ready, and closing it flushes it. -/
def sink (limits : WriterLimits) : Sink Writer WriterError where
  ready := pure ()
  send c := let bytes := String.utf8EncodeChar c
    writeAll limits bytes bytes.length
  flush := flush limits
  close := flush limits
  remark line w := { w with remarks := line :: w.remarks }

end Writer

end Mustache
