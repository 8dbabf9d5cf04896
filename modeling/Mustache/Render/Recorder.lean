import Mustache.Render.Sink
/-!
A sink that records what is sent to it between flushes and can be told when to fail.
-/
namespace Mustache

/-- When a recorder fails. -/
structure RecorderLimits where
  /-- It is not ready any more after so many characters. -/
  ready : Option Nat := none
  /-- It takes no more characters after so many. -/
  send : Option Nat := none
  /-- It cannot be flushed any more after so many flushes. -/
  flush : Option Nat := none
  /-- It cannot be closed. -/
  close : Bool := false
deriving Repr

/-- A failure of a recorder, counted from one over failures of all kinds. -/
inductive RecorderError where
  | ready (count : Nat)
  | send (count : Nat)
  | flush (count : Nat)
  | close (count : Nat)
deriving DecidableEq, Repr

/-- What a recorder has seen. -/
structure Recorder where
  /-- The characters since the last flush. -/
  current : String := ""
  /-- What was sent up to each flush, last first. -/
  flushed : List String := []
  sent : Nat := 0
  closes : Nat := 0
  errors : Nat := 0
  /-- What partials remarked, last first. -/
  remarks : List String := []
deriving Repr

namespace RecorderError

/-- The wording of a failure. -/
def message : RecorderError → String
  | .ready count => "ready error " ++ count.repr
  | .send count => "send error " ++ count.repr
  | .flush count => "flush error " ++ count.repr
  | .close count => "close error " ++ count.repr

end RecorderError

namespace Recorder

/-- What was sent between flushes, in order. -/
def chunks (r : Recorder) : List String := (r.current :: r.flushed).reverse

/-- Whether a count has reached a limit. -/
@[inline] def reached (count : Nat) : Option Nat → Bool
  | some limit => limit ≤ count
  | none => false

/-- A call that fails if a condition holds and changes the record otherwise. -/
def guarded (fails : Recorder → Bool) (error : Nat → RecorderError)
    (change : Recorder → Recorder) : SinkM Recorder RecorderError Unit := fun r =>
  if fails r then .error (error (r.errors + 1)) { r with errors := r.errors + 1 }
  else .ok () (change r)

/-- The recorder with the given limits. -/
def sink (limits : RecorderLimits) : Sink Recorder RecorderError where
  ready := guarded (fun r => reached r.sent limits.ready) .ready id
  send c := guarded (fun r => reached r.sent limits.send) .send fun r =>
    { r with current := r.current.push c, sent := r.sent + 1 }
  flush := guarded (fun r => reached r.flushed.length limits.flush) .flush fun r =>
    { r with current := "", flushed := r.current :: r.flushed }
  close := guarded (fun _ => limits.close) .close fun r => { r with closes := r.closes + 1 }
  remark line r := { r with remarks := line :: r.remarks }

end Recorder

end Mustache
