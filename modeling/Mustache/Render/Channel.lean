import Mustache.Render.Sink
/-!
A sink that passes characters on without limit until it is closed.
-/
namespace Mustache

/-- The channel has been closed. -/
structure ChannelClosed where
deriving DecidableEq, Repr

/-- What has been passed on. -/
structure Channel where
  passed : String := ""
  isClosed : Bool := false
  /-- What partials remarked, last first. -/
  remarks : List String := []
deriving Repr

namespace Channel

/-- A call that needs an open channel. -/
def whenOpen (change : Channel → Channel) : SinkM Channel ChannelClosed Unit := fun c =>
  if c.isClosed then .error ⟨⟩ c else .ok () (change c)

/-- The sink of a channel. Flushing does nothing, and a channel can be closed more than once. -/
def sink : Sink Channel ChannelClosed where
  ready := whenOpen id
  send x := whenOpen fun c => { c with passed := c.passed.push x }
  flush := pure ()
  close := modify fun c => { c with isClosed := true }
  remark line c := { c with remarks := line :: c.remarks }

end Channel

end Mustache
