/-!
Sinks of characters. A sink is a state machine: it is asked whether it is ready, gets a character,
is flushed or closed, and each of these calls succeeds or fails and may change its state.
-/
namespace Mustache

/-- Calls on a sink with states `σ` and errors `ε`. -/
abbrev SinkM (σ ε : Type) := EStateM ε σ

/-- A destination of characters. -/
structure Sink (σ ε : Type) where
  ready : SinkM σ ε Unit
  send : Char → SinkM σ ε Unit
  flush : SinkM σ ε Unit
  close : SinkM σ ε Unit
  /-- Takes note of what a partial remarks. -/
  remark : String → σ → σ := fun _ state => state

/-- The only thing a partial learns about a failure of its sink. -/
structure SinkFailed where
deriving DecidableEq, Repr

namespace Sink

variable {σ ε : Type}

/-- Waits until a sink is ready and sends a character. -/
def feed (sink : Sink σ ε) (c : Char) : SinkM σ ε Unit := do
  sink.ready
  sink.send c

/-- A call whose first error is kept aside. -/
def keep (call : SinkM σ ε Unit) : SinkM (σ × Option ε) SinkFailed Unit := fun state =>
  match call state.1 with
  | .ok _ next => .ok () (next, state.2)
  | .error e next => .error ⟨⟩ (next, state.2.or (some e))

/-- A sink as it is handed to a partial: calls go to the sink itself, and its first error is kept
for the renderer to return. -/
def forward (sink : Sink σ ε) : Sink (σ × Option ε) SinkFailed where
  ready := keep sink.ready
  send c := keep (sink.send c)
  flush := keep sink.flush
  close := keep sink.close
  remark line state := (sink.remark line state.1, state.2)

/-- A sink that appends to a text and never fails. -/
def string : Sink String Empty where
  ready := pure ()
  send c := modify (·.push c)
  flush := pure ()
  close := pure ()

end Sink

end Mustache
