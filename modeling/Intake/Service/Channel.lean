import Intake.Service

/-!
# Channels

A task evaluates the requests of one stream in order and sends each result into a channel that holds
a limited number of them. While the channel is full the task waits with its result. The consumer
takes results in the order in which they were sent and may leave at any time; then the result that
the task waits with is lost and the task ends. Any order of moves is possible; `consume` lets task
and consumer take turns, each as far as it gets.
-/

namespace Intake

/-- A task, its channel and its consumer. -/
structure Channel (α : Type) where
  capacity : Nat
  stream : Stream
  /-- The requests that were not taken yet. -/
  pending : List RawRequest
  /-- Whether no request comes after the pending ones. -/
  inputEnds : Bool := true
  /-- The result that waits to be sent. -/
  waiting : Option (Except Error α) := none
  buffer : List (Except Error α) := []
  /-- What the consumer has taken. -/
  received : List (Except Error α) := []
  /-- Whether the consumer has left. -/
  dropped : Bool := false
  /-- Whether the task has ended. -/
  finished : Bool := false
  /-- The failures reported by the stream. -/
  reported : List Error := []

namespace Channel

variable {α : Type}

inductive Move where
  /-- The task evaluates a request. -/
  | evaluate
  /-- The task sends its result, or ends because there is nobody to send it to. -/
  | send
  /-- The task ends because no request comes any more or the consumer has left. -/
  | finish
  /-- The consumer takes a result. -/
  | receive
  /-- The consumer leaves. -/
  | drop
  deriving DecidableEq

def start (v : Service) (requests : List RawRequest) (inputEnds : Bool) : Channel α :=
  { capacity := v.capacity, stream := v.session, pending := requests, inputEnds }

/-- The channel after a move, if the move can be made. -/
def step? (handler : Handler α) (c : Channel α) : Move → Option (Channel α)
  | .evaluate =>
      match c.pending, c.waiting, c.finished with
      | raw :: rest, none, false =>
          let v := c.stream.evaluate raw handler
          some { c with
            stream := v.stream, pending := rest, waiting := some v.result
            reported := c.reported ++ v.reported }
      | _, _, _ => none
  | .send =>
      match c.waiting, c.finished with
      | some result, false =>
          if c.dropped then some { c with waiting := none, finished := true }
          else if c.buffer.length < c.capacity then
            some { c with waiting := none, buffer := c.buffer ++ [result] }
          else none
      | _, _ => none
  | .finish =>
      if c.waiting.isNone && !c.finished && (c.dropped || (c.pending.isEmpty && c.inputEnds)) then
        some { c with finished := true }
      else none
  | .receive =>
      match c.buffer, c.dropped with
      | result :: rest, false =>
          some { c with buffer := rest, received := c.received ++ [result] }
      | _, _ => none
  | .drop => if c.dropped then none else some { c with dropped := true, buffer := [] }

/-- The channel after a move, or as it is if the move cannot be made. -/
def attempt (handler : Handler α) (c : Channel α) (m : Move) : Channel α :=
  (c.step? handler m).getD c

/-! ## Turns -/

/-- Makes the moves that a strategy asks for, at most `moves` of them, until one cannot be made. -/
def run (handler : Handler α) (strategy : Channel α → Move) : Nat → Channel α → Channel α
  | 0, c => c
  | moves + 1, c =>
      match c.step? handler (strategy c) with
      | some c => run handler strategy moves c
      | none => c

def taskMove (c : Channel α) : Move :=
  if c.waiting.isSome then .send
  else if c.dropped || (c.pending.isEmpty && c.inputEnds) then .finish
  else .evaluate

/-- Lets the task run until it has to wait. Each request takes it two moves. -/
def advance (handler : Handler α) (c : Channel α) : Channel α :=
  run handler taskMove (2 * c.pending.length + 3) c

/-- Lets the consumer take a number of results, or as many as there are. -/
def receive (handler : Handler α) (count : Nat) (c : Channel α) : Channel α :=
  run handler (fun _ => .receive) count c

/-- Lets consumer and task alternate, the consumer first, at most `turns` times each, until the task
has ended and the consumer has taken everything. -/
def alternate (handler : Handler α) : Nat → Channel α → Channel α
  | 0, c => c
  | turns + 1, c =>
      let c := c.receive handler c.buffer.length
      if c.finished then c else alternate handler turns (c.advance handler)

/-- The channel after a consumer took everything. It takes a result at least at every other turn. -/
def consume (handler : Handler α) (c : Channel α) : Channel α :=
  alternate handler (2 * (c.pending.length + c.buffer.length) + 5) c

end Channel

end Intake
