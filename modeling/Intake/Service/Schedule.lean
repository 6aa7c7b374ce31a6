import Intake.Service.Channel

/-!
# Streams side by side

The streams of one service share the list of defaults that gave a value, so the order in which their
requests are evaluated can show. A schedule fixes it. The tasks that can go on stand in a queue and
take turns. A task that has to wait leaves the queue until the consumer makes room for its result or
leaves; one that has taken many requests steps back to the end of the queue. One consumer takes
results from one stream after the other. It gets a go when no task can go on, or else after a number
of turns, if there is anything new for it.
-/

namespace Intake

variable {α : Type}

/-! ## Turns of a task -/

structure Worker (α : Type) where
  channel : Channel α
  /-- How often it may look for a request before it steps back. -/
  left : Nat

namespace Worker

/-- How often a task looks for a request before it steps back. -/
def stamina : Nat := 32

/-- Lets a task go on that may still look for `left` requests, until it has to wait, has ended or
steps back. Also gives how often it may look for requests afterwards, or nothing if it stepped
back. -/
def work (handler : Handler α) : Nat → Channel α → Channel α × Option Nat
  | 0, c =>
      let c := c.attempt handler .send
      if c.waiting.isSome || c.finished then (c, some 0)
      else if c.dropped then (c.attempt handler .finish, some 0)
      else (c, none)
  | left + 1, c =>
      let c := c.attempt handler .send
      if c.waiting.isSome || c.finished then (c, some (left + 1))
      else if c.dropped || c.pending.isEmpty then (c.attempt handler .finish, some left)
      else work handler left (c.attempt handler .evaluate)

/-- A turn of a task, which knows what defaults have given a value. Also says whether the task
stepped back. -/
def turn (handler : Handler α) (supplied : List ParameterId) (w : Worker α) : Worker α × Bool :=
  let c := { w.channel with stream := { w.channel.stream with supplied } }
  let (c, left) := work handler w.left c
  ({ channel := c, left := left.getD stamina }, left.isNone)

end Worker

/-! ## Goes of the consumer -/

/-- How far a go of the consumer along the tasks came. -/
structure Go (α : Type) where
  workers : List (Worker α)
  /-- The tasks that can go on because of it, in order. -/
  roused : List Nat := []
  /-- The task that the consumer is at. -/
  position : Nat
  /-- Whether the consumer can go on at once. -/
  ready : Bool := false

namespace Go

/-- How many results a consumer takes at one go; that it sees the end of a stream counts as one. -/
def reach : Nat := 128

/-- How many results a consumer takes from a channel if it may take `left`. -/
def takeable (wanted : Option Nat) (left : Nat) (c : Channel α) : Nat :=
  min left (match wanted with
    | none => c.buffer.length
    | some n => min c.buffer.length (n - c.received.length))

/-- A go that came to a task before the others. -/
def after (w : Worker α) (roused : List Nat) (g : Go α) : Go α :=
  { g with workers := w :: g.workers, roused := roused ++ g.roused }

/-- Lets a consumer that may take `left` results go along tasks, the first of which has number
`k`. It leaves a channel when it has what it wants from it. -/
def along (handler : Handler α) (wanted : Option Nat) : Nat → Nat → List (Worker α) → Go α
  | _, k, [] => { workers := [], position := k }
  | left, k, w :: rest =>
      let count := takeable wanted left w.channel
      let c := w.channel.receive handler count
      let w := { w with channel := c }
      let roused := if 0 < count && c.waiting.isSome then [k] else []
      if wanted = some c.received.length then
        (along handler wanted (left - count) (k + 1) rest).after
          { w with channel := c.attempt handler .drop } [k]
      else if left ≤ count then { workers := w :: rest, roused, position := k, ready := true }
      else if c.finished then
        (along handler wanted (left - count - 1) (k + 1) rest).after w roused
      else { workers := w :: rest, roused, position := k }

end Go

/-! ## Schedules -/

structure Schedule (α : Type) where
  workers : List (Worker α)
  /-- The defaults that have given a value. -/
  supplied : List ParameterId := []
  /-- The numbers of the tasks that can go on, in the order of their turns. -/
  queue : List Nat
  /-- The number of the task that the consumer is at. -/
  position : Nat := 0
  /-- Whether there is anything new for the consumer. -/
  ready : Bool := true

namespace Schedule

/-- The turns of tasks between two goes of the consumer, unless no task can go on before. -/
def interval : Nat := 61

/-- The tasks of streams at their start. A consumer that wants a certain number of results meets
streams that do not end. -/
def start (v : Service) (wanted : Option Nat) (streams : List (List RawRequest)) : Schedule α where
  workers := streams.map fun requests =>
    { channel := Channel.start v requests wanted.isNone, left := Worker.stamina }
  queue := List.range streams.length

/-- Whether the consumer is through. -/
def isOver (s : Schedule α) : Bool := s.workers.length ≤ s.position

/-- Lets the task at the head of the queue have its turn. -/
def turn (handler : Handler α) (s : Schedule α) : Schedule α :=
  match s.queue with
  | [] => s
  | k :: queue =>
      match s.workers[k]? with
      | none => { s with queue }
      | some w =>
          let (w, steppedBack) := w.turn handler s.supplied
          let isNews := k == s.position && (!w.channel.buffer.isEmpty || w.channel.finished)
          { s with
            workers := s.workers.set k w
            supplied := w.channel.stream.supplied
            queue := if steppedBack then queue ++ [k] else queue
            ready := s.ready || isNews }

def go (handler : Handler α) (wanted : Option Nat) (s : Schedule α) : Schedule α :=
  let g := Go.along handler wanted Go.reach s.position (s.workers.drop s.position)
  { s with
    workers := s.workers.take s.position ++ g.workers
    queue := s.queue ++ g.roused.filter fun k => !s.queue.contains k
    position := g.position
    ready := g.ready }

/-- A go of the consumer, if there is anything new for it, and the turns up to the next one. -/
def cycle (handler : Handler α) (wanted : Option Nat) (s : Schedule α) : Schedule α :=
  let s := if s.ready then s.go handler wanted else s
  if s.isOver then s else Nat.repeat (turn handler) interval s

/-- The number of cycles after which a schedule is over. In every cycle before, a task has a turn or
the consumer has a go. In a turn a task evaluates a request, sends a result, finds that no request
comes or ends. At every other go at least the consumer takes a result or sees the end of a
stream. -/
def cyclesNeeded (s : Schedule α) : Nat :=
  s.workers.foldl (fun n w => n + 4 * w.channel.pending.length + 6) 1

def run (handler : Handler α) (wanted : Option Nat) (s : Schedule α) : Schedule α :=
  Nat.repeat (cycle handler wanted) s.cyclesNeeded s

end Schedule

/-- The channels of streams from each of which a consumer took what it wanted, or else
everything. -/
def Service.consume (v : Service) (handler : Handler α) (wanted : Option Nat)
    (streams : List (List RawRequest)) : List (Channel α) :=
  ((Schedule.start v wanted streams).run handler wanted).workers.map Worker.channel

end Intake
