import Intake.Proofs.Constancy.Observation
import Intake.Proofs.Endpoint.Registry

/-!
# Runs of the check for constancy

A run is a sequence of steps. The course of a step lists what is done in it: parameters are
retrieved, each with what the request below gives for it at that moment, failures are noted, and in
the end the step may be given up. A trace tells what came of a course. Main statement: what stands
after a step is what stood before it, together with what the step fixed unless it failed.
-/

namespace Intake.Constancy

inductive Event where
  /-- A parameter is retrieved, for which the request below gives a value or fails. -/
  | retrieve (p : Parameter) (given : Except Error Json)
  | noteFailure

/-- All that is done in a step. -/
structure Course where
  events : List Event
  abandoned : Bool := false

/-- A retrieval: what the request below gave, and what came of it. -/
structure Reading where
  parameter : Parameter
  given : Except Error Json
  result : Except Error Json

/-- What came of a course: the check when the step had begun, the retrievals in their order and the
check in the end. -/
structure Trace where
  course : Course
  start : Constancy
  readings : List Reading
  finish : Constancy

/-- Does one thing after the other in the current step. -/
def proceed (c : Constancy) : List Event → List Reading × Constancy
  | [] => ([], c)
  | .retrieve p given :: rest =>
      let (result, c) := c.observe p given
      let (readings, c) := c.proceed rest
      (⟨p, given, result⟩ :: readings, c)
  | .noteFailure :: rest => c.fail.proceed rest

/-- Begins the next step and goes through its course. -/
def follow (c : Constancy) (course : Course) : Trace :=
  let (readings, d) := c.begin.proceed course.events
  { course, start := c.begin, readings, finish := if course.abandoned then d.fail else d }

def traces (c : Constancy) : List Course → List Trace
  | [] => []
  | course :: rest => c.follow course :: (c.follow course).finish.traces rest

/-- A whole run, from the beginning of a stream. -/
abbrev run (courses : List Course) : List Trace := traces {} courses

/-- A step failed if a retrieval in it failed, a failure was noted or it was given up. -/
def Trace.EndsFailed (t : Trace) : Prop :=
  (∃ r ∈ t.readings, ∃ e, r.result = .error e) ∨ .noteFailure ∈ t.course.events ∨
    t.course.abandoned = true

/-- The value that retrievals fix an id to that was free: the first that is on offer. -/
def accepted (readings : List Reading) (id : ParameterId) : Option Json :=
  readings.findSome? fun r => offer r.parameter r.result id

/-! ## Courses -/

theorem accepted_cons (r : Reading) (readings : List Reading) (id : ParameterId) :
    accepted (r :: readings) id = (offer r.parameter r.result id).or (accepted readings id) := by
  unfold accepted
  rw [List.findSome?_cons]
  cases offer r.parameter r.result id <;> rfl

theorem record_proceed (c : Constancy) (events : List Event) (id : ParameterId) :
    (c.proceed events).2.record id =
      { c.record id with last := (c.record id).last.or (accepted (c.proceed events).1 id) } := by
  induction events generalizing c with
  | nil => simp [proceed, accepted]
  | cons event rest ih =>
      cases event with
      | retrieve p given =>
          simp only [proceed, accepted_cons]
          rw [ih, record_observe, Option.or_assoc]
      | noteFailure => simpa only [proceed, record_fail] using ih c.fail

theorem steps_proceed (c : Constancy) (events : List Event) :
    (c.proceed events).2.steps = c.steps := by
  induction events generalizing c with
  | nil => rfl
  | cons event rest ih =>
      cases event with
      | retrieve p given => simp only [proceed]; rw [ih, steps_observe]
      | noteFailure => exact ih c.fail

theorem failed_proceed (c : Constancy) (events : List Event) :
    (c.proceed events).2.failed = true ↔ c.failed = true ∨
      (∃ r ∈ (c.proceed events).1, ∃ e, r.result = .error e) ∨ .noteFailure ∈ events := by
  induction events generalizing c with
  | nil => simp [proceed]
  | cons event rest ih =>
      cases event with
      | retrieve p given =>
          simp only [proceed]
          rw [ih, failed_observe]
          cases (c.observe p given).1 with
          | ok v => simp [Except.isOk, Except.toBool]
          | error e => simp [Except.isOk, Except.toBool]
      | noteFailure =>
          simp only [proceed]
          rw [ih]
          simp

theorem steps_finish (c : Constancy) (course : Course) :
    (c.follow course).finish.steps = c.steps + 1 := by
  unfold follow
  dsimp only
  split
  · rw [steps_fail, steps_proceed, steps_begin]
  · rw [steps_proceed, steps_begin]

theorem orderly_finish (c : Constancy) (course : Course) : (c.follow course).finish.Orderly :=
  .of_steps (by rw [steps_finish]; omega)

theorem Orderly.failed_finish {c : Constancy} (h : c.Orderly) (course : Course) :
    (c.follow course).finish.failed = true ↔ (c.follow course).EndsFailed := by
  have hp := failed_proceed c.begin course.events
  rw [h.failed_begin] at hp
  unfold follow Trace.EndsFailed
  dsimp only
  cases ha : course.abandoned with
  | true => simp
  | false => simpa [ha] using hp

theorem Orderly.record_finish {c : Constancy} (h : c.Orderly) (course : Course)
    (id : ParameterId) :
    (c.follow course).finish.record id =
      ⟨c.standing id, (c.standing id).or (accepted (c.follow course).readings id)⟩ := by
  have hp := record_proceed c.begin course.events id
  rw [h.record_begin_eq] at hp
  unfold follow
  dsimp only
  split
  · exact hp
  · exact hp

/-- A failed step leaves what stood before it; any other adds what it fixed. -/
theorem Orderly.standing_finish {c : Constancy} (h : c.Orderly) (course : Course)
    (id : ParameterId) :
    (c.follow course).finish.standing id =
      if (c.follow course).finish.failed then c.standing id
      else (c.standing id).or (accepted (c.follow course).readings id) := by
  rw [(orderly_finish c course).standing_eq, h.record_finish]

/-! ## A run -/

/-- The first step is noted to have failed after it was given a value. -/
def limits : List Course :=
  [⟨[.retrieve .limit (.ok (.integer 5)), .noteFailure], false⟩,
    ⟨[.retrieve .limit (.ok (.integer 7))], false⟩,
    ⟨[.retrieve .limit (.ok (.integer 5))], false⟩]

end Intake.Constancy
