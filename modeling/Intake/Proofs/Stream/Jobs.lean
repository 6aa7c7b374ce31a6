import Intake.Proofs.Stream.Reporting

/-!
# Sequences of requests

A job is a request with the plan that is let at it and the way in which the stream is driven. A
stream works off one job after the other. What an element keeps, and a likeness between elements,
go through a whole job.
-/

namespace Intake

variable {α : Type}

structure Job (α : Type) where
  raw : RawRequest
  plan : Plan α
  mode : Drive

/-- The plan together with what follows from its result, or with giving the element up. -/
def Job.handler (job : Job α) (index : Nat) : Handler α :=
  match job.mode with
  | .evaluate => job.plan.handler.settled index
  | .take abandoned => job.plan.handler.letGo abandoned

namespace Stream

def work (s : Stream) (job : Job α) : Evaluation α :=
  s.process job.raw job.plan.handler job.mode

def workAll (s : Stream) : List (Job α) → List (Evaluation α)
  | [] => []
  | job :: rest => s.work job :: (s.work job).stream.workAll rest

/-- The stream after some jobs. -/
def after (s : Stream) (jobs : List (Job α)) : Stream :=
  jobs.foldl (fun s job => (s.work job).stream) s

variable (s : Stream) (job : Job α) (jobs : List (Job α))

theorem after_append (more : List (Job α)) : s.after (jobs ++ more) = (s.after jobs).after more :=
  List.foldl_append

theorem getElem?_workAll (k : Nat) :
    (s.workAll jobs)[k]? = jobs[k]?.map (s.after (jobs.take k)).work := by
  induction jobs generalizing s k with
  | nil => rfl
  | cons job rest ih =>
      cases k with
      | zero => rfl
      | succ k => exact ih _ k

theorem work_eq_visit : s.work job = s.visit job.raw (job.handler s.received) := by
  unfold work process Job.handler
  cases job.mode <;> rfl

variable {s}

theorem work_of_open (ho : s.isOpen = true) (job : Job α) :
    s.work job = ⟨(job.handler s.received (s.element job.raw)).1,
      some (job.handler s.received (s.element job.raw)).2,
      (s.next job.raw).2.leave (job.handler s.received (s.element job.raw)).2⟩ := by
  rw [work_eq_visit, visit_of_open ho]

theorem work_of_closed (ho : s.isOpen = false) (job : Job α) :
    s.work job = ⟨.error s.refusal, none, { s with received := s.received + 1 }⟩ := by
  rw [work_eq_visit, visit_of_closed ho]

theorem endpoint_work (s : Stream) (job : Job α) : (s.work job).stream.endpoint = s.endpoint := by
  rw [work_eq_visit]
  exact s.endpoint_visit job.raw _

theorem endpoint_after (s : Stream) (jobs : List (Job α)) :
    (s.after jobs).endpoint = s.endpoint := by
  induction jobs generalizing s with
  | nil => rfl
  | cons job rest ih => exact (ih _).trans (s.endpoint_work job)

end Stream

/-! ## What goes through a job -/

namespace Element.Correspondence

variable {reads : Parameter → Prop} {like : Error → Error → Prop}
  {alike : Element → Element → Prop} (h : Correspondence reads like alike)
  (hplace : ∀ {e e'} (index : Nat), like e e' →
    like (e.withIndexIfNone index) (e'.withIndexIfNone index))
  (hreported : ∀ {x y}, alike x y → x.isReported = y.isReported)
  {x y : Element} {handler handler' : Handler α}

include h

include hplace hreported in
theorem settled (hmatching : Matching like alike (handler x) (handler' y)) (index : Nat) :
    Matching like alike (handler.settled index x) (handler'.settled index y) := by
  obtain ⟨hresult, hafter⟩ := hmatching
  unfold Handler.settled
  cases hx : handler x with
  | mk result x' =>
      cases hy : handler' y with
      | mk result' y' =>
          rw [hx, hy] at hresult hafter
          cases hresult with
          | ok a => exact ⟨.ok a, hafter⟩
          | error he =>
              have hnoted := h.noteFailure hafter
              refine ⟨.error (hplace index he), ?_⟩
              dsimp only
              rw [← hreported hnoted]
              split
              · exact hnoted
              · exact h.report (hplace index he) hnoted

theorem letGo (hmatching : Matching like alike (handler x) (handler' y)) (abandoned : Bool) :
    Matching like alike (handler.letGo abandoned x) (handler'.letGo abandoned y) := by
  obtain ⟨hresult, hafter⟩ := hmatching
  refine ⟨hresult, ?_⟩
  unfold Handler.letGo
  cases abandoned with
  | true => exact h.noteFailure hafter
  | false => exact hafter

include hplace hreported in
theorem job (hxy : alike x y) {job job' : Job α} (hmode : job.mode = job'.mode)
    (hfollows : job.plan.Follows like job'.plan)
    (hplan : ∀ c ∈ job.plan.calls x, c.action.Respects reads alike) (index : Nat) :
    Matching like alike (job.handler index x) (job'.handler index y) := by
  have hmatching := h.handler hfollows hxy hplan
  unfold Job.handler
  rw [← hmode]
  cases job.mode with
  | evaluate => exact h.settled hplace hreported hmatching index
  | take abandoned => exact h.letGo hmatching abandoned

end Element.Correspondence

theorem Element.Likeness.job {reads : Parameter → Prop} {alike : Element → Element → Prop}
    (h : Likeness reads alike) (hreported : ∀ {x y}, alike x y → x.isReported = y.isReported)
    {x y : Element} (hxy : alike x y) (job : Job α)
    (hplan : ∀ c ∈ job.plan.calls x, c.action.Respects reads alike) (index : Nat) :
    Same alike (job.handler index x) (job.handler index y) :=
  matching_eq_iff.mp (h.correspondence.job
    (fun index he => congrArg (Error.withIndexIfNone · index) he) hreported hxy rfl
    job.plan.follows_eq hplan index)

theorem Element.Stable.job {holds : Element → Prop} (h : Stable holds) {x : Element}
    (hx : holds x) (job : Job α) (index : Nat) : holds (job.handler index x).2 := by
  have hreported : ∀ {y z : Element}, (y = z ∧ holds y) → y.isReported = z.isReported :=
    fun hyz => congrArg isReported hyz.1
  obtain ⟨_, _, hafter⟩ := h.likeness.job hreported ⟨rfl, hx⟩ job
    (fun c _ => c.action.reads_all.respects holds) index
  exact hafter

end Intake
