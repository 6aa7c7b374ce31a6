import Mathlib.Data.List.Forall2
import Intake.Proofs.Constancy.Course

/-!
# Failed steps leave no trace

Leaving out steps that failed changes nothing for the others. The two runs do not hold the same
tables, since a rolled back record stays as an empty one; they hold the same record for every id.
-/

namespace Intake.Constancy

/-- No later step can tell the two apart. -/
structure Alike (c d : Constancy) : Prop where
  failed_eq : c.failed = d.failed
  record_eq : ∀ id, c.record id = d.record id

/-- The same was done, with the same results, from and to states that are alike. -/
structure Trace.Alike (t u : Trace) : Prop where
  course_eq : t.course = u.course
  start : t.start.Alike u.start
  readings_eq : t.readings = u.readings
  finish : t.finish.Alike u.finish

theorem Alike.refl (c : Constancy) : c.Alike c := ⟨rfl, fun _ => rfl⟩

theorem Alike.fail {c d : Constancy} (h : c.Alike d) : c.fail.Alike d.fail :=
  ⟨rfl, fun id => h.record_eq id⟩

theorem Alike.begin {c d : Constancy} (h : c.Alike d) (hc : c.Orderly) (hd : d.Orderly) :
    c.begin.Alike d.begin := by
  refine ⟨hc.failed_begin.trans hd.failed_begin.symm, fun id => ?_⟩
  rw [hc.record_begin, hd.record_begin, h.record_eq, h.failed_eq]

theorem Alike.observe_fst {c d : Constancy} (h : c.Alike d) (p : Parameter)
    (given : Except Error Json) : (c.observe p given).1 = (d.observe p given).1 := by
  rw [Constancy.observe_fst, Constancy.observe_fst, h.record_eq]

theorem Alike.observe {c d : Constancy} (h : c.Alike d) (p : Parameter)
    (given : Except Error Json) : (c.observe p given).2.Alike (d.observe p given).2 := by
  constructor
  · rw [failed_observe, failed_observe, h.observe_fst, h.failed_eq]
  · intro id
    rw [record_observe, record_observe, h.observe_fst, h.record_eq]

theorem Alike.proceed {c d : Constancy} (h : c.Alike d) (events : List Event) :
    (c.proceed events).1 = (d.proceed events).1 ∧
      (c.proceed events).2.Alike (d.proceed events).2 := by
  induction events generalizing c d with
  | nil => exact ⟨rfl, h⟩
  | cons event rest ih =>
      cases event with
      | retrieve p given =>
          obtain ⟨hr, hs⟩ := ih (h.observe p given)
          simp only [Constancy.proceed]
          exact ⟨by rw [hr, h.observe_fst], hs⟩
      | noteFailure => exact ih h.fail

theorem Alike.follow {c d : Constancy} (h : c.begin.Alike d.begin) (course : Course) :
    (c.follow course).Alike (d.follow course) := by
  obtain ⟨hr, hs⟩ := h.proceed course.events
  refine ⟨rfl, h, hr, ?_⟩
  unfold Constancy.follow
  dsimp only
  split
  · exact hs.fail
  · exact hs

/-- After a failed step the next one begins as the failed one did. -/
theorem Orderly.begin_finish {c : Constancy} (h : c.Orderly) {course : Course}
    (hf : (c.follow course).finish.failed = true) : (c.follow course).finish.begin.Alike c.begin := by
  have ho := orderly_finish c course
  refine ⟨ho.failed_begin.trans h.failed_begin.symm, fun id => ?_⟩
  rw [ho.record_begin_eq, h.standing_finish, hf, h.record_begin_eq]
  rfl

/-! ## Leaving steps out -/

/-- What remains of a list without the entries at certain places. -/
def remaining {α : Type} (drop : Nat → Bool) : List α → List α
  | [] => []
  | x :: rest =>
      if drop 0 then remaining (fun k => drop (k + 1)) rest
      else x :: remaining (fun k => drop (k + 1)) rest

theorem Orderly.traces_remaining {c d : Constancy} (hc : c.Orderly) (hd : d.Orderly)
    (h : c.begin.Alike d.begin) (drop : Nat → Bool) (courses : List Course)
    (hf : ∀ k t, (c.traces courses)[k]? = some t → drop k = true → t.EndsFailed) :
    List.Forall₂ Trace.Alike (remaining drop (c.traces courses))
      (d.traces (remaining drop courses)) := by
  induction courses generalizing c d drop with
  | nil => exact .nil
  | cons course rest ih =>
      have ho := orderly_finish c course
      have hrest : ∀ k t, ((c.follow course).finish.traces rest)[k]? = some t →
          drop (k + 1) = true → t.EndsFailed := by
        intro k t ht hk
        exact hf (k + 1) t (by simpa [traces] using ht) hk
      cases h₀ : drop 0 with
      | true =>
          -- the other run stays where it is, alike to the state after the failed step
          have hends := hf 0 (c.follow course) (by simp [traces]) h₀
          have hfail := (hc.failed_finish course).mpr hends
          have hback := hc.begin_finish hfail
          have halike : (c.follow course).finish.begin.Alike d.begin :=
            ⟨hback.failed_eq.trans h.failed_eq,
              fun id => (hback.record_eq id).trans (h.record_eq id)⟩
          simpa [traces, remaining, h₀] using ih ho hd halike _ hrest
      | false =>
          have hfollow := h.follow course
          have hnext := hfollow.finish.begin ho (orderly_finish d course)
          have htail := ih ho (orderly_finish d course) hnext _ hrest
          simpa [traces, remaining, h₀] using And.intro hfollow htail

/-- A run without some of its failed steps: every other step has the same retrievals with the same
results, and the same flag and records at its start and its end. -/
theorem run_remaining (courses : List Course) (drop : Nat → Bool)
    (h : ∀ k t, (run courses)[k]? = some t → drop k = true → t.EndsFailed) :
    List.Forall₂ Trace.Alike (remaining drop (run courses)) (run (remaining drop courses)) :=
  Orderly.new.traces_remaining .new (.refl _) drop courses h

theorem limits_remaining :
    (∀ k t, (run limits)[k]? = some t → (k == 0) = true → t.EndsFailed) ∧
      List.Forall₂ Trace.Alike (remaining (· == 0) (run limits))
        (run (remaining (· == 0) limits)) := by
  have h : ∀ k t, (run limits)[k]? = some t → (k == 0) = true → t.EndsFailed := by
    intro k t ht hk
    obtain rfl : k = 0 := by simpa using hk
    cases ht
    exact Or.inr (Or.inl (List.mem_cons_of_mem _ List.mem_cons_self))
  exact ⟨h, run_remaining limits _ h⟩

end Intake.Constancy
