import Intake.Proofs.Stream.Own
import Intake.Service

/-!
# Sessions side by side

The sessions of a service take turns in any order, a request at each turn. Main statement: where
each default gives one value, every session comes to what it would come to alone, and the reports
are those of the sessions alone, interleaved.
-/

namespace Intake

/-! ## Numbered lists -/

section Numbered

variable {β γ : Type} {k : Nat}

/-- The items of a numbered list that have a number. -/
def part (k : Nat) (numbered : List (Nat × β)) : List β :=
  (numbered.filter fun a => a.1 = k).map Prod.snd

/-- A list is put together from parts, in each of which the order is kept. -/
def Interleaves (count : Nat) (parts : Nat → List β) (whole : List β) : Prop :=
  ∃ numbered : List (Nat × β), numbered.map Prod.snd = whole ∧
    (∀ a ∈ numbered, a.1 < count) ∧ ∀ k < count, part k numbered = parts k

theorem mem_part_iff {b : β} {numbered : List (Nat × β)} :
    b ∈ part k numbered ↔ (k, b) ∈ numbered := by
  simp [part]

theorem part_cons_self (b : β) (numbered : List (Nat × β)) :
    part k ((k, b) :: numbered) = b :: part k numbered := by
  simp [part]

theorem part_cons_of_ne {j : Nat} (h : j ≠ k) (b : β) (numbered : List (Nat × β)) :
    part k ((j, b) :: numbered) = part k numbered := by
  simp [part, h]

theorem part_append (l m : List (Nat × β)) : part k (l ++ m) = part k l ++ part k m := by
  rw [part, List.filter_append, List.map_append, ← part, ← part]

theorem part_map (j : Nat) (l : List β) :
    part k (l.map fun b => (j, b)) = if j = k then l else [] := by
  by_cases hj : j = k <;> simp [part, List.filter_map, Function.comp_def, hj]

/-- The parts of a list whose items are replaced by lists. -/
theorem part_flatMap (f : β → List γ) (numbered : List (Nat × β)) :
    part k (numbered.flatMap fun a => (f a.2).map fun c => (a.1, c)) =
      (part k numbered).flatMap f := by
  induction numbered with
  | nil => rfl
  | cons a rest ih =>
      obtain ⟨j, b⟩ := a
      rw [List.flatMap_cons, part_append, ih, part_map]
      by_cases hj : j = k
      · subst hj
        rw [part_cons_self, List.flatMap_cons, if_pos rfl]
      · rw [part_cons_of_ne hj, if_neg hj, List.nil_append]

/-- However parts are put together, each item is there as often as in all of them. -/
theorem Interleaves.perm {count : Nat} {parts : Nat → List β} {whole : List β}
    (h : Interleaves count parts whole) : whole.Perm ((List.range count).flatMap parts) := by
  obtain ⟨numbered, rfl, hlt, hparts⟩ := h
  induction count generalizing numbered with
  | zero =>
      cases numbered with
      | nil => exact .nil
      | cons a rest => exact absurd (hlt a List.mem_cons_self) (Nat.not_lt_zero _)
  | succ count ih =>
      have hlow := ih (numbered.filter (·.1 < count))
        (fun a ha => of_decide_eq_true (List.mem_filter.mp ha).2) fun k hk => by
          rw [← hparts k (Nat.lt_succ_of_lt hk), part, part, List.filter_filter]
          congr 2
          funext a
          by_cases ha : a.1 = k <;> simp [ha, hk]
      have hlast : (numbered.filter fun a => !decide (a.1 < count)).map Prod.snd = parts count := by
        rw [← hparts count (Nat.lt_succ_self count), part]
        congr 1
        refine List.filter_congr fun a ha => ?_
        have hle := hlt a ha
        by_cases hc : a.1 = count
        · simp [hc]
        · simp only [hc, decide_false, Bool.not_eq_false', decide_eq_true_eq]
          omega
      rw [List.range_succ, List.flatMap_append, List.flatMap_singleton, ← hlast]
      refine ((List.filter_append_perm (·.1 < count) numbered).map Prod.snd).symm.trans ?_
      rw [List.map_append]
      exact hlow.append_right _

end Numbered

/-! ## Turns -/

namespace Sessions

variable {α : Type} {s : Sessions} {k : Nat} {stream : Stream}

/-- Lets a session work off a job, if there is a session of this number. -/
def work (s : Sessions) (k : Nat) (job : Job α) : Option (Evaluation α) × Sessions :=
  match job.mode with
  | .evaluate => s.evaluate k job.raw job.plan.handler
  | .take _ =>
      match s.stream? k with
      | none => (none, s)
      | some stream => (some (stream.work job), s.settle k (stream.work job))

/-- What sessions come to that take turns. -/
def workAll (s : Sessions) : List (Nat × Job α) → List (Nat × Evaluation α) × Sessions
  | [] => ([], s)
  | (k, job) :: rest =>
      let (evaluation, s) := s.work k job
      let (evaluations, s) := s.workAll rest
      ((evaluation.toList.map fun v => (k, v)) ++ evaluations, s)

theorem work_of_none (h : s.streams[k]? = none) (job : Job α) : s.work k job = (none, s) := by
  have hnone : s.stream? k = none := by
    rw [stream?, h]
    rfl
  unfold work evaluate
  rw [hnone]
  cases job.mode <;> rfl

theorem work_of_some (h : s.streams[k]? = some stream) (job : Job α) :
    s.work k job = (some (Stream.work { stream with supplied := s.supplied } job),
      s.settle k (Stream.work { stream with supplied := s.supplied } job)) := by
  have hsome : s.stream? k = some { stream with supplied := s.supplied } := by
    rw [stream?, h]
    rfl
  obtain ⟨raw, plan, mode⟩ := job
  unfold work evaluate
  rw [hsome]
  cases mode <;> rfl

/-- A turn of one session leaves the streams of all others as they are. -/
theorem streams_work {j : Nat} (h : j ≠ k) (job : Job α) :
    (s.work j job).2.streams[k]? = s.streams[k]? := by
  cases hj : s.streams[j]? with
  | none => rw [work_of_none hj]
  | some other =>
      rw [work_of_some hj]
      exact List.getElem?_set_ne h

theorem streams_work_self (h : s.streams[k]? = some stream) (job : Job α) :
    (s.work k job).2.streams[k]? =
      some (Stream.work { stream with supplied := s.supplied } job).stream := by
  rw [work_of_some h]
  obtain ⟨hlt, _⟩ := List.getElem?_eq_some_iff.mp h
  exact List.getElem?_set_self hlt

theorem part_workAll_cons (j : Nat) (job : Job α) (rest : List (Nat × Job α)) :
    part k (s.workAll ((j, job) :: rest)).1 =
      (if j = k then (s.work j job).1.toList else []) ++
        part k ((s.work j job).2.workAll rest).1 := by
  rw [workAll, part_append, part_map]

theorem part_workAll (hk : s.streams[k]? = some stream) (hd : stream.endpoint.ConstantDefaults)
    {turns : List (Nat × Job α)} (hblind : ∀ turn ∈ turns, turn.2.plan.Blind) :
    (part k (s.workAll turns).1).map Evaluation.own =
        (stream.workAll (part k turns)).map Evaluation.own ∧
      ∃ after, (s.workAll turns).2.streams[k]? = some after ∧
        after.own = (stream.after (part k turns)).own := by
  induction turns generalizing s stream with
  | nil => exact ⟨rfl, stream, hk, rfl⟩
  | cons turn rest ih =>
      obtain ⟨j, job⟩ := turn
      rw [List.forall_mem_cons] at hblind
      rw [part_workAll_cons]
      by_cases hj : j = k
      · -- others may have added to the shared list, which is not the session's own
        subst hj
        have hstart : ({ stream with supplied := s.supplied } : Stream).own = stream.own := rfl
        have hwork := Stream.work_own hstart hd hblind.1
        have hstream := (congrArg Evaluation.stream hwork :)
        have hd' := (Stream.endpoint_work { stream with supplied := s.supplied } job).symm ▸ hd
        obtain ⟨hfirst, after, hafter, hown⟩ := ih (streams_work_self hk job) hd' hblind.2
        obtain ⟨hrest, hend⟩ := Stream.workAll_own hstream hd' fun job hjob =>
          hblind.2 _ (mem_part_iff.mp hjob)
        rw [part_cons_self]
        refine ⟨?_, after, hafter, hown.trans hend⟩
        rw [work_of_some hk] at hfirst ⊢
        rw [if_pos rfl, Option.toList_some, List.singleton_append, Stream.workAll, List.map_cons,
          List.map_cons, hwork, hfirst, hrest]
      · rw [if_neg hj, List.nil_append, part_cons_of_ne hj]
        exact ih ((streams_work hj job).trans hk) hd hblind.2

theorem reported_work (s : Sessions) (k : Nat) (job : Job α) :
    (s.work k job).2.reported =
      s.reported ++ (s.work k job).1.toList.flatMap Evaluation.reported := by
  cases hk : s.streams[k]? with
  | none => rw [work_of_none hk, Option.toList_none, List.flatMap_nil, List.append_nil]
  | some stream =>
      rw [work_of_some hk, Option.toList_some, List.flatMap_singleton]
      rfl

theorem reported_workAll (s : Sessions) (turns : List (Nat × Job α)) :
    (s.workAll turns).2.reported =
      s.reported ++ (s.workAll turns).1.flatMap fun a => a.2.reported := by
  induction turns generalizing s with
  | nil => exact (List.append_nil _).symm
  | cons turn rest ih =>
      obtain ⟨k, job⟩ := turn
      rw [workAll, ih, reported_work, List.flatMap_append, List.flatMap_map, List.append_assoc]

theorem length_work (s : Sessions) (k : Nat) (job : Job α) :
    (s.work k job).2.streams.length = s.streams.length := by
  cases hk : s.streams[k]? with
  | none => rw [work_of_none hk]
  | some stream =>
      rw [work_of_some hk]
      exact List.length_set

theorem lt_of_mem_workAll {turns : List (Nat × Job α)} {a : Nat × Evaluation α}
    (ha : a ∈ (s.workAll turns).1) : a.1 < s.streams.length := by
  induction turns generalizing s with
  | nil => cases ha
  | cons turn rest ih =>
      obtain ⟨k, job⟩ := turn
      rw [workAll, List.mem_append] at ha
      rcases ha with ha | ha
      · obtain ⟨v, hv, rfl⟩ := List.mem_map.mp ha
        cases hk : s.streams[k]? with
        | none =>
            rw [work_of_none hk] at hv
            cases hv
        | some stream => exact (List.getElem?_eq_some_iff.mp hk).1
      · exact s.length_work k job ▸ ih ha

/-- The sessions of a service come to what each comes to alone on a stream of the endpoint, in
whatever order their requests are handled, and so do the reports of each, which are interleaved.
What is shared, the list of defaults that gave a value, does not show. -/
theorem isolated_of_turns (v : Service) (hd : v.endpoint.ConstantDefaults) (count : Nat)
    (turns : List (Nat × Job α)) (hblind : ∀ turn ∈ turns, turn.2.plan.Blind) :
    (∀ k < count,
      (part k ((start v count).workAll turns).1).map Evaluation.own =
        (Stream.workAll { endpoint := v.endpoint } (part k turns)).map Evaluation.own ∧
      ∃ stream, ((start v count).workAll turns).2.streams[k]? = some stream ∧
        stream.own = (Stream.after { endpoint := v.endpoint } (part k turns)).own) ∧
    Interleaves count
      (fun k => (Stream.workAll { endpoint := v.endpoint } (part k turns)).flatMap
        Evaluation.reported)
      ((start v count).workAll turns).2.reported ∧
    ((start v count).workAll turns).2.reported.Perm
      ((List.range count).flatMap fun k =>
        (Stream.workAll { endpoint := v.endpoint } (part k turns)).flatMap
          Evaluation.reported) := by
  have hstart : ∀ k < count, (start v count).streams[k]? = some v.session := by
    intro k hk
    simp [start, hk]
  have halone := fun k hk => part_workAll (hstart k hk) hd hblind
  have hreported : ∀ l : List (Evaluation α),
      l.flatMap Evaluation.reported = (l.map Evaluation.own).flatMap Evaluation.reported := by
    intro l
    rw [List.flatMap_map]
    simp only [Evaluation.reported_own]
  have hinterleaves : Interleaves count
      (fun k => (Stream.workAll { endpoint := v.endpoint } (part k turns)).flatMap
        Evaluation.reported)
      ((start v count).workAll turns).2.reported := by
    refine ⟨((start v count).workAll turns).1.flatMap fun a => a.2.reported.map fun e => (a.1, e),
      ?_, ?_, ?_⟩
    · rw [reported_workAll, List.map_flatMap]
      simp [start, Function.comp_def]
    · intro b hb
      obtain ⟨a, ha, hab⟩ := List.mem_flatMap.mp hb
      obtain ⟨e, _, rfl⟩ := List.mem_map.mp hab
      have hlt := lt_of_mem_workAll ha
      rwa [start, List.length_replicate] at hlt
    · intro k hk
      rw [part_flatMap, hreported, (halone k hk).1, ← hreported]
      rfl
  exact ⟨halone, hinterleaves, hinterleaves.perm⟩

def resolving : Plan Unit :=
  .perform .resolveAll fun result => .stop (result.map fun _ => ())

theorem resolving_blind : resolving.Blind := by
  intro x c hc
  obtain rfl := List.mem_singleton.mp hc
  trivial

/-- A search for ten results, and another session whose second search is for one more. -/
def searchesInTurn : List (Nat × Job Unit) :=
  [(1, ⟨JsonRequest.raw { body := [("limit", .integer 10)] }, resolving, .evaluate⟩),
    (0, ⟨JsonRequest.raw { body := [("limit", .integer 10)] }, resolving, .take false⟩),
    (1, ⟨JsonRequest.raw { body := [("limit", .integer 11)] }, resolving, .evaluate⟩)]

/-- Only the other session fails. -/
theorem searchesInTurn_isolated :
    ∃ first second,
      ((start { endpoint := .search } 2).workAll searchesInTurn).2.streams[0]? = some first ∧
      ((start { endpoint := .search } 2).workAll searchesInTurn).2.streams[1]? = some second ∧
      first.constancy.failed = false ∧ second.constancy.failed = true := by
  obtain ⟨halone, _, _⟩ := isolated_of_turns { endpoint := .search }
    Endpoint.search_constantDefaults 2 searchesInTurn (by
      intro turn hturn
      simp only [searchesInTurn, List.mem_cons, List.not_mem_nil, or_false] at hturn
      rcases hturn with rfl | rfl | rfl <;> exact resolving_blind)
  obtain ⟨_, first, hfirst, hown⟩ := halone 0 (by decide)
  obtain ⟨_, second, hsecond, hown'⟩ := halone 1 (by decide)
  have hfailed : first.constancy.failed = false := (congrArg (·.constancy.failed) hown :)
  have hfailed' : second.constancy.failed = true := (congrArg (·.constancy.failed) hown' :)
  exact ⟨first, second, hfirst, hsecond, hfailed, hfailed'⟩

end Sessions

end Intake
