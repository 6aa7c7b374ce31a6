import Intake.Proofs.Stream.Jobs

/-!
# Counting requests and steps

A stream counts the requests that come, and its check for constancy the steps that begin. A refused
request is counted, but it is no step. Main statement: each request has the place at which it came,
endpoints of a single-request pattern refuse every request but the first and keep what the first one
left, and other endpoints refuse none.
-/

namespace Intake.Stream

variable {α : Type} {e : Endpoint} {s : Stream}

/-- The steps of a stream of an endpoint are its requests, or at most one of them. -/
structure Counts (e : Endpoint) (s : Stream) : Prop where
  endpoint_eq : s.endpoint = e
  steps_eq : s.constancy.steps = if e.pattern.acceptsMany then s.received else min s.received 1

theorem Counts.new (e : Endpoint) : Counts e { endpoint := e } where
  endpoint_eq := rfl
  steps_eq := by
    split
    · rfl
    · rfl

theorem isOpen_iff (s : Stream) :
    s.isOpen = true ↔ s.received = 0 ∨ s.endpoint.pattern = .clientStream ∨
      s.endpoint.pattern = .bidirectional := by
  unfold isOpen
  cases s.endpoint.pattern <;> simp [Pattern.acceptsMany]

theorem received_work (s : Stream) (job : Job α) :
    (s.work job).stream.received = s.received + 1 := by
  rw [work_eq_visit]
  exact s.received_visit job.raw _

/-- An element keeps its place and is one step. -/
theorem stable_element (s : Stream) : Element.Stable fun x =>
    x.index = s.received ∧ x.constancy.steps = s.constancy.steps + 1 where
  fetch x p hx := by
    rw [Element.fetch_index, Element.fetch_constancy, Constancy.steps_observe]
    exact hx
  report x err hx := hx
  noteFailure x hx := hx

theorem index_of_open (ho : s.isOpen = true) (job : Job α) :
    ∃ x, (s.work job).element = some x ∧ x.index = s.received ∧
      (s.work job).stream.constancy.steps = s.constancy.steps + 1 := by
  have hstart : (s.element job.raw).index = s.received ∧
      (s.element job.raw).constancy.steps = s.constancy.steps + 1 :=
    ⟨rfl, Constancy.steps_begin _⟩
  obtain ⟨hindex, hsteps⟩ := s.stable_element.job hstart job s.received
  rw [work_of_open ho]
  exact ⟨_, rfl, hindex, hsteps⟩

theorem Counts.work (h : Counts e s) (job : Job α) : Counts e (s.work job).stream := by
  obtain ⟨rfl, hsteps⟩ := h
  refine ⟨endpoint_work s job, ?_⟩
  rw [received_work]
  cases ho : s.isOpen with
  | false =>
      have hclosed : s.received ≠ 0 ∧ s.endpoint.pattern.acceptsMany = false := by
        simpa [isOpen] using ho
      -- the count grows and the steps do not: there was a request, so the minimum is one already
      rw [work_of_closed ho]
      rw [hclosed.2] at hsteps ⊢
      simp only [Bool.false_eq_true, ↓reduceIte] at hsteps ⊢
      omega
  | true =>
      obtain ⟨x, _, _, hnext⟩ := index_of_open ho job
      have hopen : s.received = 0 ∨ s.endpoint.pattern.acceptsMany = true := by
        simpa [isOpen] using ho
      rw [hnext, hsteps]
      split
      · rfl
      · rename_i hsingle
        have hfirst := hopen.resolve_right hsingle
        omega

theorem Counts.after (h : Counts e s) (jobs : List (Job α)) :
    Counts e (s.after jobs) ∧ (s.after jobs).received = s.received + jobs.length := by
  induction jobs generalizing s with
  | nil => exact ⟨h, rfl⟩
  | cons job rest ih =>
      obtain ⟨hcounts, hreceived⟩ := ih (h.work job)
      refine ⟨hcounts, ?_⟩
      rw [received_work] at hreceived
      rw [List.length_cons, Nat.add_comm rest.length, ← Nat.add_assoc]
      exact hreceived

/-- A closed stream stays as it is, but for its count. -/
theorem after_of_closed (hp : s.endpoint.pattern.acceptsMany = false) (hs : 0 < s.received)
    (jobs : List (Job α)) : s.after jobs = { s with received := s.received + jobs.length } := by
  induction jobs generalizing s with
  | nil => rfl
  | cons job rest ih =>
      have ho : s.isOpen = false := by simp [isOpen, hp, Nat.pos_iff_ne_zero.mp hs]
      have hwork := congrArg Evaluation.stream (work_of_closed ho job)
      have hrest := @ih { s with received := s.received + 1 } hp (Nat.succ_pos _)
      refine (congrArg (Stream.after · rest) hwork).trans (hrest.trans ?_)
      rw [List.length_cons, Nat.add_comm rest.length, ← Nat.add_assoc]

theorem after_take_of_single (hp : e.pattern.acceptsMany = false) {jobs : List (Job α)} {k : Nat}
    (hk : 0 < k) (hlt : k < jobs.length) :
    after { endpoint := e } (jobs.take k) =
      { after { endpoint := e } (jobs.take 1) with received := k } := by
  obtain ⟨hfirst, hreceived⟩ := (Counts.new e).after (jobs.take 1)
  have hone : (after { endpoint := e } (jobs.take 1)).received = 1 := by
    rw [hreceived, List.length_take]
    show 0 + min 1 jobs.length = 1
    omega
  -- the jobs after the first one come to a closed stream
  have hsplit : jobs.take k = jobs.take 1 ++ (jobs.take k).drop 1 := by
    have happend := List.take_append_drop 1 (jobs.take k)
    rw [List.take_take, Nat.min_eq_left hk] at happend
    exact happend.symm
  have hcount : 1 + ((jobs.take k).drop 1).length = k := by
    rw [List.length_drop, List.length_take]
    omega
  rw [hsplit, after_append, after_of_closed (hfirst.endpoint_eq.symm ▸ hp) (by omega), hone, hcount]

/-- Whatever the requests and their handlers are and however the stream is driven, the request at a
place is counted and handled with this place. A single-request pattern refuses every request after
the first, for which no element comes to be and which leaves all as the first one left it; the
refusal does not depend on the request or its handler. A pattern of many requests refuses none. So
the steps of the stream are its requests, or at most one of them. -/
theorem counts_of_jobs (e : Endpoint) (jobs : List (Job α)) :
    (∀ (k : Nat) (v : Evaluation α), (workAll { endpoint := e } jobs)[k]? = some v →
      v.stream.received = k + 1 ∧
      (∀ x, v.element = some x → x.index = k) ∧
      (k = 0 ∨ e.pattern = .clientStream ∨ e.pattern = .bidirectional →
        v.element.isSome = true) ∧
      (0 < k → e.pattern = .requestResponse ∨ e.pattern = .serviceStream →
        v.element = none ∧
        (∃ err, v.result = .error err ∧ err.kind = .usage ∧ err.index = some k ∧
          v.reported = [err]) ∧
        (∀ job : Job α, (after { endpoint := e } (jobs.take k)).work job = v) ∧
        v.stream = { after { endpoint := e } (jobs.take 1) with received := k + 1 })) ∧
    (after { endpoint := e } jobs).received = jobs.length ∧
    (after { endpoint := e } jobs).constancy.steps =
      if e.pattern = .clientStream ∨ e.pattern = .bidirectional then jobs.length
      else min jobs.length 1 := by
  refine ⟨fun k v hv => ?_, ?_, ?_⟩
  · rw [getElem?_workAll] at hv
    obtain ⟨job, hjob, rfl⟩ := Option.map_eq_some_iff.mp hv
    have hlt : k < jobs.length := (List.getElem?_eq_some_iff.mp hjob).1
    obtain ⟨hcounts, hreceived⟩ := (Counts.new e).after (jobs.take k)
    have hk : (after { endpoint := e } (jobs.take k)).received = k := by
      rw [hreceived, List.length_take, Nat.min_eq_left (Nat.le_of_lt hlt)]
      exact Nat.zero_add k
    have hopen := isOpen_iff (after { endpoint := e } (jobs.take k))
    rw [hcounts.endpoint_eq, hk] at hopen
    refine ⟨by rw [received_work, hk], ?_, ?_, ?_⟩
    · intro x hx
      cases ho : (after { endpoint := e } (jobs.take k)).isOpen with
      | false =>
          rw [work_of_closed ho] at hx
          cases hx
      | true =>
          obtain ⟨y, hy, hindex, _⟩ := index_of_open ho job
          rw [hx] at hy
          cases hy
          exact hindex.trans hk
    · intro hmany
      obtain ⟨y, hy, _⟩ := index_of_open (hopen.mpr hmany) job
      rw [hy]
      rfl
    · intro hpos hsingle
      have hclosed : (after { endpoint := e } (jobs.take k)).isOpen = false := by
        rw [← Bool.not_eq_true, hopen]
        rcases hsingle with hp | hp <;> simp [hp, Nat.pos_iff_ne_zero.mp hpos]
      have hp : e.pattern.acceptsMany = false := by
        rcases hsingle with hp | hp <;> rw [hp] <;> rfl
      have hrefused := fun job : Job α => work_of_closed hclosed job
      rw [hrefused job]
      refine ⟨rfl, ⟨_, rfl, rfl, congrArg some hk, rfl⟩, hrefused, ?_⟩
      rw [after_take_of_single hp hpos hlt]
  · exact ((Counts.new e).after jobs).2.trans (Nat.zero_add _)
  · obtain ⟨hcounts, hreceived⟩ := (Counts.new e).after jobs
    rw [hcounts.steps_eq, hreceived]
    cases e.pattern <;> simp [Pattern.acceptsMany]

/-- Gives the first request up and evaluates two more. -/
def insistence : List (Job Unit) :=
  [⟨JsonRequest.raw { body := [] }, insistent, .take true⟩,
    ⟨JsonRequest.raw { body := [] }, insistent, .evaluate⟩,
    ⟨JsonRequest.raw { body := [] }, .stop (.ok ()), .evaluate⟩]

/-- The last request would need no parameter and is refused: it is the third, after one failed
step. -/
theorem insistence_refused :
    ∃ v, (workAll { endpoint := { Endpoint.search with pattern := .serviceStream } }
        insistence)[2]? = some v ∧
      v.element = none ∧ v.stream.received = 3 ∧ v.stream.constancy.failed = true ∧
      v.stream.constancy.steps = 1 := by
  obtain ⟨hreceived, _, _, hrefused⟩ :=
    (counts_of_jobs { Endpoint.search with pattern := .serviceStream } insistence).1 2 _ rfl
  obtain ⟨hnone, _, _, hstream⟩ := hrefused (by decide) (.inr rfl)
  refine ⟨_, rfl, hnone, hreceived, ?_⟩
  rw [hstream]
  exact ⟨rfl, rfl⟩

end Intake.Stream
