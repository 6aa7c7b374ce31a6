import Intake.Proofs.Element.Findings
import Intake.Proofs.Element.Plan
import Intake.Proofs.Endpoint.Registry
import Intake.Proofs.Stream.Reachable

/-!
# What is reported

A failing retrieval is reported at once, also that under a typed reading, and a failing reading of
all parameters once. Conversions, undeclared names and failures of the handler are not reported
where they happen; an evaluation reports the failure of its handler if nothing of the element was
reported. Main statement: the reports of one request are exactly these, in their order.
-/

namespace Intake

/-- The failure that something came to, if it did. -/
def failures {β : Type} : Except Error β → List Error
  | .ok _ => []
  | .error e => [e]

namespace Call

/-- The failures that are reported while a call is made. Of a typed reading it is that of the
retrieval under it. -/
def reports (c : Call) : List Error :=
  match c.action with
  | .resolveAll => failures c.element.resolveAll.1
  | .named name =>
      if (c.element.endpoint.named? name).isSome then failures (c.element.retrieveNamed name).1
      else []
  | .value p => failures (c.element.retrieve p).1
  | .typed name _ =>
      match c.element.endpoint.named? name with
      | some p => failures (c.element.retrieve p).1
      | none => []
  | .converted p _ => failures (c.element.retrieve p).1
  | .noteFailure => []
  | .fail _ => []
  | .look _ => []

end Call

namespace Element

/-! ## Single calls -/

@[simp] theorem fetch_reported (x : Element) (p : Parameter) :
    (x.fetch p).2.reported = x.reported := by
  unfold fetch
  dsimp only
  split <;> rfl

theorem retrieve_reported (x : Element) (p : Parameter) :
    (x.retrieve p).2.reported = x.reported ++ failures (x.retrieve p).1 := by
  have h := x.fetch_reported p
  unfold retrieve
  cases hf : x.fetch p with
  | mk result y =>
      rw [hf] at h
      cases result with
      | ok v => simpa [failures] using h
      | error e => exact congrArg (· ++ [e]) h

theorem retrieveAs_reported (x : Element) (p : Parameter) (convert : Json → Except String Json) :
    (x.retrieveAs p convert).2.reported = (x.retrieve p).2.reported := by
  unfold retrieveAs
  cases x.retrieve p with
  | mk result y =>
      cases result with
      | error e => rfl
      | ok v =>
          dsimp only
          cases convert v <;> rfl

theorem fetchAll_reported (f : Findings) (x : Element) (ps : List Parameter) :
    (fetchAll f x ps).2.reported = x.reported := by
  induction ps generalizing f x with
  | nil => rfl
  | cons p rest ih => exact (ih _ _).trans (x.fetch_reported p)

theorem resolveAll_reported (x : Element) :
    x.resolveAll.2.reported = x.reported ++ failures x.resolveAll.1 := by
  have h := fetchAll_reported {} x x.endpoint.parameters
  unfold resolveAll
  cases hf : fetchAll {} x x.endpoint.parameters with
  | mk findings y =>
      rw [hf] at h
      dsimp only
      cases findings.verdict with
      | ok values => simpa [failures] using h
      | error e => exact congrArg (· ++ [e]) h

/-- The step lemma: one case for each action. -/
theorem perform_reported (x : Element) (action : Action) :
    (x.perform action).2.reported = x.reported ++ Call.reports ⟨x, action⟩ := by
  cases action with
  | resolveAll =>
      have h := x.resolveAll_reported
      simp only [perform, Call.reports]
      cases hr : x.resolveAll with
      | mk result y =>
          rw [hr] at h
          cases result <;> exact h
  | named name =>
      simp only [perform, Call.reports, retrieveNamed]
      cases x.endpoint.named? name with
      | none => simp
      | some p => exact x.retrieve_reported p
  | value p => exact x.retrieve_reported p
  | typed name type =>
      simp only [perform, Call.reports, retrieveTyped, Endpoint.handle]
      cases x.endpoint.named? name with
      | none => simp
      | some p => exact (x.retrieveAs_reported p type.convert).trans (x.retrieve_reported p)
  | converted p convert => exact (x.retrieveAs_reported p convert).trans (x.retrieve_reported p)
  | noteFailure => exact (List.append_nil _).symm
  | fail e => exact (List.append_nil _).symm
  | look view => exact (List.append_nil _).symm

end Element

theorem failures_eq {β : Type} (result : Except Error β) :
    failures result = [] ∨ ∃ e, result = .error e ∧ failures result = [e] := by
  cases result with
  | ok b => exact Or.inl rfl
  | error e => exact Or.inr ⟨e, rfl, rfl⟩

theorem Element.retrieveAs_of_error {x : Element} {p : Parameter} {e : Error}
    (h : (x.retrieve p).1 = .error e) (convert : Json → Except String Json) :
    (x.retrieveAs p convert).1 = .error e := by
  unfold retrieveAs
  cases hr : x.retrieve p with
  | mk result y =>
      rw [hr] at h
      dsimp only at h
      subst h
      rfl

theorem Element.failures_retrieveAs (x : Element) (p : Parameter)
    (convert : Json → Except String Json) :
    failures (x.retrieve p).1 = [] ∨
      ∃ e, (x.retrieveAs p convert).1 = .error e ∧ failures (x.retrieve p).1 = [e] := by
  rcases failures_eq (x.retrieve p).1 with h | ⟨e, he, hf⟩
  · exact Or.inl h
  · exact Or.inr ⟨e, retrieveAs_of_error he convert, hf⟩

/-- A call reports nothing, or else just the failure that it comes to. -/
theorem Call.reports_eq (c : Call) :
    c.reports = [] ∨ ∃ e, c.result = .error e ∧ c.reports = [e] := by
  obtain ⟨x, action⟩ := c
  cases action with
  | resolveAll =>
      simp only [reports, result, Element.perform]
      cases x.resolveAll with
      | mk result y =>
          cases result with
          | ok values => exact Or.inl rfl
          | error e => exact Or.inr ⟨e, rfl, rfl⟩
  | named name =>
      simp only [reports, result, Element.perform]
      split
      · exact failures_eq _
      · exact Or.inl rfl
  | value p => exact failures_eq _
  | typed name type =>
      simp only [reports, result, Element.perform, Element.retrieveTyped, Endpoint.handle]
      cases x.endpoint.named? name with
      | none => exact Or.inl rfl
      | some p => exact x.failures_retrieveAs p type.convert
  | converted p convert => exact x.failures_retrieveAs p convert
  | noteFailure => exact Or.inl rfl
  | fail e => exact Or.inl rfl
  | look view => exact Or.inl rfl

/-! ## The place of a report -/

namespace Element

theorem index_of_fetch {x : Element} {p : Parameter} {e : Error} (h : (x.fetch p).1 = .error e) :
    e.index = some x.index := by
  rw [fetch_fst] at h
  cases ho : (x.constancy.observe p (x.given p)).1 with
  | ok v => rw [ho] at h; cases h
  | error err =>
      rw [ho] at h
      cases h
      rfl

theorem index_of_answers {x : Element} {ps : List Parameter} {a : Parameter × Except Error Json}
    (ha : a ∈ x.answers ps) {e : Error} (h : a.2 = .error e) : e.index = some x.index := by
  induction ps generalizing x with
  | nil => cases ha
  | cons p rest ih =>
      rcases List.mem_cons.mp ha with rfl | ha
      · exact index_of_fetch h
      · rw [← x.fetch_index p]
        exact ih ha

/-- A failing reading of all parameters comes to the failure of one of them. -/
theorem exists_answer_of_resolveAll {x : Element} {e : Error} (h : x.resolveAll.1 = .error e) :
    ∃ p, (p, .error e) ∈ x.answers x.endpoint.parameters := by
  rw [resolveAll_fst] at h
  cases hr : rejection? (x.answers x.endpoint.parameters) with
  | none => rw [hr] at h; cases h
  | some err =>
      rw [hr] at h
      obtain rfl : err = e := by simpa using h
      have hmem : ∃ decoded, ∃ a ∈ x.answers x.endpoint.parameters,
          failure? decoded a.2 = some err := by
        rcases Option.or_eq_some_iff.mp hr with hv | ⟨_, hs⟩
        · exact ⟨false, List.exists_of_findSome?_eq_some hv⟩
        · exact ⟨true, List.exists_of_findSome?_eq_some hs⟩
      obtain ⟨decoded, ⟨p, result⟩, ha, hf⟩ := hmem
      cases result with
      | ok v => cases hf
      | error err' =>
          rw [failure?_error] at hf
          split at hf
          · cases hf
            exact ⟨p, ha⟩
          · cases hf

theorem index_of_resolveAll {x : Element} {e : Error} (h : x.resolveAll.1 = .error e) :
    e.index = some x.index := by
  obtain ⟨p, ha⟩ := exists_answer_of_resolveAll h
  exact index_of_answers ha rfl

end Element

/-- Whatever a call reports is what a reading of all parameters comes to, or a retrieval of one that
the action reads. -/
theorem Call.cases_of_reports {c : Call} {e : Error} (h : e ∈ c.reports) :
    c.element.resolveAll.1 = .error e ∨
      ∃ p, (c.element.fetch p).1 = .error e ∧ ∀ reads : Parameter → Prop,
        (∀ q ∈ c.element.endpoint.parameters, reads q) → c.action.Reads reads → reads p := by
  have hfailed {β : Type} {result : Except Error β} (he : e ∈ failures result) :
      result = .error e := by
    cases result with
    | ok b => cases he
    | error err => rw [List.mem_singleton.mp he]
  have hfetch {x : Element} {p : Parameter} (he : e ∈ failures (x.retrieve p).1) :
      (x.fetch p).1 = .error e := (x.retrieve_fst p).symm.trans (hfailed he)
  obtain ⟨x, action⟩ := c
  cases action with
  | resolveAll => exact .inl (hfailed h)
  | named name =>
      simp only [reports, Element.retrieveNamed] at h
      cases hn : x.endpoint.named? name with
      | none => simp [hn] at h
      | some p =>
          refine .inr ⟨p, hfetch (by simpa [hn] using h), fun _ hdeclared _ => ?_⟩
          exact hdeclared p (List.mem_of_find?_eq_some hn)
  | value p => exact .inr ⟨p, hfetch h, fun _ _ hp => hp⟩
  | typed name type =>
      simp only [reports] at h
      cases hn : x.endpoint.named? name with
      | none => simp [hn] at h
      | some p =>
          refine .inr ⟨p, hfetch (by simpa [hn] using h), fun _ hdeclared _ => ?_⟩
          exact hdeclared p (List.mem_of_find?_eq_some hn)
  | converted p convert => exact .inr ⟨p, hfetch h, fun _ _ hp => hp⟩
  | noteFailure => cases h
  | fail err => cases h
  | look view => cases h

/-- Whatever a call reports is about the place of its element. -/
theorem Call.index_of_reports {c : Call} {e : Error} (h : e ∈ c.reports) :
    e.index = some c.element.index := by
  obtain hall | ⟨p, hp, _⟩ := cases_of_reports h
  · exact Element.index_of_resolveAll hall
  · exact Element.index_of_fetch hp

/-! ## Plans -/

namespace Plan

variable {α : Type} (plan : Plan α) (x : Element)

/-- The run lemma. -/
theorem reported_handler :
    (plan.handler x).2.reported = x.reported ++ (plan.calls x).flatMap Call.reports := by
  induction plan generalizing x with
  | stop result => simp [handler, calls]
  | perform action next ih =>
      rw [handler, ih, Element.perform_reported, calls, List.flatMap_cons, List.append_assoc]

theorem index_of_reports {e : Error} (h : e ∈ (plan.calls x).flatMap Call.reports) :
    e.index = some x.index := by
  obtain ⟨c, hc, he⟩ := List.mem_flatMap.mp h
  have hstable : Element.Stable fun y => y.index = x.index :=
    ⟨fun y p hy => (y.fetch_index p).trans hy, fun _ _ hy => hy, fun _ hy => hy⟩
  rw [Call.index_of_reports he, hstable.calls plan rfl c hc]

/-- A run stops at its first failure: no call follows one that fails, and the failure of that call
is what the plan comes to. -/
def StopsAtFailure : Prop :=
  ∀ earlier c later e, plan.calls x = earlier ++ c :: later → c.result = .error e →
    later = [] ∧ (plan.handler x).1 = .error e

variable {plan x}

theorem flatMap_reports_of_isOk {cs : List Call} (h : ∀ c ∈ cs, c.result.isOk = true) :
    cs.flatMap Call.reports = [] := by
  rw [List.flatMap_eq_nil_iff]
  intro c hc
  rcases c.reports_eq with hr | ⟨e, he, _⟩
  · exact hr
  · have hok := h c hc
    rw [he] at hok
    cases hok

/-- A run that stops at its first failure reports nothing, or just the failure that it comes to. -/
theorem StopsAtFailure.reports (h : plan.StopsAtFailure x) :
    (plan.calls x).flatMap Call.reports = [] ∨
      ∃ e, (plan.handler x).1 = .error e ∧ (plan.calls x).flatMap Call.reports = [e] := by
  rcases List.eq_nil_or_concat (plan.calls x) with hnil | ⟨init, c, hcalls⟩
  · exact Or.inl (by rw [hnil]; rfl)
  · rw [List.concat_eq_append] at hcalls
    have hinit : init.flatMap Call.reports = [] := by
      refine flatMap_reports_of_isOk fun d hd => ?_
      cases hr : d.result with
      | ok v => rfl
      | error e =>
          -- a failing call before the last one would have calls after it
          obtain ⟨earlier, later, rfl⟩ := List.append_of_mem hd
          rw [List.append_assoc, List.cons_append] at hcalls
          have hlater := (h earlier d (later ++ [c]) e hcalls hr).1
          simp at hlater
    rw [hcalls, List.flatMap_append, hinit, List.nil_append, List.flatMap_singleton]
    rcases c.reports_eq with hr | ⟨e, he, hr⟩
    · exact Or.inl hr
    · exact Or.inr ⟨e, (h init c [] e hcalls he).2, hr⟩

end Plan

/-- The failure of a handler is reported if nothing of the element was. -/
theorem Handler.settled_reported {α : Type} (handler : Handler α) (index : Nat) (x : Element) :
    (handler.settled index x).2.reported = (handler x).2.reported ++
      match (handler.settled index x).1 with
      | .ok _ => []
      | .error e => if (handler x).2.reported = [] then [e] else [] := by
  unfold Handler.settled
  cases handler x with
  | mk result y =>
      cases result with
      | ok a => simp
      | error e =>
          by_cases hy : y.reported = []
          · simp [Element.isReported, Element.noteFailure, Element.report, hy]
          · simp [Element.isReported, Element.noteFailure, hy]

/-! ## Requests of a stream -/

namespace Stream

variable {α : Type}

/-- Lets a handler at the next request, whichever way the stream is driven. -/
def process (s : Stream) (raw : RawRequest) (handler : Handler α) : Drive → Evaluation α
  | .evaluate => s.evaluate raw handler
  | .take abandoned => s.visit raw (handler.letGo abandoned)

theorem drive_eq_process (s : Stream) (raw : RawRequest) (steps : List Step) (mode : Drive) :
    s.drive raw steps mode = s.process raw (Plan.ofSteps steps).handler mode := by
  rw [Plan.handler_ofSteps]
  cases mode <;> rfl

theorem process_of_error {s : Stream} {raw : RawRequest} {err : Error}
    (h : (s.next raw).1 = .error err) (handler : Handler α) (mode : Drive) :
    s.process raw handler mode = ⟨.error err, none, (s.next raw).2⟩ := by
  cases mode with
  | evaluate => exact visit_of_error h (handler.settled s.received)
  | take abandoned => exact visit_of_error h (handler.letGo abandoned)

theorem next_error {s : Stream} {raw : RawRequest} {err : Error}
    (h : (s.next raw).1 = .error err) : err = s.refusal := by
  unfold next at h
  dsimp only at h
  split at h
  · cases h
  · exact (Except.error.inj h).symm

/-- An evaluation fails with the failure of its handler, about the place of the element unless it is
already about one. -/
theorem evaluate_eq_error {s : Stream} {raw : RawRequest} {x : Element}
    (h : (s.next raw).1 = .ok x) {handler : Handler α} {err : Error}
    (he : (s.evaluate raw handler).result = .error err) :
    ∃ e, (handler x).1 = .error e ∧ err = e.withIndexIfNone s.received := by
  rw [evaluate, visit_of_ok h] at he
  have hres := (handler.settled_fst s.received x).symm.trans he
  cases hh : (handler x).1 with
  | ok a => rw [hh] at hres; cases hres
  | error e =>
      rw [hh] at hres
      exact ⟨e, rfl, (Except.error.inj hres).symm⟩

/-- What an accepted element reports: the calls of the plan, and then perhaps the evaluation. -/
theorem process_reported {s : Stream} {raw : RawRequest} {x : Element}
    (h : (s.next raw).1 = .ok x) (plan : Plan α) (mode : Drive) :
    (s.process raw plan.handler mode).reported =
      (plan.calls x).flatMap Call.reports ++
        match mode, (s.process raw plan.handler mode).result with
        | .evaluate, .error err => if (plan.calls x).flatMap Call.reports = [] then [err] else []
        | _, _ => [] := by
  have hstart : x.reported = [] := by
    rw [(next_ok_iff.mp h).2]
    rfl
  have hplan := plan.reported_handler x
  rw [hstart, List.nil_append] at hplan
  cases mode with
  | evaluate =>
      have hset := plan.handler.settled_reported s.received x
      rw [hplan] at hset
      simp only [process, evaluate]
      rw [visit_of_ok h]
      refine hset.trans ?_
      cases (plan.handler.settled s.received x).1 <;> rfl
  | take abandoned =>
      simp only [process]
      rw [visit_of_ok h, List.append_nil]
      cases abandoned <;> exact hplan

/-- An evaluation that comes to a failure of a run that stops there reports this failure alone. -/
theorem evaluate_reported {s : Stream} {raw : RawRequest} {x : Element}
    (h : (s.next raw).1 = .ok x) {plan : Plan α} (hstop : plan.StopsAtFailure x) {err : Error}
    (he : (s.evaluate raw plan.handler).result = .error err) :
    (s.process raw plan.handler .evaluate).reported = [err] := by
  have hrep := process_reported h plan .evaluate
  simp only [process, he] at hrep
  refine hrep.trans ?_
  rcases hstop.reports with hown | ⟨e, hres, hown⟩
  · rw [hown, if_pos rfl, List.nil_append]
  · -- the reported failure is about a place already, so the evaluation leaves it as it is
    have hindex := plan.index_of_reports x (e := e) (by rw [hown]; exact List.mem_singleton.mpr rfl)
    obtain ⟨e', he', rfl⟩ := evaluate_eq_error h he
    obtain rfl := Except.error.inj (hres.symm.trans he')
    rw [hown, if_neg (by simp), List.append_nil]
    simp [Error.withIndexIfNone, hindex]

theorem process_index {s : Stream} {raw : RawRequest} {x : Element}
    (h : (s.next raw).1 = .ok x) (plan : Plan α) (mode : Drive) :
    ∀ err ∈ (s.process raw plan.handler mode).reported, err.index.isSome = true := by
  intro err herr
  rw [process_reported h, List.mem_append] at herr
  rcases herr with hown | hlast
  · rw [plan.index_of_reports x hown]
    rfl
  · split at hlast
    · rename_i e hres
      obtain ⟨e', _, rfl⟩ := evaluate_eq_error h hres
      split at hlast
      · rw [List.mem_singleton.mp hlast]
        cases hi : e'.index <;> simp [Error.withIndexIfNone, Error.withIndex, hi]
      · cases hlast
    · cases hlast

/-- The failures that are reported while a handler is at the next request: the refusal, or what the
calls of its plan report, after which an evaluation that failed reports its failure if there was no
report yet. So a rejected evaluation is reported, an element without failures is not, a handler that
stops at its first failure is reported by what the evaluation comes to alone, and every report is
about a place. -/
theorem reported_of_calls (s : Stream) (raw : RawRequest) (plan : Plan α) (mode : Drive) :
    (∀ err, (s.next raw).1 = .error err →
      err.kind = .usage ∧ (s.process raw plan.handler mode).result = .error err ∧
        (s.process raw plan.handler mode).reported = [err]) ∧
    (∀ x, (s.next raw).1 = .ok x →
      (s.process raw plan.handler mode).reported =
        (plan.calls x).flatMap Call.reports ++
          match mode, (s.process raw plan.handler mode).result with
          | .evaluate, .error err => if (plan.calls x).flatMap Call.reports = [] then [err] else []
          | _, _ => []) ∧
    (∀ err, mode = .evaluate → (s.process raw plan.handler mode).result = .error err →
      (s.process raw plan.handler mode).reported ≠ []) ∧
    (∀ x, (s.next raw).1 = .ok x → (∀ c ∈ plan.calls x, c.result.isOk = true) →
      (plan.handler x).1.isOk = true → (s.process raw plan.handler mode).reported = []) ∧
    (∀ x err, (s.next raw).1 = .ok x → plan.StopsAtFailure x → mode = .evaluate →
      (s.process raw plan.handler mode).result = .error err →
        (s.process raw plan.handler mode).reported = [err]) ∧
    ∀ err ∈ (s.process raw plan.handler mode).reported, err.index.isSome = true := by
  cases hn : (s.next raw).1 with
  | error err =>
      have hp := process_of_error hn plan.handler mode
      have hrefused := next_error hn
      have hrep : (s.process raw plan.handler mode).reported = [err] := by rw [hp]; rfl
      refine ⟨?_, ?_, ?_, ?_, ?_, ?_⟩
      · rintro e he
        obtain rfl := Except.error.inj he
        exact ⟨by rw [hrefused]; rfl, by rw [hp], hrep⟩
      · rintro x ⟨⟩
      · rw [hrep]
        exact fun _ _ _ => List.cons_ne_nil _ _
      · rintro x ⟨⟩
      · rintro x e ⟨⟩
      · rw [hrep]
        rintro e he
        rw [List.mem_singleton.mp he, hrefused]
        rfl
  | ok x =>
      have hrep := process_reported hn plan mode
      refine ⟨?_, ?_, ?_, ?_, ?_, process_index hn plan mode⟩
      · rintro e ⟨⟩
      · rintro y hy
        obtain rfl := Except.ok.inj hy
        exact hrep
      · rintro e rfl he hnil
        rw [hrep, he, List.append_eq_nil_iff] at hnil
        simp [hnil.1] at hnil
      · rintro y hy hcalls hok
        obtain rfl := Except.ok.inj hy
        rw [hrep, Plan.flatMap_reports_of_isOk hcalls, List.nil_append]
        split
        · rename_i err hres
          obtain ⟨e, he, _⟩ := evaluate_eq_error hn hres
          rw [he] at hok
          cases hok
        · rfl
      · rintro y err hy hstop rfl he
        obtain rfl := Except.ok.inj hy
        exact evaluate_reported hn hstop he

/-- Goes on after the limit is missing, and then reads all parameters. -/
def insistent : Plan Unit :=
  .perform (.value .limit) fun _ =>
    .perform .resolveAll fun result => .stop (result.map fun _ => ())

/-- Both readings are reported, and the failure of the evaluation is not reported once more. -/
theorem insistent_reported :
    (({ endpoint := .search } : Stream).next (JsonRequest.raw { body := [] })).1 =
        .ok (({ endpoint := .search } : Stream).element (JsonRequest.raw { body := [] })) ∧
      (({ endpoint := .search } : Stream).process (JsonRequest.raw { body := [] })
        insistent.handler .evaluate).reported =
          [(Parameter.limit.missing (.noEntry "limit")).withIndex 0,
            (Parameter.limit.missing (.noEntry "limit")).withIndex 0] := by
  have h := (reported_of_calls { endpoint := .search } (JsonRequest.raw { body := [] })
    insistent .evaluate).2.1 _ rfl
  exact ⟨rfl, h.trans rfl⟩

end Stream

end Intake
