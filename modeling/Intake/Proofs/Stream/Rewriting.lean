import Intake.Proofs.Element.Rewriting

/-!
# Streams of rewritten objects

Main statement: handlers that read declared parameters cannot tell objects apart that leave a
parameter out, give null for it or spell out its default, nor do they leave the stream in different
states, but for what the failure of a missing parameter carries along. A handler that goes on by
what that failure carries can tell null from no entry.
-/

namespace Intake

open Reference

/-! ## Streams -/

/-- An object with the plan that is let at it. -/
structure Submission (α : Type) where
  request : JsonRequest
  plan : Plan α
  mode : Drive

def Submission.job {α : Type} (a : Submission α) : Job α := ⟨a.request.raw, a.plan, a.mode⟩

/-- The same plan is let at an object that is related to the first. -/
structure Submission.Rewritten {α : Type} (rel : Dictionary Json → Dictionary Json → Prop)
    (a b : Submission α) : Prop where
  metadata_eq : a.request.metadata = b.request.metadata
  body : rel a.request.body b.request.body
  plan_eq : a.plan = b.plan
  mode_eq : a.mode = b.mode

/-- A plan that reads declared parameters only and looks at nothing but what handlers see. -/
def Plan.Within {α : Type} (e : Endpoint) (plan : Plan α) : Prop :=
  ∀ x, ∀ c ∈ plan.calls x, c.action.Respects (· ∈ e.parameters) Element.LooksLike

theorem Plan.within_ofSteps {e : Endpoint} {steps : List Step}
    (h : ∀ step ∈ steps, step.action.Respects (· ∈ e.parameters) Element.LooksLike) :
    (ofSteps steps).Within e := by
  intro x c hc
  obtain ⟨step, hstep, haction⟩ := exists_step_of_calls hc
  rw [haction]
  exact h step hstep

/-- Evaluations with similar results and reports that leave the same check for constancy. -/
structure Evaluation.Similar {α : Type} (like : Error → Error → Prop) (v w : Evaluation α) :
    Prop where
  result : Intake.Similar like v.result w.result
  reported : List.Forall₂ like v.reported w.reported
  constancy_eq : v.stream.constancy = w.stream.constancy

namespace Stream

variable {α : Type}

/-- The calls of a plan on the next request; there are none if the request is refused. -/
def calls (s : Stream) (job : Job α) : List Call :=
  if s.isOpen then job.plan.calls (s.element job.raw) else []

/-- Streams in the same state but for the list of defaults that gave a value. -/
structure Abreast (s t : Stream) : Prop where
  endpoint_eq : s.endpoint = t.endpoint
  received_eq : s.received = t.received
  constancy_eq : s.constancy = t.constancy

variable {e : Endpoint} {like : Error → Error → Prop}
  {rel : Dictionary Json → Dictionary Json → Prop} {s t : Stream} {a b : Submission α}

theorem Abreast.twins (like : Error → Error → Prop) (h : Abreast s t) (hs : s.endpoint = e)
    (hab : a.Rewritten rel b) :
    Element.Twins e like a.request.body b.request.body (s.element a.job.raw)
      (t.element b.job.raw) where
  looks := ⟨h.endpoint_eq, h.received_eq, hab.metadata_eq, rfl, rfl⟩
  sound := .element hs a.request
  sound_other := .element (h.endpoint_eq.symm.trans hs) b.request
  constancy_eq := congrArg Constancy.begin h.constancy_eq
  reported := .nil

/-- The step lemma. -/
theorem Abreast.work (h : Abreast s t) (hs : s.endpoint = e) (hd : e.ConstantDefaults)
    (hlike : Error.Tolerance like) (hab : a.Rewritten rel b)
    (hrel : ∀ p ∈ e.parameters,
      Similar like (effective a.request.body p) (effective b.request.body p))
    (hwithin : a.plan.Within e) (hfollows : a.plan.Follows like a.plan) :
    Evaluation.Similar like (s.work a.job) (t.work b.job) ∧
      List.Forall₂ (fun c c' => c.action = c'.action ∧ Similar like c.result c'.result)
        (s.calls a.job) (t.calls b.job) ∧
      Abreast (s.work a.job).stream (t.work b.job).stream := by
  have hopen : s.isOpen = t.isOpen := by
    unfold isOpen
    rw [h.endpoint_eq, h.received_eq]
  cases ho : s.isOpen with
  | false =>
      have hrefusal : s.refusal = t.refusal := by
        unfold refusal
        rw [h.endpoint_eq, h.received_eq]
      have hcalls : s.calls a.job = [] ∧ t.calls b.job = [] := by
        unfold calls
        rw [← hopen, ho]
        exact ⟨rfl, rfl⟩
      rw [work_of_closed ho, work_of_closed (hopen ▸ ho), hcalls.1, hcalls.2, hrefusal]
      exact ⟨⟨.error (hlike.refl _), .cons (hlike.refl _) .nil, h.constancy_eq⟩, .nil,
        h.endpoint_eq, congrArg (· + 1) h.received_eq, h.constancy_eq⟩
  | true =>
      have hcorrespondence := Element.Twins.correspondence hlike hd hrel
      have htwins := h.twins like hs hab
      have hrespects : ∀ c ∈ a.plan.calls (s.element a.job.raw),
          c.action.Respects (· ∈ e.parameters)
            (Element.Twins e like a.request.body b.request.body) :=
        fun c hc => ⟨(hwithin _ c hc).1, (hwithin _ c hc).2.mono fun _ _ hxy => hxy.looks⟩
      have hfollows' : a.job.plan.Follows like b.job.plan := by
        show a.plan.Follows like b.plan
        rw [← hab.plan_eq]
        exact hfollows
      obtain ⟨hresult, hafter⟩ := hcorrespondence.job
        (fun index he => hlike.withIndexIfNone index he) (fun hxy => hxy.looks.isReported_eq)
        htwins hab.mode_eq hfollows' hrespects s.received
      have hcalls := hcorrespondence.calls hfollows' htwins hrespects
      rw [work_of_open ho, work_of_open (hopen ▸ ho), ← h.received_eq]
      refine ⟨⟨hresult, hafter.reported, hafter.constancy_eq⟩, ?_, h.endpoint_eq, ?_,
        hafter.constancy_eq⟩
      · unfold calls
        rw [← hopen, ho]
        exact hcalls.imp fun _ _ hc => ⟨hc.action_eq, hc.result⟩
      · exact congrArg (· + 1) h.received_eq

/-- The stream of an endpoint when the submission at a place comes. -/
def upTo (e : Endpoint) (sent : List (Submission α)) (k : Nat) : Stream :=
  after { endpoint := e } ((sent.take k).map Submission.job)

theorem endpoint_upTo (e : Endpoint) (sent : List (Submission α)) (k : Nat) :
    (upTo e sent k).endpoint = e :=
  endpoint_after { endpoint := e } _

/-- The run lemma. -/
theorem Abreast.after (h : Abreast s t) (hs : s.endpoint = e) (hd : e.ConstantDefaults)
    (hlike : Error.Tolerance like) {sent others : List (Submission α)}
    (hsent : List.Forall₂ (Submission.Rewritten rel) sent others)
    (hrel : ∀ body other, rel body other → ∀ p ∈ e.parameters,
      Similar like (effective body p) (effective other p))
    (hplans : ∀ a ∈ sent, a.plan.Within e ∧ a.plan.Follows like a.plan) (k : Nat) :
    Abreast (s.after ((sent.take k).map Submission.job))
      (t.after ((others.take k).map Submission.job)) := by
  induction hsent generalizing s t k with
  | nil =>
      rw [List.take_nil]
      exact h
  | cons hab _ ih =>
      rw [List.forall_mem_cons] at hplans
      cases k with
      | zero => exact h
      | succ k =>
          obtain ⟨_, _, hnext⟩ := h.work hs hd hlike hab (hrel _ _ hab.body) hplans.1.1 hplans.1.2
          exact ih hnext ((s.endpoint_work _).trans hs) hplans.2 k

theorem similar_upTo (hd : e.ConstantDefaults) (hlike : Error.Tolerance like)
    {sent others : List (Submission α)}
    (hsent : List.Forall₂ (Submission.Rewritten rel) sent others)
    (hrel : ∀ body other, rel body other → ∀ p ∈ e.parameters,
      Similar like (effective body p) (effective other p))
    (hplans : ∀ a ∈ sent, a.plan.Within e ∧ a.plan.Follows like a.plan) {k : Nat}
    (ha : sent[k]? = some a) (hb : others[k]? = some b) :
    Evaluation.Similar like ((upTo e sent k).work a.job) ((upTo e others k).work b.job) ∧
      List.Forall₂ (fun c c' => c.action = c'.action ∧ Similar like c.result c'.result)
        ((upTo e sent k).calls a.job) ((upTo e others k).calls b.job) := by
  have hnew : Abreast { endpoint := e } { endpoint := e } := ⟨rfl, rfl, rfl⟩
  have habreast := hnew.after rfl hd hlike hsent hrel hplans k
  obtain ⟨hk, rfl⟩ := List.getElem?_eq_some_iff.mp ha
  obtain ⟨hk', rfl⟩ := List.getElem?_eq_some_iff.mp hb
  have hab := hsent.get hk hk'
  obtain ⟨hwithin, hfollows⟩ := hplans _ (List.getElem_mem hk)
  obtain ⟨hsimilar, hcalls, _⟩ := habreast.work (endpoint_upTo e sent k) hd hlike hab
    (hrel _ _ hab.body) hwithin hfollows
  exact ⟨hsimilar, hcalls⟩

/-- Over an endpoint that was described, whatever declared parameters a handler reads in which
order, it makes no difference whether an object has no value of a required parameter or spells out
its default. Nor does it make a difference whether an object has null for a parameter or no entry,
if the handler does not go on by it, but for the failure to decode that a missing parameter carries
along: a failure to decode that is reported is always that of the object. -/
theorem unchanged_of_rewriting {d : Description} {ids : Nat → ParameterId} {e : Endpoint}
    (he : d.toEndpoint ids = .ok e) :
    (∀ sent others : List (Submission α),
      List.Forall₂ (Submission.Rewritten (Spelled e)) sent others →
      (∀ a ∈ sent, a.plan.Within e) →
      ∀ k a b, sent[k]? = some a → others[k]? = some b →
        ((upTo e sent k).calls a.job).map (fun c => (c.action, c.result)) =
          ((upTo e others k).calls b.job).map (fun c => (c.action, c.result)) ∧
        ((upTo e sent k).work a.job).result = ((upTo e others k).work b.job).result ∧
        ((upTo e sent k).work a.job).reported = ((upTo e others k).work b.job).reported ∧
        ((upTo e sent k).work a.job).stream.constancy =
          ((upTo e others k).work b.job).stream.constancy) ∧
    (∀ sent others : List (Submission α),
      List.Forall₂ (Submission.Rewritten (Omitted e)) sent others →
      (∀ a ∈ sent, a.plan.Within e ∧ a.plan.Follows Error.Recast a.plan) →
      ∀ k a b, sent[k]? = some a → others[k]? = some b →
        Evaluation.Similar Error.Recast ((upTo e sent k).work a.job)
          ((upTo e others k).work b.job) ∧
        List.Forall₂ (fun c c' => c.action = c'.action ∧ Similar Error.Recast c.result c'.result)
          ((upTo e sent k).calls a.job) ((upTo e others k).calls b.job)) ∧
    ∀ (sent : List (Submission α)) (k : Nat) (a : Submission α), a.plan.Within e →
      ∀ c ∈ (upTo e sent k).calls a.job, ∀ err ∈ c.reports, err.decode.isSome = true →
        ∃ shortfall, Shortfall e a.request.body shortfall ∧
          err = shortfall.withIndex c.element.index := by
  have hd := Description.toEndpoint_constantDefaults he
  refine ⟨?_, ?_, ?_⟩
  · intro sent others hsent hplans k a b ha hb
    have hrel : ∀ body other, Spelled e body other → ∀ p ∈ e.parameters,
        Similar Eq (effective body p) (effective other p) := by
      intro body other h p hp
      rw [h.effective_eq (fun v hv => Description.accepts_default he hp hv) hp]
      exact similar_eq_iff.mpr rfl
    obtain ⟨⟨hresult, hreported, hconstancy⟩, hcalls⟩ := similar_upTo hd .eq hsent hrel
      (fun a ha => ⟨hplans a ha, a.plan.follows_eq⟩) ha hb
    refine ⟨?_, similar_eq_iff.mp hresult, ?_, hconstancy⟩
    · rw [← List.forall₂_eq_eq_eq, List.forall₂_map_left_iff, List.forall₂_map_right_iff]
      exact hcalls.imp fun c c' hc => Prod.ext hc.1 (similar_eq_iff.mp hc.2)
    · rw [List.forall₂_eq_eq_eq] at hreported
      exact hreported
  · intro sent others hsent hplans k a b ha hb
    exact similar_upTo hd .recast hsent (fun body other h p hp => h.effective_similar hp) hplans
      ha hb
  · intro sent k a hwithin c hc err herr hdecode
    unfold calls at hc
    split at hc
    · have hsound : Element.Sound e a.request.body ((upTo e sent k).element a.request.raw) :=
        .element (endpoint_upTo e sent k) a.request
      obtain ⟨_, _, hbefore⟩ := (Element.Sound.likeness hd).calls a.plan ⟨rfl, hsound⟩
        (fun c hc => (hwithin _ c hc).1.respects _) c hc
      exact hbefore.shortfall_of_reports hd (hwithin _ c hc).1 herr hdecode
    · cases hc

/-! ## Searches -/

def searchDescription : Description :=
  ⟨"search", .clientStream,
    [{ name := "limit", kind := .integer, mutability := .constant },
      { name := "order", kind := .string, mutability := .constant
        default := some (.string "rising") },
      { name := "label", necessity := .optional }]⟩

/-- Reads the order of an object and then all its parameters. -/
def reading (body : Dictionary Json) : Submission Unit :=
  ⟨{ body }, .ofSteps [{ action := .named "order" }, { action := .resolveAll }], .evaluate⟩

theorem within_reading (e : Endpoint) (body : Dictionary Json) : (reading body).plan.Within e := by
  refine Plan.within_ofSteps fun step hstep => ?_
  rcases List.mem_cons.mp hstep with rfl | hstep
  · exact ⟨trivial, trivial⟩
  · obtain rfl := List.mem_singleton.mp hstep
    exact ⟨trivial, trivial⟩

theorem rewritten_reading {rel : Dictionary Json → Dictionary Json → Prop}
    {body other : Dictionary Json} (h : rel body other) :
    (reading body).Rewritten rel (reading other) := ⟨rfl, h, rfl, rfl⟩

/-- The first object leaves the order out, the second one has a limit of null. -/
def readings : List (Submission Unit) :=
  [reading [("limit", .integer 5)], reading [("limit", .null)]]

/-- To spell the order out changes nothing, and without its null the limit is still missing. -/
theorem readings_unchanged :
    searchDescription.toEndpoint (fun k => ⟨.ofNat 128 (k + 1)⟩) = .ok .search ∧
      (∀ a ∈ readings, a.plan.Within .search ∧ a.plan.Follows Error.Recast a.plan) ∧
      ((upTo .search [reading [("limit", .integer 5), ("order", .string "rising")]] 0).calls
          (reading [("limit", .integer 5), ("order", .string "rising")]).job).map
            (fun c => (c.action, c.result)) =
        [(.named "order", .ok (.string "rising")), (.resolveAll, .ok (.object
          [("label", .null), ("limit", .integer 5), ("order", .string "rising")]))] ∧
      ∃ err, ((upTo .search [reading [("limit", .integer 5)], reading []] 1).work
          (reading []).job).result = .error err ∧
        Error.Recast ((Parameter.limit.missing (.noValue "limit")).withIndex 1) err ∧
        err.decode = some (.noEntry "limit") := by
  have hmade : searchDescription.toEndpoint (fun k => ⟨.ofNat 128 (k + 1)⟩) = .ok .search := rfl
  have hplans : ∀ a ∈ readings,
      a.plan.Within .search ∧ a.plan.Follows Error.Recast a.plan := by
    intro a ha
    have hreading : ∃ body, a = reading body := by
      rcases List.mem_cons.mp ha with rfl | ha
      · exact ⟨_, rfl⟩
      · exact ⟨_, List.mem_singleton.mp ha⟩
    obtain ⟨body, rfl⟩ := hreading
    exact ⟨within_reading _ body, Plan.follows_ofSteps _ _⟩
  obtain ⟨hspelled, homitted, _⟩ := unchanged_of_rewriting (α := Unit) hmade
  refine ⟨hmade, hplans, ?_, ?_⟩
  · have horder : Parameter.order ∈ Endpoint.search.parameters := by simp [Endpoint.search]
    have hinserted : Spelled .search [("limit", .integer 5)] _ :=
      .insert horder rfl rfl (.inl rfl)
    obtain ⟨hcalls, _⟩ := hspelled _ _ (.cons (rewritten_reading hinserted) .nil)
      (fun a ha => by
        rw [List.mem_singleton.mp ha]
        exact within_reading _ _) 0 _ _ rfl rfl
    exact hcalls.symm
  · have hnull : Omitted .search [("limit", .null)] _ := .filter (p := .limit) rfl
    have hsame : Omitted .search [("limit", .integer 5)] [("limit", .integer 5)] :=
      fun _ _ => .inl rfl
    obtain ⟨⟨hresult, _, _⟩, _⟩ := homitted readings _
      (.cons (rewritten_reading hsame) (.cons (rewritten_reading hnull) .nil)) hplans 1 _ _ rfl rfl
    cases hresult with
    | error h => exact ⟨_, rfl, h, rfl⟩

/-- Puts up with a missing limit if the object has no entry for it. -/
def forgiving : Plan Unit :=
  .perform (.named "limit") fun
    | .ok _ => .stop (.ok ())
    | .error e => if e.decode = some (.noEntry "limit") then .stop (.ok ()) else .stop (.error e)

/-- Leaves it to the handler what becomes of an object without a limit. -/
def forgiven (body : Dictionary Json) : Submission Unit := ⟨{ body }, forgiving, .evaluate⟩

theorem calls_forgiving (x : Element) : forgiving.calls x = [⟨x, .named "limit"⟩] := by
  unfold forgiving
  rw [Plan.calls]
  cases (x.perform (.named "limit")).1 with
  | ok v => rfl
  | error e =>
      dsimp only
      split <;> rfl

/-- To omit a null changes the result of a handler that goes on by what the failure carries. -/
theorem forgiving_not_similar :
    searchDescription.toEndpoint (fun k => ⟨.ofNat 128 (k + 1)⟩) = .ok .search ∧
      List.Forall₂ (Submission.Rewritten (Omitted .search)) [forgiven [("limit", .null)]]
        [forgiven []] ∧
      forgiving.Within .search ∧
      ((upTo .search [forgiven [("limit", .null)]] 0).work
          (forgiven [("limit", .null)]).job).result =
        .error ((Parameter.limit.missing (.noValue "limit")).withIndex 0) ∧
      ((upTo .search [forgiven []] 0).work (forgiven []).job).result = .ok () ∧
      ¬ Evaluation.Similar Error.Recast
        ((upTo .search [forgiven [("limit", .null)]] 0).work (forgiven [("limit", .null)]).job)
        ((upTo .search [forgiven []] 0).work (forgiven []).job) := by
  have homitted : Omitted .search [("limit", .null)] [] := .filter (p := .limit) rfl
  have hwithin : forgiving.Within .search := by
    intro x c hc
    rw [calls_forgiving, List.mem_singleton] at hc
    rw [hc]
    exact ⟨trivial, trivial⟩
  have hnull : ((upTo .search [forgiven [("limit", .null)]] 0).work
      (forgiven [("limit", .null)]).job).result =
        .error ((Parameter.limit.missing (.noValue "limit")).withIndex 0) := rfl
  have hnone : ((upTo .search [forgiven []] 0).work (forgiven []).job).result = .ok () := rfl
  refine ⟨rfl, .cons ⟨rfl, homitted, rfl, rfl⟩ .nil, hwithin, hnull, hnone, fun h => ?_⟩
  have hresult := h.result
  rw [hnull, hnone] at hresult
  cases hresult

end Stream

end Intake
