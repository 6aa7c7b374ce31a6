import Intake.Proofs.Description.Defaults
import Intake.Proofs.Element.Plan
import Intake.Proofs.Element.Resolution
import Intake.Proofs.Request.Settlement
import Intake.Proofs.Stream.Jobs
import Mathlib

/-!
# Values that retrievals return

A handler that reads declared parameters only is given their effective values, in whatever order it
reads them. Main statement: over an endpoint that was described, a required parameter has a value of
its kind other than null, and an optional one has such a value from the object, or null where the
object has none.
-/

namespace Intake

open Reference

/-- The values that a parameter may come to for an object. -/
def Parameter.Allows (p : Parameter) (body : Dictionary Json) (v : Json) : Prop :=
  if p.isRequired then v.isNull = false ∧ p.kind.accepts v = true
  else
    (body.get? p.name = some v ∧ v.isNull = false ∧ p.kind.accepts v = true) ∨
      (v = .null ∧ (body.get? p.name = none ∨ body.get? p.name = some .null))

/-- The values that a call returns, each for its parameter. For a typed reading it is the value that
is converted. -/
inductive Call.Returns (c : Call) : Parameter → Json → Prop where
  | named {name : String} {p : Parameter} {v : Json} (action : c.action = .named name)
      (declared : c.element.endpoint.named? name = some p) (result : c.result = .ok v) :
      Returns c p v
  | value {p : Parameter} {v : Json} (action : c.action = .value p) (result : c.result = .ok v) :
      Returns c p v
  | resolved {values : Dictionary Json} {name : String} {p : Parameter} {v : Json}
      (action : c.action = .resolveAll) (result : c.element.resolveAll.1 = .ok values)
      (declared : c.element.endpoint.named? name = some p) (entry : values.get? name = some v) :
      Returns c p v
  | typed {name : String} {type : ValueType} {p : Parameter} {v : Json}
      (action : c.action = .typed name type)
      (declared : c.element.endpoint.named? name = some p)
      (retrieved : (c.element.retrieve p).1 = .ok v) : Returns c p v
  | converted {p : Parameter} {convert : Json → Except String Json} {v : Json}
      (action : c.action = .converted p convert)
      (retrieved : (c.element.retrieve p).1 = .ok v) : Returns c p v

variable {e : Endpoint} {body : Dictionary Json} {p : Parameter} {v : Json} {x : Element}

/-! ## Effective values -/

theorem Reference.effective_of_settled? (hd : e.ConstantDefaults) (hp : p ∈ e.parameters)
    {earlier : Nat} (h : e.settled? p.id earlier (JsonRequest.lookup body p) = some v) :
    effective body p = .ok v := by
  rw [effective_eq]
  cases hl : JsonRequest.lookup body p with
  | ok w =>
      rw [hl] at h
      cases h
      rfl
  | error d =>
      rw [hl, Endpoint.settled?, Endpoint.parameter?_of_mem hp, Option.bind_some] at h
      dsimp only
      split at h
      · rename_i ha
        rw [if_pos ha]
        unfold standIn
        split at h
        · rename_i hr
          obtain ⟨given, hg, rfl⟩ := Option.map_eq_some_iff.mp h
          obtain ⟨w, rfl⟩ := hd p hp given hg
          rw [if_pos hr, hg]
          rfl
        · rename_i hr
          cases h
          rw [if_neg hr]
      · cases h

theorem JsonRequest.lookup_ok (h : lookup body p = .ok v) :
    body.get? p.name = some v ∧ v.isNull = false ∧ p.kind.accepts v = true := by
  rw [lookup_eq] at h
  cases hb : body.get? p.name with
  | none =>
      rw [hb] at h
      cases h
  | some w =>
      rw [hb] at h
      dsimp only at h
      split at h
      · cases h
      · rename_i hn
        split at h
        · rename_i ha
          cases h
          exact ⟨rfl, Bool.eq_false_iff.mpr hn, ha⟩
        · cases h

theorem JsonRequest.lookup_absent {d : DecodeFailure} (h : lookup body p = .error d)
    (ha : d.isAbsence = true) : body.get? p.name = none ∨ body.get? p.name = some .null := by
  unfold lookup at h
  split at h
  · rename_i hb
    exact .inl hb
  · rename_i hb
    exact .inr hb
  · split at h
    · cases h
    · cases h
      cases ha

/-- A default that passes the check of its kind gives a value that the parameter allows. -/
theorem Parameter.allows_of_standIn
    (hdefault : ∀ given, p.default = some given →
      ∃ w, given = .fixed w ∧ w.isNull = false ∧ p.kind.accepts w = true)
    (habsent : body.get? p.name = none ∨ body.get? p.name = some .null) {absence : DecodeFailure}
    (h : standIn p absence = .ok v) : p.Allows body v := by
  unfold standIn at h
  unfold Allows
  split at h
  · rename_i hr
    rw [if_pos hr]
    cases hg : p.default with
    | none =>
        rw [hg] at h
        cases h
    | some given =>
        obtain ⟨w, rfl, hw⟩ := hdefault given hg
        rw [hg] at h
        cases h
        exact hw
  · rename_i hr
    cases h
    rw [if_neg hr]
    exact .inr ⟨rfl, habsent⟩

theorem Parameter.allows_of_effective
    (hdefault : ∀ given, p.default = some given →
      ∃ w, given = .fixed w ∧ w.isNull = false ∧ p.kind.accepts w = true)
    (h : effective body p = .ok v) : p.Allows body v := by
  rw [effective_eq] at h
  cases hl : JsonRequest.lookup body p with
  | ok w =>
      rw [hl] at h
      cases h
      obtain ⟨hb, hn, ha⟩ := JsonRequest.lookup_ok hl
      unfold Allows
      split
      · exact ⟨hn, ha⟩
      · exact .inl ⟨hb, hn, ha⟩
  | error d =>
      rw [hl] at h
      dsimp only at h
      split at h
      · rename_i ha
        exact allows_of_standIn hdefault (JsonRequest.lookup_absent hl ha) h
      · cases h

theorem Constancy.given_of_verdict {fixed : Option Json} {given : Except Error Json}
    (h : verdict p fixed given = .ok v) : given = .ok v := by
  unfold verdict at h
  split at h
  · cases h
  · split at h
    · split at h
      · split at h
        · exact h
        · cases h
      · exact h
    · exact h

/-! ## Elements of objects -/

/-- An element of an object whose declared parameters are settled to effective values, if at all. -/
structure Element.Sound (e : Endpoint) (body : Dictionary Json) (x : Element) : Prop where
  endpoint_eq : x.endpoint = e
  answer_eq : ∀ asked p,
    x.request.inner.exchange.request.answer asked p = JsonRequest.lookup body p
  held_eq : ∀ p ∈ e.parameters, ∀ v, x.request.held p.id = some v → effective body p = .ok v

namespace Element.Sound

theorem element {s : Stream} (hs : s.endpoint = e) (r : JsonRequest) :
    Sound e r.body (s.element r.raw) where
  endpoint_eq := hs
  answer_eq := fun _ _ => rfl
  held_eq := by
    intro p _ v hv
    cases hv

/-- A declared parameter comes to its effective value, whether it was read before or not. -/
theorem given_eq (h : Sound e body x) (hd : e.ConstantDefaults) (hp : p ∈ e.parameters) :
    x.given p = effective body p := by
  cases hv : x.request.held p.id with
  | some v =>
      unfold given
      rw [Substituted.retrieve_of_held hv, h.held_eq p hp v hv]
  | none =>
      obtain ⟨hresolved, hvalues⟩ := Option.or_eq_none_iff.mp hv
      exact given_of_unread (h.endpoint_eq ▸ hd) (h.endpoint_eq ▸ hp)
        (fun asked => h.answer_eq asked p) hresolved hvalues

/-- After a retrieval of a declared parameter what is settled is still effective. -/
theorem held_retrieve (h : Sound e body x) (hd : e.ConstantDefaults) (hp : p ∈ e.parameters) :
    ∀ q ∈ e.parameters, ∀ v, (x.request.retrieve x.endpoint p).2.held q.id = some v →
      effective body q = .ok v := by
  obtain ⟨rfl, hanswer, hheld⟩ := h
  cases hv : x.request.held p.id with
  | some w =>
      rw [Substituted.retrieve_of_held hv]
      exact hheld
  | none =>
      have ho := hanswer x.request.inner.exchange.asked p
      cases hs : x.endpoint.settled? p.id (x.request.supplied.count p.id)
          (JsonRequest.lookup body p) with
      | none =>
          obtain ⟨d, _, hr⟩ := Substituted.retrieve_of_unsettled hv ho hs
          rw [hr]
          exact hheld
      | some w =>
          obtain ⟨t, hr, _, _, ht⟩ := Substituted.retrieve_of_settled hv ho hs
          rw [hr]
          intro q hq v hqv
          rw [ht] at hqv
          split at hqv
          · rename_i hid
            cases hqv
            have hsame : some q = some p := by
              rw [← Endpoint.parameter?_of_mem hq, ← Endpoint.parameter?_of_mem hp, hid]
            cases hsame
            exact effective_of_settled? hd hp hs
          · exact hheld q hq v hqv

theorem fetch (h : Sound e body x) (hd : e.ConstantDefaults) (hp : p ∈ e.parameters) :
    Sound e body (x.fetch p).2 where
  endpoint_eq := (x.fetch_endpoint p).trans h.endpoint_eq
  answer_eq := by
    rw [fetch_request, Substituted.request_retrieve]
    exact h.answer_eq
  held_eq := by
    rw [fetch_request]
    exact h.held_retrieve hd hp

theorem effective_of_fetch (h : Sound e body x) (hd : e.ConstantDefaults) (hp : p ∈ e.parameters)
    (hv : (x.fetch p).1 = .ok v) : effective body p = .ok v := by
  rw [← h.given_eq hd hp]
  rw [fetch_fst, mapError_eq_ok_iff, Constancy.observe_fst] at hv
  exact Constancy.given_of_verdict hv

theorem likeness (hd : e.ConstantDefaults) :
    Likeness (· ∈ e.parameters) fun x y => x = y ∧ Sound e body x :=
  .of_kept (fun _ hx _ hp => hx.endpoint_eq ▸ hp) (fun _ _ hp hx => hx.fetch hd hp)
    (fun _ _ hx => ⟨hx.endpoint_eq, hx.answer_eq, hx.held_eq⟩)
    (fun _ hx => ⟨hx.endpoint_eq, hx.answer_eq, hx.held_eq⟩)

/-- What comes of a parameter among several is a retrieval from an element that is still sound. -/
theorem fetch_of_answers (h : Sound e body x) (hd : e.ConstantDefaults) {ps : List Parameter}
    (hps : ∀ p ∈ ps, p ∈ e.parameters) {result : Except Error Json}
    (hmem : (p, result) ∈ x.answers ps) :
    p ∈ e.parameters ∧ ∃ y, Sound e body y ∧ y.index = x.index ∧ (y.fetch p).1 = result := by
  induction ps generalizing x with
  | nil => cases hmem
  | cons q rest ih =>
      rw [List.forall_mem_cons] at hps
      rw [answers, List.mem_cons] at hmem
      rcases hmem with heq | hmem
      · obtain ⟨rfl, hv⟩ := Prod.mk.inj heq
        exact ⟨hps.1, x, h, rfl, hv.symm⟩
      · obtain ⟨hp, y, hy, hindex, hv⟩ := ih (h.fetch hd hps.1) hps.2 hmem
        exact ⟨hp, y, hy, hindex.trans (x.fetch_index q), hv⟩

theorem effective_of_returns {c : Call} (h : Sound e body c.element) (hd : e.ConstantDefaults)
    (hreads : c.action.Reads (· ∈ e.parameters)) (hv : c.Returns p v) :
    p ∈ e.parameters ∧ effective body p = .ok v := by
  have hnamed : ∀ {name}, c.element.endpoint.named? name = some p → p ∈ e.parameters :=
    fun hp => h.endpoint_eq ▸ List.mem_of_find?_eq_some hp
  have hretrieved : p ∈ e.parameters → (c.element.retrieve p).1 = .ok v →
      p ∈ e.parameters ∧ effective body p = .ok v := by
    intro hp hv
    rw [retrieve_fst] at hv
    exact ⟨hp, h.effective_of_fetch hd hp hv⟩
  -- each way to return a value comes down to a retrieval of a declared parameter
  cases hv with
  | @named name _ _ action declared result =>
      rw [Call.result, action, perform, retrieveNamed, declared] at result
      exact hretrieved (hnamed declared) result
  | value action result =>
      rw [Call.result, action] at result
      rw [action] at hreads
      exact hretrieved hreads result
  | resolved action result declared entry =>
      obtain ⟨q, hq, hname⟩ := (get?_resolveAll result).mp entry
      obtain ⟨hp, y, hy, _, hv⟩ := h.fetch_of_answers hd (fun _ hp => h.endpoint_eq ▸ hp) hq
      have hfound := Endpoint.named?_of_mem (h.endpoint_eq.symm ▸ hp)
      rw [hname, declared] at hfound
      cases hfound
      exact ⟨hp, hy.effective_of_fetch hd hp hv⟩
  | typed action declared retrieved => exact hretrieved (hnamed declared) retrieved
  | converted action retrieved =>
      rw [action] at hreads
      exact hretrieved hreads retrieved

end Element.Sound

namespace Stream

variable {α : Type}

/-- Over an endpoint that was described, whatever the stream has seen before and whatever declared
parameters a handler reads in which order, a required parameter has a value of its kind other than
null, and an optional one such a value from the object, or null where the object has none. A default
of null is none: the description without it is the same. -/
theorem values_of_description {text : String} {d : Description} {ids : Nat → ParameterId}
    {e : Endpoint} (hparse : Description.parse text = .ok d) (he : d.toEndpoint ids = .ok e) :
    Description.ofDocument (Description.bare (Json.Document.read text).1) = .ok d ∧
    ∀ (jobs : List (Job α)) (r : JsonRequest) (plan : Plan α) (x : Element),
      ((after { endpoint := e } jobs).next r.raw).1 = .ok x →
      (∀ c ∈ plan.calls x, c.action.Reads (· ∈ e.parameters)) →
      ∀ c ∈ plan.calls x, ∀ p v, c.Returns p v → p ∈ e.parameters ∧ p.Allows r.body v := by
  have hdoc := Description.ofDocument_of_parse hparse
  refine ⟨Description.ofDocument_bare hdoc, fun jobs r plan x hx hreads c hc p v hv => ?_⟩
  have hd := Description.toEndpoint_constantDefaults he
  obtain ⟨_, rfl⟩ := next_ok_iff.mp hx
  have hsound := Element.Sound.element (endpoint_after { endpoint := e } jobs) r
  obtain ⟨_, _, hbefore⟩ := (Element.Sound.likeness hd).calls plan ⟨rfl, hsound⟩
    (fun c hc => (hreads c hc).respects _) c hc
  obtain ⟨hp, heffective⟩ := hbefore.effective_of_returns hd (hreads c hc) hv
  exact ⟨hp, Parameter.allows_of_effective
    (fun given hgiven => Description.default_of_parameter hdoc he hp hgiven) heffective⟩

/-- Describes an endpoint with a required parameter whose default is null. -/
def tagText : String :=
  "[\"mark\",\"client-stream\",[\x7b\"name\":\"tag\",\"default\":null\x7d]]"

def tag : Parameter := { id := ⟨1⟩, name := "tag" }

def tagged : Endpoint :=
  ⟨"mark", .clientStream, [tag], (Endpoint.fault?_eq_none_iff _ _).mp (by decide)⟩

def readTag : Plan Unit := .perform (.named "tag") fun _ => .stop (.ok ())

theorem parse_tagText :
    Description.parse tagText = .ok ⟨"mark", .clientStream, [{ name := "tag" }]⟩ := by
  cbv

/-- After a request without a tag, one with a tag is read by name. -/
theorem tagText_allows :
    Description.toEndpoint ⟨"mark", .clientStream, [{ name := "tag" }]⟩ (fun _ => ⟨1⟩) =
        .ok tagged ∧
      Description.ofDocument (Description.bare (Json.Document.read tagText).1) =
        .ok ⟨"mark", .clientStream, [{ name := "tag" }]⟩ ∧
      tag.Allows [("tag", .bool true)] (.bool true) := by
  have hmade : Description.toEndpoint ⟨"mark", .clientStream, [{ name := "tag" }]⟩
      (fun _ => ⟨1⟩) = .ok tagged := rfl
  obtain ⟨hbare, hvalues⟩ := values_of_description (α := Unit) parse_tagText hmade
  have hreads : ∀ x, ∀ c ∈ readTag.calls x, c.action.Reads (· ∈ tagged.parameters) := by
    intro x c hc
    obtain rfl := List.mem_singleton.mp hc
    trivial
  have hallows := hvalues [⟨JsonRequest.raw { body := [] }, readTag, .evaluate⟩]
    { body := [("tag", .bool true)] } readTag _ rfl (hreads _) _ (List.mem_singleton.mpr rfl) tag
    (.bool true) (.named rfl rfl rfl)
  exact ⟨hmade, hbare, hallows.2⟩

end Stream

end Intake
