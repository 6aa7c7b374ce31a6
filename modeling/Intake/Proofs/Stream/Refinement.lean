import Intake.Proofs.Element.Findings
import Intake.Proofs.Endpoint.Registry
import Intake.Proofs.Request.Decoding
import Intake.Proofs.Stream.Reachable
import Intake.Proofs.Stream.Reference

/-!
# Streams of objects agree with the reference semantics

A stream reads all parameters of each object. Main statement: it comes to what the reference
semantics says, object by object.
-/

namespace Intake

open Reference

/-! ## Effective values -/

theorem Endpoint.substitute_fst {e : Endpoint} (hd : e.ConstantDefaults) {p : Parameter}
    (hp : p ∈ e.parameters) (supplied : List ParameterId) (absence : DecodeFailure) :
    (e.substitute supplied p absence).map Prod.fst = standIn p absence := by
  unfold substitute standIn
  rw [parameter?_of_mem hp]
  dsimp only
  split
  · cases hdef : p.default with
    | none => rfl
    | some d =>
        obtain ⟨v, rfl⟩ := hd p hp d hdef
        rfl
  · rfl

/-- What a parameter comes to that was not read before is its effective value. -/
theorem Element.given_of_unread {x : Element} (hd : x.endpoint.ConstantDefaults) {p : Parameter}
    (hp : p ∈ x.endpoint.parameters) {body : Dictionary Json}
    (hanswer : ∀ asked, x.request.inner.exchange.request.answer asked p = JsonRequest.lookup body p)
    (hresolved : x.request.resolved.get? p.id = none)
    (hvalues : x.request.inner.values.get? p.id = none) : x.given p = effective body p := by
  unfold given
  rw [Substituted.retrieve_fst _ _ hresolved, Cached.decode_fst hvalues, hanswer, effective_eq]
  cases JsonRequest.lookup body p with
  | ok v => rfl
  | error d =>
      dsimp only
      rw [Endpoint.substitute_fst hd hp]

/-! ## Elements that were not read from -/

/-- An element of an object of which some parameters were not read yet. -/
structure Unread (body : Dictionary Json) (known : Fixed) (ps : List Parameter) (x : Element) :
    Prop where
  constant : x.endpoint.ConstantDefaults
  declared : ∀ p ∈ ps, p ∈ x.endpoint.parameters
  answer_eq : ∀ asked p, x.request.inner.exchange.request.answer asked p = JsonRequest.lookup body p
  resolved_eq : ∀ p ∈ ps, x.request.resolved.get? p.id = none
  values_eq : ∀ p ∈ ps, x.request.inner.values.get? p.id = none
  last_eq : ∀ p ∈ ps, (x.constancy.record p.id).last = known p.id

namespace Unread

variable {body : Dictionary Json} {known : Fixed} {p : Parameter} {ps : List Parameter}
  {x : Element}

theorem given_eq (h : Unread body known ps x) (hp : p ∈ ps) : x.given p = effective body p :=
  Element.given_of_unread h.constant (h.declared p hp) (fun asked => h.answer_eq asked p)
    (h.resolved_eq p hp) (h.values_eq p hp)

/-- Reading a parameter leaves those with other ids unread. -/
theorem fetch (h : Unread body known (p :: ps) x) (hp : p.id ∉ ps.map Parameter.id) :
    Unread body known ps (x.fetch p).2 := by
  have hne : ∀ q ∈ ps, q.id ≠ p.id := fun q hq hqp => hp (hqp ▸ List.mem_map_of_mem hq)
  have hmem : ∀ q ∈ ps, q ∈ p :: ps := fun q hq => List.mem_cons_of_mem p hq
  refine ⟨?_, ?_, ?_, ?_, ?_, ?_⟩
  · rw [Element.fetch_endpoint]
    exact h.constant
  · rw [Element.fetch_endpoint]
    exact fun q hq => h.declared q (hmem q hq)
  · rw [Element.fetch_request, Substituted.request_retrieve]
    exact h.answer_eq
  · intro q hq
    rw [Element.fetch_request, (Substituted.get?_retrieve _ _ (hne q hq)).1]
    exact h.resolved_eq q (hmem q hq)
  · intro q hq
    rw [Element.fetch_request, (Substituted.get?_retrieve _ _ (hne q hq)).2]
    exact h.values_eq q (hmem q hq)
  · intro q hq
    rw [Element.fetch_constancy, Constancy.record_observe,
      Constancy.offer_of_ne (Ne.symm (hne q hq)), Option.or_none]
    exact h.last_eq q (hmem q hq)

theorem answers_eq (h : Unread body known ps x) (hn : (ps.map Parameter.id).Nodup) :
    x.answers ps = ps.map fun p =>
      (p, (Constancy.verdict p (known p.id) (effective body p)).mapError (·.withIndex x.index)) := by
  induction ps generalizing x with
  | nil => rfl
  | cons p rest ih =>
      rw [List.map_cons, List.nodup_cons] at hn
      have hrest := ih (h.fetch hn.1) hn.2
      rw [Element.fetch_index] at hrest
      simp only [Element.answers, List.map_cons, hrest]
      rw [Element.fetch_fst, Constancy.observe_fst, h.given_eq List.mem_cons_self,
        h.last_eq p List.mem_cons_self]

end Unread

/-! ## One object -/

theorem failure?_false_verdict (known : Fixed) (body : Dictionary Json) (p : Parameter) :
    Element.failure? false (Constancy.verdict p (known p.id) (effective body p)) =
      conflict? known body p := by
  unfold conflict? Constancy.verdict
  cases hv : effective body p with
  | error err => simp [Element.failure?_error, decode_isSome hv]
  | ok v =>
      cases hf : known p.id with
      | none => simp
      | some f =>
          by_cases hc : p.isConstant = true ∧ v.isNull = false
          · by_cases he : (f == v) = true
            · simp [hc, he]
            · simp [hc, he, Element.failure?_error, Constancy.violation]
          · simp [hc]

theorem failure?_true_verdict (known : Fixed) (body : Dictionary Json) (p : Parameter) :
    Element.failure? true (Constancy.verdict p (known p.id) (effective body p)) =
      failure? body p := by
  unfold failure? Constancy.verdict
  cases hv : effective body p with
  | error err => simp [Element.failure?_error, decode_isSome hv]
  | ok v =>
      dsimp only
      split
      · split
        · split
          · rfl
          · rfl
        · rfl
      · rfl

section

variable {e : Endpoint} {body : Dictionary Json} {known : Fixed} {x : Element}

theorem verdict_of_accepted (h : rejection? e known body = none) {p : Parameter}
    (hp : p ∈ e.parameters) :
    Constancy.verdict p (known p.id) (effective body p) = effective body p := by
  obtain ⟨hall, hagree⟩ := (rejection?_eq_none_iff e known body).mp h
  obtain ⟨v, hv⟩ := hall p hp
  rw [hv]
  unfold Constancy.verdict
  dsimp only
  split
  · rename_i hc
    cases hf : known p.id with
    | none => rfl
    | some f => simp [hagree p hp hc.1 v f hv hc.2 hf]
  · rfl

/-- Of an accepted object each parameter has its effective value. -/
theorem Unread.answers_of_accepted (h : Unread body known e.parameters x)
    (hr : rejection? e known body = none) :
    x.answers e.parameters = e.parameters.map fun p => (p, effective body p) := by
  rw [h.answers_eq e.wellFormed.ids_distinct]
  refine List.map_congr_left fun p hp => ?_
  rw [verdict_of_accepted hr hp]
  obtain ⟨v, hv⟩ := ((rejection?_eq_none_iff e known body).mp hr).1 p hp
  rw [hv]
  rfl

theorem Unread.rejection?_answers (h : Unread body known e.parameters x) :
    Element.rejection? (x.answers e.parameters) =
      (rejection? e known body).map (·.withIndex x.index) := by
  rw [h.answers_eq e.wellFormed.ids_distinct]
  unfold Element.rejection? rejection?
  rw [List.findSome?_map, List.findSome?_map, Option.map_or, List.map_findSome?,
    List.map_findSome?]
  congr 2
  · funext p
    exact (Element.failure?_withIndex _ _ _).trans
      (congrArg _ (failure?_false_verdict known body p))
  · funext p
    exact (Element.failure?_withIndex _ _ _).trans
      (congrArg _ (failure?_true_verdict known body p))

theorem Unread.resolveAll_fst (h : Unread body known e.parameters x) (he : x.endpoint = e) :
    x.resolveAll.1 = outcome e known x.index body := by
  subst he
  rw [Element.resolveAll_fst, h.rejection?_answers]
  unfold outcome
  cases hr : rejection? x.endpoint known body with
  | some err => rfl
  | none =>
      rw [h.answers_of_accepted hr]
      simp only [Option.map_none, Element.entries, values, List.filterMap_map]
      rfl

theorem Unread.not_fails_fetches (h : Unread body known e.parameters x)
    (hr : rejection? e known body = none) : ¬∃ o ∈ x.fetches e.parameters, o.Fails := by
  unfold Element.fetches
  rw [h.answers_of_accepted hr, List.map_map]
  rintro ⟨o, ho, hf⟩
  obtain ⟨p, hp, rfl⟩ := List.mem_map.mp ho
  obtain ⟨v, hv⟩ := ((rejection?_eq_none_iff e known body).mp hr).1 p hp
  rw [Function.comp_apply, hv] at hf
  cases hf

/-- What an object fixes an id to that was free, whether it is accepted or not. -/
theorem Unread.accepted_fetches (h : Unread body known e.parameters x) (id : ParameterId) :
    (known id).or (Occurrence.accepted (x.fetches e.parameters) id) = extend e known body id := by
  have hoffered : Occurrence.accepted (x.fetches e.parameters) id =
      (e.parameter? id).bind fun p =>
        Constancy.offer p (Constancy.verdict p (known p.id) (effective body p)) id := by
    unfold Occurrence.accepted Element.fetches
    rw [h.answers_eq e.wellFormed.ids_distinct, List.map_map, List.findSome?_map]
    -- ids are unique, so the first value on offer for an id is that of the one parameter with it
    refine (findSome?_of_nodup Parameter.id e.wellFormed.ids_distinct
      fun p hp => Constancy.offer_of_ne hp _).trans ?_
    exact Option.bind_congr fun p _ => Constancy.offer_mapError ..
  rw [hoffered, extend]
  cases hp : e.parameter? id with
  | none => rfl
  | some p =>
      obtain rfl := (Endpoint.mem_of_parameter? hp).2
      rw [Option.bind_some, Option.bind_some]
      cases effective body p with
      | error err => rfl
      | ok v =>
          cases known p.id with
          | none =>
              by_cases hc : p.isConstant = true ∧ v.isNull = false
              · simp [Constancy.verdict, Constancy.offer, hc]
              · simp [Constancy.verdict, Constancy.offer, hc]
          | some f => rfl

end

/-! ## Streams -/

namespace Stream

/-- A stream knows what the reference semantics knows at the same place. -/
structure Tracks (e : Endpoint) (known : Fixed) (index : Nat) (s : Stream) : Prop where
  endpoint_eq : s.endpoint = e
  received_eq : s.received = index
  orderly : s.constancy.Orderly
  standing_eq : ∀ id, s.constancy.standing id = known id

variable {e : Endpoint} {known : Fixed} {index : Nat} {s : Stream}

theorem Tracks.new (e : Endpoint) : Tracks e (fun _ => none) 0 { endpoint := e } :=
  ⟨rfl, rfl, .new, Constancy.standing_new⟩

theorem Tracks.unread (h : Tracks e known index s) (hd : e.ConstantDefaults) (r : JsonRequest) :
    Unread r.body known e.parameters (s.element r.raw) where
  constant := by
    rw [← h.endpoint_eq] at hd
    exact hd
  declared p hp := by
    rw [← h.endpoint_eq] at hp
    exact hp
  answer_eq _ _ := rfl
  resolved_eq _ _ := rfl
  values_eq _ _ := rfl
  last_eq p _ := h.standing_eq p.id

/-- What a stream is left with after an element of an object. -/
theorem Tracks.standing_develops (h : Tracks e known index s) (hd : e.ConstantDefaults)
    (r : JsonRequest) {d : Constancy}
    (hdev : Develops s.constancy.begin ((s.element r.raw).fetches e.parameters ++
      if (outcome e known index r.body).isOk then [] else [.noted]) d) (id : ParameterId) :
    d.standing id = after e known r.body id := by
  have hu := h.unread hd r
  rw [hdev.standing h.orderly, h.standing_eq]
  unfold after
  cases hr : rejection? e known r.body with
  | some err =>
      -- the failure of the handler is noted at the end, whatever was read before
      have hf : d.failed = true := by
        rw [hdev.failed_iff]
        refine Or.inr ⟨.noted, ?_, .noted⟩
        simp [outcome, hr, Except.isOk, Except.toBool]
      simp [hf]
  | none =>
      have hok : (outcome e known index r.body).isOk = true := by
        simp [outcome, hr, Except.isOk, Except.toBool]
      simp only [hok, ↓reduceIte, List.append_nil] at hdev ⊢
      have hf : d.failed = false := by
        rw [← Bool.not_eq_true, hdev.failed_iff, h.orderly.failed_begin]
        rintro (hb | hb)
        · cases hb
        · exact hu.not_fails_fetches hr hb
      simp only [hf, Bool.false_eq_true, ↓reduceIte, Option.isSome_none]
      exact hu.accepted_fetches id

/-- One object comes to the reference outcome, and the check develops by what reading it says. -/
theorem Tracks.develops (h : Tracks e known index s) (ho : s.isOpen = true)
    (hd : e.ConstantDefaults) (r : JsonRequest) :
    (s.evaluate r.raw Element.resolveAll).result = outcome e known index r.body ∧
      Develops s.constancy.begin ((s.element r.raw).fetches e.parameters ++
          if (outcome e known index r.body).isOk then [] else [.noted])
        (s.evaluate r.raw Element.resolveAll).stream.constancy := by
  have hout : (s.element r.raw).resolveAll.1 = outcome e known index r.body := by
    rw [(h.unread hd r).resolveAll_fst h.endpoint_eq, ← h.received_eq]
    rfl
  -- a rejection is already about its place, so settling the handler does not change it
  have hsame : (outcome e known index r.body).mapError (·.withIndexIfNone s.received) =
      outcome e known index r.body := by
    unfold outcome
    cases rejection? e known r.body <;> rfl
  have hfst := Handler.settled_fst Element.resolveAll s.received (s.element r.raw)
  rw [hout, hsame] at hfst
  have hdev := (Develops.of_passes (s.element r.raw).passes_resolveAll).settled s.received
  rw [hfst, show (s.element r.raw).endpoint = e from h.endpoint_eq] at hdev
  unfold Stream.evaluate
  rw [visit_of_open ho]
  exact ⟨hfst, hdev⟩

/-- The step lemma: one object comes to the reference outcome and leaves the reference values. -/
theorem Tracks.evaluate (h : Tracks e known index s) (ho : s.isOpen = true)
    (hd : e.ConstantDefaults) (r : JsonRequest) :
    (s.evaluate r.raw Element.resolveAll).result = outcome e known index r.body ∧
      Tracks e (after e known r.body) (index + 1) (s.evaluate r.raw Element.resolveAll).stream := by
  obtain ⟨hres, hdev⟩ := h.develops ho hd r
  refine ⟨hres, ?_, ?_, hdev.orderly, h.standing_develops hd r hdev⟩
  · exact (s.endpoint_visit r.raw _).trans h.endpoint_eq
  · rw [received_evaluate, h.received_eq]

/-- The records after an object: what was known before it, and what is known with it. -/
theorem Tracks.record_evaluate (h : Tracks e known index s) (ho : s.isOpen = true)
    (hd : e.ConstantDefaults) (r : JsonRequest) (id : ParameterId) :
    (s.evaluate r.raw Element.resolveAll).stream.constancy.record id =
      ⟨known id, extend e known r.body id⟩ := by
  have hnoted : Occurrence.accepted ((s.element r.raw).fetches e.parameters ++
      if (outcome e known index r.body).isOk then [] else [.noted]) id =
        Occurrence.accepted ((s.element r.raw).fetches e.parameters) id := by
    unfold Occurrence.accepted
    rw [List.findSome?_append]
    cases (outcome e known index r.body).isOk with
    | true => exact Option.or_none
    | false => exact Option.or_none
  rw [(h.develops ho hd r).2.record_eq, h.orderly.record_begin_eq, h.standing_eq, hnoted,
    (h.unread hd r).accepted_fetches]

theorem Tracks.evaluateAll (h : Tracks e known index s) (hm : e.pattern.acceptsMany = true)
    (hd : e.ConstantDefaults) (requests : List JsonRequest) :
    (s.evaluateAll Element.resolveAll (requests.map JsonRequest.raw)).map Evaluation.result =
      Reference.run e known index (requests.map JsonRequest.body) := by
  induction requests generalizing s known index with
  | nil => rfl
  | cons r rest ih =>
      obtain ⟨hres, hnext⟩ := h.evaluate (by simp [isOpen, h.endpoint_eq, hm]) hd r
      simp only [List.map_cons, Stream.evaluateAll, Reference.run]
      -- the known values of the reference semantics go along with the stream
      rw [hres, ih hnext]

/-- A stream of objects comes to just what the reference semantics says, of which the second and the
third part tell when it accepts an object, and with which values. -/
theorem evaluateAll_eq_reference (e : Endpoint) (hm : e.pattern.acceptsMany = true)
    (hd : e.ConstantDefaults) :
    (∀ requests : List JsonRequest,
      (Stream.evaluateAll { endpoint := e } Element.resolveAll
        (requests.map JsonRequest.raw)).map Evaluation.result =
          Reference.run e (fun _ => none) 0 (requests.map JsonRequest.body)) ∧
    (∀ known body, rejection? e known body = none ↔
      (∀ p ∈ e.parameters, ∃ v, effective body p = .ok v) ∧
        ∀ p ∈ e.parameters, p.isConstant = true → ∀ v f, effective body p = .ok v →
          v.isNull = false → known p.id = some f → (f == v) = true) ∧
    ∀ body name, (values e body).get? name =
      (e.named? name).bind fun p => (effective body p).toOption :=
  ⟨fun requests => (Tracks.new e).evaluateAll hm hd requests, rejection?_eq_none_iff e,
    get?_values e⟩

/-- The first and the fourth object lack a value, and the third one breaks with the second. -/
def searches : List JsonRequest :=
  [{ body := [("limit", .integer 7), ("order", .bool true)] },
    { body := [("limit", .integer 5)] },
    { body := [("label", .string "new"), ("limit", .integer 7)] },
    { body := [("order", .string "rising")] },
    { body := [("label", .null), ("limit", .integer 5), ("order", .string "rising")] }]

theorem evaluateAll_searches :
    Endpoint.search.pattern.acceptsMany = true ∧ Endpoint.search.ConstantDefaults ∧
      (Stream.evaluateAll { endpoint := .search } Element.resolveAll
        (searches.map JsonRequest.raw)).map Evaluation.result =
          [.error ((Error.ofDecode
              (.malformed "order" "expected string, found boolean")).withIndex 0),
            .ok [("label", .null), ("limit", .integer 5), ("order", .string "rising")],
            .error ((Constancy.violation .limit (.integer 5) (.integer 7)).withIndex 2),
            .error ((Parameter.limit.missing (.noEntry "limit")).withIndex 3),
            .ok [("label", .null), ("limit", .integer 5), ("order", .string "rising")]] := by
  have h := evaluateAll_eq_reference .search rfl Endpoint.search_constantDefaults
  exact ⟨rfl, Endpoint.search_constantDefaults, (h.1 searches).trans rfl⟩

end Stream

end Intake
