import Intake.Proofs.Stream.Soundness

/-!
# Elements of rewritten objects

An object may leave a parameter out, give null for it or spell out its default. Main statements:
retrievals from elements of two such objects come to the same, or to failures that are taken for the
same, and leave both in the same state; and a failure to decode is always that of the object.
-/

namespace Intake

open Reference

/-! ## Rewritten objects -/

/-- Where an object has no value of a required parameter, another one may spell out the default. -/
def Spelled (e : Endpoint) (body other : Dictionary Json) : Prop :=
  ∀ p ∈ e.parameters, other.get? p.name = body.get? p.name ∨
    p.isRequired = true ∧ (body.get? p.name = none ∨ body.get? p.name = some .null) ∧
      ∃ v, p.default = some (.fixed v) ∧ other.get? p.name = some v

/-- Where an object has null for a parameter, another one may have no entry. -/
def Omitted (e : Endpoint) (body other : Dictionary Json) : Prop :=
  ∀ p ∈ e.parameters, other.get? p.name = body.get? p.name ∨
    body.get? p.name = some .null ∧ other.get? p.name = none

/-- The same failure, or that of a missing parameter without an entry in place of one without a
value. -/
inductive Error.Recast : Error → Error → Prop where
  | same (e : Error) : Recast e e
  | missing (p : Parameter) (index : Option Nat) :
      Recast { p.missing (.noValue p.name) with index }
        { p.missing (.noEntry p.name) with index }

section

variable {e : Endpoint} {body other : Dictionary Json} {p : Parameter}

theorem Spelled.insert (hp : p ∈ e.parameters) (hrequired : p.isRequired = true) {v : Json}
    (hdefault : p.default = some (.fixed v))
    (habsent : body.get? p.name = none ∨ body.get? p.name = some .null) :
    Spelled e body (body.insert p.name v) := by
  intro q hq
  rw [Dictionary.get?_insert]
  split
  · rename_i hname
    have hsame : some q = some p := by
      rw [← Endpoint.named?_of_mem hq, ← Endpoint.named?_of_mem hp, hname]
    cases hsame
    exact .inr ⟨hrequired, habsent, v, hdefault, rfl⟩
  · exact .inl rfl

theorem Omitted.filter (hnull : body.get? p.name = some .null) :
    Omitted e body (List.filter (·.1 ≠ p.name) body) := by
  intro q _
  rw [Dictionary.get?_filter]
  split
  · rename_i hname
    rw [hname]
    exact .inr ⟨hnull, rfl⟩
  · exact .inl rfl

theorem effective_congr (h : other.get? p.name = body.get? p.name) :
    effective other p = effective body p := by
  unfold effective
  rw [h]

theorem effective_of_absent (h : body.get? p.name = none ∨ body.get? p.name = some .null) :
    ∃ absence, effective body p = standIn p absence := by
  unfold effective
  rcases h with h | h
  · rw [h]
    exact ⟨_, rfl⟩
  · rw [h]
    exact ⟨_, rfl⟩

theorem Spelled.effective_eq (h : Spelled e body other)
    (hkind : ∀ v, p.default = some (.fixed v) → p.kind.accepts v = true) (hp : p ∈ e.parameters) :
    effective other p = effective body p := by
  obtain hsame | ⟨hrequired, habsent, v, hdefault, hspelled⟩ := h p hp
  · exact effective_congr hsame
  · have hstandIn : ∀ absence, standIn p absence = .ok v := by
      intro absence
      simp only [standIn, hrequired, hdefault]
      rfl
    obtain ⟨absence, hbody⟩ := effective_of_absent habsent
    rw [hbody, hstandIn]
    unfold effective
    rw [hspelled]
    dsimp only
    split
    · exact hstandIn _
    · rw [if_pos (hkind v hdefault)]

theorem Omitted.effective_similar (h : Omitted e body other) (hp : p ∈ e.parameters) :
    Similar Error.Recast (effective body p) (effective other p) := by
  obtain hsame | ⟨hnull, hnone⟩ := h p hp
  · rw [effective_congr hsame]
    exact .refl .same _
  · have hbody : effective body p = standIn p (.noValue p.name) := by
      unfold effective
      rw [hnull]
      rfl
    have hother : effective other p = standIn p (.noEntry p.name) := by
      unfold effective
      rw [hnone]
    rw [hbody, hother]
    unfold standIn
    split
    · cases p.default with
      | some d => exact .ok _
      | none => exact .error (.missing p none)
    · exact .ok _

end

/-! ## Failures that are taken for the same -/

/-- Failures that are taken for the same are about the same place and of the same sort, and still
are when they are put in a place. -/
structure Error.Tolerance (like : Error → Error → Prop) : Prop where
  refl : ∀ e, like e e
  decode_isSome : ∀ {e e'}, like e e' → e.decode.isSome = e'.decode.isSome
  index_eq : ∀ {e e'}, like e e' → e.index = e'.index
  withIndex : ∀ {e e'} (index : Nat), like e e' → like (e.withIndex index) (e'.withIndex index)

namespace Error

theorem Tolerance.eq : Tolerance Eq where
  refl _ := rfl
  decode_isSome h := congrArg (fun e : Error => e.decode.isSome) h
  index_eq h := congrArg Error.index h
  withIndex index h := congrArg (Error.withIndex · index) h

theorem Tolerance.recast : Tolerance Recast where
  refl := .same
  decode_isSome h := by cases h <;> rfl
  index_eq h := by cases h <;> rfl
  withIndex index h := by
    cases h with
    | same e => exact .same _
    | missing p _ => exact .missing p (some index)

theorem Tolerance.withIndexIfNone {like : Error → Error → Prop} (h : Tolerance like)
    {e e' : Error} (index : Nat) (he : like e e') :
    like (e.withIndexIfNone index) (e'.withIndexIfNone index) := by
  unfold Error.withIndexIfNone
  rw [h.index_eq he]
  split
  · exact h.withIndex index he
  · exact he

end Error

/-! ## Elements -/

/-- Elements that look the same to a handler as long as it retrieves nothing. -/
structure Element.LooksLike (x y : Element) : Prop where
  endpoint_eq : x.endpoint = y.endpoint
  index_eq : x.index = y.index
  metadata_eq : x.metadata = y.metadata
  log_eq : x.log = y.log
  isReported_eq : x.isReported = y.isReported

/-- Elements of two objects that are in the same state but for what they hold of the objects. -/
structure Element.Twins (e : Endpoint) (like : Error → Error → Prop) (body other : Dictionary Json)
    (x y : Element) : Prop where
  looks : x.LooksLike y
  sound : Sound e body x
  sound_other : Sound e other y
  constancy_eq : x.constancy = y.constancy
  reported : List.Forall₂ like x.reported y.reported

namespace Element

@[simp] theorem isReported_report (x : Element) (err : Error) :
    (x.report err).isReported = true := by
  unfold isReported report
  cases x.reported <;> rfl

theorem metadata_fetch (x : Element) (p : Parameter) : (x.fetch p).2.metadata = x.metadata := by
  have h := Substituted.request_retrieve x.endpoint x.request p
  rw [← fetch_request] at h
  exact congrArg RawRequest.metadata h

end Element

theorem Constancy.observe_similar {like : Error → Error → Prop} (hrefl : ∀ e, like e e)
    (c : Constancy) (p : Parameter) {given given' : Except Error Json}
    (h : Similar like given given') :
    Similar like (c.observe p given).1 (c.observe p given').1 ∧
      (c.observe p given).2 = (c.observe p given').2 := by
  cases h with
  | ok v => exact ⟨.refl hrefl _, rfl⟩
  | error he => exact ⟨.error he, rfl⟩

namespace Element.Twins

variable {e : Endpoint} {like : Error → Error → Prop} {body other : Dictionary Json}
  {x y : Element} {p : Parameter}

theorem fetch (hlike : Error.Tolerance like) (hd : e.ConstantDefaults)
    (hbodies : ∀ p ∈ e.parameters, Similar like (effective body p) (effective other p))
    (hp : p ∈ e.parameters) (h : Twins e like body other x y) :
    Matching like (Twins e like body other) (x.fetch p) (y.fetch p) := by
  have hgiven : Similar like (x.given p) (y.given p) := by
    rw [h.sound.given_eq hd hp, h.sound_other.given_eq hd hp]
    exact hbodies p hp
  obtain ⟨hobserved, hconstancy⟩ := x.constancy.observe_similar hlike.refl p hgiven
  have hresult : Similar like (x.fetch p).1 (y.fetch p).1 := by
    rw [fetch_fst, fetch_fst, ← h.looks.index_eq, ← h.constancy_eq]
    exact hobserved.mapError fun he => hlike.withIndex _ he
  refine ⟨hresult, ⟨?_, ?_, ?_, ?_, ?_⟩, h.sound.fetch hd hp, h.sound_other.fetch hd hp, ?_, ?_⟩
  · rw [fetch_endpoint, fetch_endpoint, h.looks.endpoint_eq]
  · rw [fetch_index, fetch_index, h.looks.index_eq]
  · rw [metadata_fetch, metadata_fetch, h.looks.metadata_eq]
  · rw [fetch_log, fetch_log, h.looks.log_eq, hresult.toOption_eq]
  · unfold isReported
    rw [fetch_reported, fetch_reported]
    exact h.looks.isReported_eq
  · rw [fetch_constancy, fetch_constancy, hconstancy, h.constancy_eq]
  · rw [fetch_reported, fetch_reported]
    exact h.reported

theorem correspondence (hlike : Error.Tolerance like) (hd : e.ConstantDefaults)
    (hbodies : ∀ p ∈ e.parameters, Similar like (effective body p) (effective other p)) :
    Correspondence (· ∈ e.parameters) like (Twins e like body other) where
  refl := hlike.refl
  decode_isSome := hlike.decode_isSome
  endpoint_eq := fun h => h.looks.endpoint_eq
  index_eq := fun h => h.looks.index_eq
  declared := fun h p hp => h.sound.endpoint_eq ▸ hp
  fetch := fetch hlike hd hbodies
  report := by
    rintro x y err err' herr h
    refine ⟨⟨h.looks.endpoint_eq, h.looks.index_eq, h.looks.metadata_eq, h.looks.log_eq, ?_⟩,
      ⟨h.sound.endpoint_eq, h.sound.answer_eq, h.sound.held_eq⟩,
      ⟨h.sound_other.endpoint_eq, h.sound_other.answer_eq, h.sound_other.held_eq⟩,
      h.constancy_eq, List.rel_append h.reported (.cons herr .nil)⟩
    rw [isReported_report, isReported_report]
  noteFailure := fun h =>
    ⟨⟨h.looks.endpoint_eq, h.looks.index_eq, h.looks.metadata_eq, h.looks.log_eq,
        h.looks.isReported_eq⟩,
      ⟨h.sound.endpoint_eq, h.sound.answer_eq, h.sound.held_eq⟩,
      ⟨h.sound_other.endpoint_eq, h.sound_other.answer_eq, h.sound_other.held_eq⟩,
      congrArg Constancy.fail h.constancy_eq, h.reported⟩

end Element.Twins

/-! ## Failures to decode -/

namespace Element.Sound

variable {e : Endpoint} {body : Dictionary Json} {x : Element} {p : Parameter} {err : Error}

/-- A retrieval that fails with a failure to decode fails for want of a value in the object. -/
theorem shortfall_of_fetch (h : Sound e body x) (hd : e.ConstantDefaults) (hp : p ∈ e.parameters)
    (hf : (x.fetch p).1 = .error err) (hdecode : err.decode.isSome = true) :
    ∃ shortfall, Shortfall e body shortfall ∧ err = shortfall.withIndex x.index := by
  rw [fetch_fst, mapError_eq_error_iff, Constancy.observe_fst, h.given_eq hd hp] at hf
  obtain ⟨failure, hfailure, rfl⟩ := hf
  refine ⟨failure, ?_, rfl⟩
  cases hv : effective body p with
  | ok v =>
      rw [hv, verdict_ok_eq_error_iff] at hfailure
      obtain ⟨_, _, _, _, _, rfl⟩ := hfailure
      cases hdecode
  | error cause =>
      rw [hv] at hfailure
      cases hfailure
      exact .of_effective hp hv

theorem shortfall_of_reports {c : Call} (h : Sound e body c.element) (hd : e.ConstantDefaults)
    (hreads : c.action.Reads (· ∈ e.parameters)) (herr : err ∈ c.reports)
    (hdecode : err.decode.isSome = true) :
    ∃ shortfall, Shortfall e body shortfall ∧ err = shortfall.withIndex c.element.index := by
  obtain hall | ⟨p, hp, hread⟩ := Call.cases_of_reports herr
  · obtain ⟨p, hanswer⟩ := exists_answer_of_resolveAll hall
    obtain ⟨hp, y, hy, hindex, hf⟩ :=
      h.fetch_of_answers hd (fun _ hq => h.endpoint_eq ▸ hq) hanswer
    rw [← hindex]
    exact hy.shortfall_of_fetch hd hp hf hdecode
  · have hdeclared : p ∈ e.parameters := hread _ (fun _ hq => h.endpoint_eq ▸ hq) hreads
    exact h.shortfall_of_fetch hd hdeclared hp hdecode

end Element.Sound

end Intake
