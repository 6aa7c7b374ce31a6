import Intake.Constancy
import Intake.Proofs.Lookup
import Intake.Substitution

/-!
# Reference semantics of streams of objects

The reference semantics knows no cache and no steps. It keeps the fixed values of constant
parameters and reads the effective value of each parameter off the body. Main statements: which
bodies are accepted, what is found in their values, and why the others are rejected.
-/

namespace Intake

namespace Reference

/-- The values that constant parameters are fixed to, by their ids. -/
abbrev Fixed := ParameterId → Option Json

/-- What stands in for a value that a body does not have. -/
def standIn (p : Parameter) (absence : DecodeFailure) : Except Error Json :=
  if p.isRequired then
    match p.default with
    | some d => .ok (d.supply 0)
    | none => .error (p.missing absence)
  else .ok .null

/-- The effective value of a parameter. -/
def effective (body : Dictionary Json) (p : Parameter) : Except Error Json :=
  match body.get? p.name with
  | none => standIn p (.noEntry p.name)
  | some v =>
      if v.isNull then standIn p (.noValue p.name)
      else if p.kind.accepts v then .ok v
      else .error (.ofDecode (.malformed p.name
        ("expected " ++ Worded.word p.kind ++ ", found " ++ v.shape)))

/-- A constant parameter whose effective value is not the fixed one. -/
def conflict? (fixed : Fixed) (body : Dictionary Json) (p : Parameter) : Option Error :=
  match effective body p, fixed p.id with
  | .ok v, some f =>
      if p.isConstant && !v.isNull && !(f == v) then some (Constancy.violation p f v) else none
  | _, _ => none

/-- A parameter without an effective value. -/
def failure? (body : Dictionary Json) (p : Parameter) : Option Error :=
  match effective body p with
  | .ok _ => none
  | .error e => some e

variable (e : Endpoint)

/-- Why a body is rejected: the first conflict, or else the first failure. -/
def rejection? (fixed : Fixed) (body : Dictionary Json) : Option Error :=
  (e.parameters.findSome? (conflict? fixed body)).or (e.parameters.findSome? (failure? body))

def values (body : Dictionary Json) : Dictionary Json :=
  .ofList (e.parameters.filterMap fun p => (effective body p).toOption.map fun v => (p.name, v))

/-- What the body at a place of the stream comes to. -/
def outcome (fixed : Fixed) (index : Nat) (body : Dictionary Json) :
    Except Error (Dictionary Json) :=
  match rejection? e fixed body with
  | some err => .error (err.withIndex index)
  | none => .ok (values e body)

/-- The fixed values with those that an accepted body adds. -/
def extend (fixed : Fixed) (body : Dictionary Json) : Fixed := fun id =>
  (fixed id).or ((e.parameter? id).bind fun p =>
    match effective body p with
    | .ok v => if p.isConstant && !v.isNull then some v else none
    | .error _ => none)

/-- The fixed values after a body: a rejected one adds none. -/
def after (fixed : Fixed) (body : Dictionary Json) : Fixed :=
  if (rejection? e fixed body).isSome then fixed else extend e fixed body

/-- What the bodies from a place of the stream on come to. -/
def run (fixed : Fixed) (index : Nat) : List (Dictionary Json) →
    List (Except Error (Dictionary Json))
  | [] => []
  | body :: rest => outcome e fixed index body :: run (after e fixed body) (index + 1) rest

/-! ## The reference semantics itself -/

theorem rejection?_eq_none_iff (fixed : Fixed) (body : Dictionary Json) :
    rejection? e fixed body = none ↔
      (∀ p ∈ e.parameters, ∃ v, effective body p = .ok v) ∧
        ∀ p ∈ e.parameters, p.isConstant = true → ∀ v f, effective body p = .ok v →
          v.isNull = false → fixed p.id = some f → (f == v) = true := by
  unfold rejection?
  rw [Option.or_eq_none_iff, List.findSome?_eq_none_iff, List.findSome?_eq_none_iff, and_comm]
  refine and_congr (forall₂_congr fun p _ => ?_) (forall₂_congr fun p _ => ?_)
  · unfold failure?
    cases effective body p with
    | ok v => simp
    | error err => simp
  · unfold conflict?
    cases effective body p with
    | error err => simp
    | ok v =>
        cases fixed p.id with
        | none => simp
        | some f =>
            simp only [ite_eq_right_iff, reduceCtorEq, imp_false, Bool.and_eq_true,
              Bool.not_eq_true', not_and, Bool.not_eq_false, Except.ok.injEq, Option.some.injEq]
            constructor
            · rintro h hp v f rfl hv rfl
              exact h ⟨hp, hv⟩
            · intro h hpv
              exact h hpv.1 v f rfl hpv.2 rfl

theorem get?_values (body : Dictionary Json) (name : String) :
    (values e body).get? name = (e.named? name).bind fun p => (effective body p).toOption := by
  have hentries : values e body =
      .ofList ((e.parameters.map fun p => (p.name, (effective body p).toOption)).filterMap
        fun entry => entry.2.map fun v => (entry.1, v)) := by
    rw [values, List.filterMap_map]
    rfl
  have hnames : ((e.parameters.map fun p => (p.name, (effective body p).toOption)).map
      Prod.fst).Nodup := by
    rw [List.map_map]
    exact e.wellFormed.names_distinct
  rw [hentries, Dictionary.get?_ofList_filterMap hnames, List.find?_map, Option.bind_map]
  rfl

end Reference

/-! ## Effective values and the answers of requests -/

theorem JsonRequest.lookup_eq (body : Dictionary Json) (p : Parameter) :
    lookup body p =
      match body.get? p.name with
      | none => .error (.noEntry p.name)
      | some v =>
          if v.isNull then .error (.noValue p.name)
          else if p.kind.accepts v then .ok v
          else .error (.malformed p.name
            ("expected " ++ Worded.word p.kind ++ ", found " ++ v.shape)) := by
  unfold lookup
  cases body.get? p.name with
  | none => rfl
  | some v => cases v <;> rfl

theorem Reference.effective_eq (body : Dictionary Json) (p : Parameter) :
    effective body p =
      match JsonRequest.lookup body p with
      | .ok v => .ok v
      | .error d => if d.isAbsence then standIn p d else .error (.ofDecode d) := by
  rw [JsonRequest.lookup_eq]
  unfold effective
  cases body.get? p.name with
  | none => rfl
  | some v =>
      dsimp only
      by_cases hn : v.isNull = true
      · simp [hn, DecodeFailure.isAbsence]
      · by_cases ha : p.kind.accepts v = true
        · simp [hn, ha]
        · simp [hn, ha, DecodeFailure.isAbsence]

/-- A parameter without an effective value is missing or malformed. -/
theorem Reference.error_of_effective {body : Dictionary Json} {p : Parameter} {err : Error}
    (h : effective body p = .error err) :
    ∃ d, JsonRequest.lookup body p = .error d ∧
      (d.isAbsence = true ∧ p.isRequired = true ∧ p.default = none ∧ err = p.missing d ∨
        d.isAbsence = false ∧ err = .ofDecode d) := by
  rw [effective_eq] at h
  cases hl : JsonRequest.lookup body p with
  | ok v =>
      rw [hl] at h
      cases h
  | error d =>
      refine ⟨d, rfl, ?_⟩
      simp only [hl, standIn] at h
      split at h
      · rename_i ha
        split at h
        · rename_i hrequired
          split at h
          · cases h
          · rename_i hnone
            cases h
            exact .inl ⟨ha, hrequired, hnone, rfl⟩
        · cases h
      · rename_i ha
        cases h
        exact .inr ⟨Bool.eq_false_iff.mpr ha, rfl⟩

theorem Reference.decode_isSome {body : Dictionary Json} {p : Parameter} {err : Error}
    (h : effective body p = .error err) : err.decode.isSome = true := by
  obtain ⟨d, _, ⟨_, _, _, rfl⟩ | ⟨_, rfl⟩⟩ := error_of_effective h
  · rfl
  · rfl

namespace Reference

variable {e : Endpoint} {known : Fixed} {body : Dictionary Json}

/-! ## Rejections -/

/-- The report of a constant parameter that an object gives another value. -/
inductive Violation (e : Endpoint) (known : Fixed) (body : Dictionary Json) : Error → Prop where
  | intro {p : Parameter} {fixed received : Json} : p ∈ e.parameters → p.isConstant = true →
      known p.id = some fixed → effective body p = .ok received → received.isNull = false →
      (fixed == received) = false → Violation e known body (Constancy.violation p fixed received)

/-- The report of a parameter of which an object has no value, or a malformed one. -/
inductive Shortfall (e : Endpoint) (body : Dictionary Json) : Error → Prop where
  | missing {p : Parameter} {d : DecodeFailure} : p ∈ e.parameters → p.isRequired = true →
      p.default = none → JsonRequest.lookup body p = .error d → d.isAbsence = true →
      Shortfall e body (p.missing d)
  | malformed {p : Parameter} {d : DecodeFailure} : p ∈ e.parameters →
      JsonRequest.lookup body p = .error d → d.isAbsence = false → Shortfall e body (.ofDecode d)

theorem violation_iff {err : Error} :
    Violation e known body err ↔ ∃ p ∈ e.parameters, conflict? known body p = some err := by
  constructor
  · rintro ⟨hp, hc, hf, hv, hn, hne⟩
    exact ⟨_, hp, by simp [conflict?, hf, hv, hc, hn, hne]⟩
  · rintro ⟨p, hp, h⟩
    unfold conflict? at h
    split at h
    · rename_i received fixed hv hf
      split at h
      · rename_i hc
        simp only [Bool.and_eq_true, Bool.not_eq_true'] at hc
        cases h
        exact .intro hp hc.1.1 hf hv hc.1.2 hc.2
      · cases h
    · cases h

theorem Shortfall.of_effective {p : Parameter} (hp : p ∈ e.parameters) {err : Error}
    (h : effective body p = .error err) : Shortfall e body err := by
  obtain ⟨d, hl, ⟨ha, hrequired, hnone, rfl⟩ | ⟨ha, rfl⟩⟩ := error_of_effective h
  · exact .missing hp hrequired hnone hl ha
  · exact .malformed hp hl ha

/-- A rejection is a violation if there is one. -/
theorem cases_of_rejection? {err : Error} (h : rejection? e known body = some err) :
    Violation e known body err ∨
      (∀ other, ¬ Violation e known body other) ∧ Shortfall e body err := by
  rw [rejection?, Option.or_eq_some_iff] at h
  obtain hconflict | ⟨hnone, hfailure⟩ := h
  · obtain ⟨p, hp, hc⟩ := List.exists_of_findSome?_eq_some hconflict
    exact .inl (violation_iff.mpr ⟨p, hp, hc⟩)
  · refine .inr ⟨fun other hother => ?_, ?_⟩
    · obtain ⟨p, hp, hc⟩ := violation_iff.mp hother
      rw [List.findSome?_eq_none_iff.mp hnone p hp] at hc
      cases hc
    · obtain ⟨p, hp, hf⟩ := List.exists_of_findSome?_eq_some hfailure
      unfold failure? at hf
      split at hf
      · cases hf
      · rename_i heffective
        cases hf
        exact .of_effective hp heffective

end Reference

end Intake
