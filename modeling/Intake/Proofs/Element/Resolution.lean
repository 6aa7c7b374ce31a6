import Intake.Proofs.Element.Findings
import Intake.Proofs.Endpoint.Registry
import Intake.Proofs.Inversion
import Intake.Proofs.Request.Settlement

/-!
# Reading all parameters and reading each

A reading of all parameters is compared with a handler that retrieves each name in order and
tolerates every failure. Main statement: both leave the same behind but for what was reported, and
the reading of all parameters comes to all the values, or else to the first violation, or else to
the first failure.
-/

namespace Intake

/-- The steps that retrieve names one after the other, whatever fails. -/
def Step.each (names : List String) : List Step :=
  names.map fun name => { action := .named name, tolerant := true }

namespace Element

/-- The same element with other reports. -/
def reporting (x : Element) (reported : List Error) : Element := { x with reported }

variable (x : Element) (reported : List Error)

theorem fetch_reporting (p : Parameter) :
    (x.reporting reported).fetch p = ((x.fetch p).1, (x.fetch p).2.reporting reported) := by
  unfold fetch reporting
  dsimp only
  split <;> rfl

theorem retrieve_eq (p : Parameter) :
    ∃ r, x.retrieve p = ((x.fetch p).1, (x.fetch p).2.reporting r) := by
  unfold retrieve
  cases x.fetch p with
  | mk result y =>
      cases result with
      | ok v => exact ⟨y.reported, rfl⟩
      | error e => exact ⟨y.reported ++ [e], rfl⟩

theorem run_tolerant (action : Action) (rest : List Step) :
    x.run ({ action, tolerant := true } :: rest) =
      ({ ((x.perform action).2.run rest).1 with
          results := (x.perform action).1 :: ((x.perform action).2.run rest).1.results },
        ((x.perform action).2.run rest).2) := by
  rw [run]
  cases x.perform action with
  | mk result y => cases result <;> rfl

/-- Retrieving each of some declared parameters comes to their answers and leaves what reading them
all leaves. -/
theorem run_each (f : Findings) {ps : List Parameter} (h : ∀ p ∈ ps, p ∈ x.endpoint.parameters) :
    ∃ r, (x.reporting reported).run (Step.each (ps.map Parameter.name)) =
      (⟨(x.answers ps).map Prod.snd, none⟩, (fetchAll f x ps).2.reporting r) := by
  induction ps generalizing x f reported with
  | nil => exact ⟨reported, rfl⟩
  | cons p rest ih =>
      have hnamed := Endpoint.named?_of_mem (h p List.mem_cons_self)
      obtain ⟨r₁, hr⟩ := (x.reporting reported).retrieve_eq p
      rw [fetch_reporting] at hr
      have hperform : (x.reporting reported).perform (.named p.name) =
          ((x.fetch p).1, (x.fetch p).2.reporting r₁) := by
        simp only [perform, retrieveNamed,
          show (x.reporting reported).endpoint = x.endpoint from rfl, hnamed]
        exact hr
      obtain ⟨r, hrest⟩ := ih (x.fetch p).2 r₁ (f.add p.name (x.fetch p).1) (by
        rw [fetch_endpoint]
        exact fun q hq => h q (List.mem_cons_of_mem p hq))
      refine ⟨r, ?_⟩
      rw [List.map_cons, Step.each, List.map_cons, run_tolerant, hperform]
      simp only [Step.each] at hrest
      rw [hrest]
      rfl

/-! ## Why a retrieval fails -/

/-- The value of a constant parameter differs from the one its id is fixed to. -/
def Breaks (x : Element) (p : Parameter) (err : Error) : Prop :=
  ∃ fixed received, p.isConstant = true ∧ received.isNull = false ∧
    x.given p = .ok received ∧ (x.constancy.record p.id).last = some fixed ∧
    (fixed == received) = false ∧ err = (Constancy.violation p fixed received).withIndex x.index

/-- The request has a malformed value of a parameter, or none while nothing stands in for it. -/
def Lacks (x : Element) (p : Parameter) (err : Error) : Prop :=
  ∃ d, x.request.resolved.get? p.id = none ∧ (x.request.inner.decode p).1 = .error d ∧
    (d.isAbsence = true → p.isRequired = true ∧ p.default = none) ∧
    err = (if d.isAbsence then p.missing d else .ofDecode d).withIndex x.index

theorem given_error_iff {p : Parameter} (hp : p ∈ x.endpoint.parameters) (err : Error) :
    x.given p = .error err ↔
      ∃ d, x.request.resolved.get? p.id = none ∧ (x.request.inner.decode p).1 = .error d ∧
        (d.isAbsence = true → p.isRequired = true ∧ p.default = none) ∧
        err = if d.isAbsence then p.missing d else .ofDecode d := by
  unfold given
  have hdeclared := Endpoint.parameter?_of_mem hp
  cases hr : x.request.resolved.get? p.id with
  | some v =>
      rw [Substituted.retrieve, hr]
      simp
  | none =>
      rw [Substituted.retrieve_fst _ _ hr]
      cases hd : (x.request.inner.decode p).1 with
      | ok v => simp
      | error d =>
          cases ha : d.isAbsence with
          | false => simpa [ha] using eq_comm
          | true =>
              cases hq : p.isRequired with
              | false => simp [ha, Endpoint.substitute, hdeclared, hq, Except.map]
              | true =>
                  cases hf : p.default with
                  | none =>
                      simpa [ha, Endpoint.substitute, hdeclared, hq, hf, Except.map] using eq_comm
                  | some given => simp [ha, Endpoint.substitute, hdeclared, hq, hf, Except.map]

theorem verdict_ok_eq_error_iff {p : Parameter} {fixed : Option Json} {v : Json} {err : Error} :
    Constancy.verdict p fixed (.ok v) = .error err ↔
      ∃ f, p.isConstant = true ∧ v.isNull = false ∧ fixed = some f ∧ (f == v) = false ∧
        err = Constancy.violation p f v := by
  by_cases h : p.isConstant = true ∧ v.isNull = false
  · cases fixed with
    | none => simp [Constancy.verdict]
    | some f =>
        cases hf : f == v with
        | true => simp [Constancy.verdict, h, hf]
        | false => simpa [Constancy.verdict, h, hf] using eq_comm
  · rw [show Constancy.verdict p fixed (.ok v) = .ok v from if_neg h]
    constructor
    · rintro ⟨⟩
    · rintro ⟨f, hc, hn, _⟩
      exact absurd ⟨hc, hn⟩ h

/-- A retrieval of a declared parameter fails for one of two reasons. -/
theorem fetch_error_iff {p : Parameter} (hp : p ∈ x.endpoint.parameters) (err : Error) :
    (x.fetch p).1 = .error err ↔ x.Breaks p err ∨ x.Lacks p err := by
  rw [fetch_fst, Constancy.observe_fst, mapError_eq_error_iff]
  constructor
  · rintro ⟨e, he, rfl⟩
    cases hg : x.given p with
    | ok v =>
        rw [hg, verdict_ok_eq_error_iff] at he
        obtain ⟨f, hc, hn, hl, hf, rfl⟩ := he
        exact .inl ⟨f, v, hc, hn, hg, hl, hf, rfl⟩
    | error given =>
        rw [hg] at he
        obtain rfl : given = e := by simpa [Constancy.verdict] using he
        obtain ⟨d, hr, hd, ha, rfl⟩ := (x.given_error_iff hp given).mp hg
        exact .inr ⟨d, hr, hd, ha, rfl⟩
  · rintro (⟨f, v, hc, hn, hg, hl, hf, rfl⟩ | ⟨d, hr, hd, ha, rfl⟩)
    · rw [hg]
      exact ⟨_, verdict_ok_eq_error_iff.mpr ⟨f, hc, hn, hl, hf, rfl⟩, rfl⟩
    · rw [(x.given_error_iff hp _).mpr ⟨d, hr, hd, ha, rfl⟩]
      exact ⟨_, rfl, rfl⟩

variable {x} {p : Parameter} {err : Error}

theorem Breaks.decode_eq (h : x.Breaks p err) : err.decode = none := by
  obtain ⟨f, v, _, _, _, _, _, rfl⟩ := h
  rfl

theorem Lacks.decode_eq (h : x.Lacks p err) : err.decode.isSome = true := by
  obtain ⟨d, _, _, _, rfl⟩ := h
  cases d.isAbsence <;> rfl

theorem failure?_eq_some_iff {decoded : Bool} {result : Except Error Json} :
    failure? decoded result = some err ↔ result = .error err ∧ err.decode.isSome = decoded := by
  cases result with
  | ok v => simp
  | error e =>
      rw [failure?_error, Option.ite_none_right_eq_some, Option.some.injEq, Except.error.injEq]
      constructor
      · rintro ⟨h, rfl⟩
        exact ⟨rfl, h⟩
      · rintro ⟨rfl, h⟩
        exact ⟨h, rfl⟩

theorem breaks_iff (hp : p ∈ x.endpoint.parameters) :
    x.Breaks p err ↔ (x.fetch p).1 = .error err ∧ err.decode.isSome = false := by
  rw [fetch_error_iff x hp]
  constructor
  · intro h
    exact ⟨.inl h, by rw [h.decode_eq]; rfl⟩
  · rintro ⟨h | h, hd⟩
    · exact h
    · rw [h.decode_eq] at hd
      cases hd

theorem lacks_iff (hp : p ∈ x.endpoint.parameters) :
    x.Lacks p err ↔ (x.fetch p).1 = .error err ∧ err.decode.isSome = true := by
  rw [fetch_error_iff x hp]
  constructor
  · intro h
    exact ⟨.inr h, h.decode_eq⟩
  · rintro ⟨h | h, hd⟩
    · rw [h.decode_eq] at hd
      cases hd
    · exact h

/-! ## One retrieval after the other -/

theorem fetchAll_endpoint (f : Findings) (x : Element) (ps : List Parameter) :
    (fetchAll f x ps).2.endpoint = x.endpoint := by
  induction ps generalizing f x with
  | nil => rfl
  | cons p rest ih => exact (ih _ _).trans (x.fetch_endpoint p)

theorem getElem?_answers (f : Findings) (x : Element) (ps : List Parameter) (k : Nat) :
    (x.answers ps)[k]? = ps[k]?.map fun p => (p, ((fetchAll f x (ps.take k)).2.fetch p).1) := by
  induction ps generalizing f x k with
  | nil => rfl
  | cons p rest ih =>
      cases k with
      | zero => rfl
      | succ k => exact ih _ _ _

theorem findSome?_eq_some_iff_getElem? {α β : Type} (g : α → Option β) (l : List α) (b : β) :
    l.findSome? g = some b ↔
      ∃ k : Nat, l[k]?.bind g = some b ∧ ∀ j < k, l[j]?.bind g = none := by
  induction l with
  | nil => simp
  | cons a rest ih =>
      rw [List.findSome?_cons]
      cases ha : g a with
      | some c =>
          constructor
          · rintro ⟨⟩
            exact ⟨0, ha, fun j hj => absurd hj (Nat.not_lt_zero j)⟩
          · rintro ⟨k, hk, hlt⟩
            cases k with
            | zero => exact ha.symm.trans hk
            | succ k => exact absurd ((hlt 0 (Nat.succ_pos k)).symm.trans ha) nofun
      | none =>
          dsimp only
          rw [ih]
          constructor
          · rintro ⟨k, hk, hlt⟩
            refine ⟨k + 1, hk, fun j hj => ?_⟩
            cases j with
            | zero => exact ha
            | succ j => exact hlt j (Nat.lt_of_succ_lt_succ hj)
          · rintro ⟨k, hk, hlt⟩
            cases k with
            | zero => exact absurd (ha.symm.trans hk) nofun
            | succ k => exact ⟨k, hk, fun j hj => hlt (j + 1) (Nat.succ_lt_succ hj)⟩

/-- The element when the parameters before a place have been retrieved. -/
def before (x : Element) (k : Nat) : Element :=
  (x.run (Step.each ((x.endpoint.parameters.take k).map Parameter.name))).2

/-- The retrieval of the parameter at a place breaks constancy. -/
def BreaksAt (x : Element) (k : Nat) (err : Error) : Prop :=
  ∃ p, x.endpoint.parameters[k]? = some p ∧ (x.before k).Breaks p err

/-- The request lacks a value for the parameter at a place when it is retrieved. -/
def LacksAt (x : Element) (k : Nat) (err : Error) : Prop :=
  ∃ p, x.endpoint.parameters[k]? = some p ∧ (x.before k).Lacks p err

variable (x)

theorem before_eq (k : Nat) :
    ∃ r, x.before k = (fetchAll {} x (x.endpoint.parameters.take k)).2.reporting r := by
  have hdeclared : ∀ p ∈ x.endpoint.parameters.take k, p ∈ x.endpoint.parameters :=
    fun p hp => List.mem_of_mem_take hp
  obtain ⟨r, h⟩ := x.run_each x.reported {} hdeclared
  exact ⟨r, congrArg Prod.snd h⟩

theorem before_endpoint (k : Nat) : (x.before k).endpoint = x.endpoint := by
  obtain ⟨r, h⟩ := x.before_eq k
  rw [h]
  exact fetchAll_endpoint ..

theorem getElem?_answers_before (k : Nat) :
    (x.answers x.endpoint.parameters)[k]? =
      x.endpoint.parameters[k]?.map fun p => (p, ((x.before k).fetch p).1) := by
  obtain ⟨r, h⟩ := x.before_eq k
  rw [getElem?_answers {}, h]
  simp only [fetch_reporting]

theorem mem_parameters_before {k : Nat} {p : Parameter}
    (hk : x.endpoint.parameters[k]? = some p) : p ∈ (x.before k).endpoint.parameters := by
  rw [before_endpoint]
  exact List.mem_of_getElem? hk

theorem failsAt_iff {decoded : Bool} {fails : Element → Parameter → Error → Prop}
    (h : ∀ {y : Element} {p : Parameter} {err : Error}, p ∈ y.endpoint.parameters →
      (fails y p err ↔ (y.fetch p).1 = .error err ∧ err.decode.isSome = decoded))
    (k : Nat) (err : Error) :
    (∃ p, x.endpoint.parameters[k]? = some p ∧ fails (x.before k) p err) ↔
      (x.answers x.endpoint.parameters)[k]?.bind (fun a => failure? decoded a.2) = some err := by
  rw [getElem?_answers_before]
  cases hk : x.endpoint.parameters[k]? with
  | none => simp
  | some p => simp [h (x.mem_parameters_before hk), failure?_eq_some_iff]

/-- The failure that counts is the first violation, or else the first lack. -/
theorem rejection?_eq_some_iff (err : Error) :
    rejection? (x.answers x.endpoint.parameters) = some err ↔
      (∃ k, x.BreaksAt k err ∧ ∀ j < k, ∀ other, ¬ x.BreaksAt j other) ∨
      ((∃ k, x.LacksAt k err ∧ ∀ j < k, ∀ other, ¬ x.LacksAt j other) ∧
        ∀ j other, ¬ x.BreaksAt j other) := by
  have hbreaks : ∀ k err, x.BreaksAt k err ↔ _ := x.failsAt_iff breaks_iff
  have hlacks : ∀ k err, x.LacksAt k err ↔ _ := x.failsAt_iff lacks_iff
  simp only [hbreaks, hlacks, ← Option.eq_none_iff_forall_ne_some,
    ← findSome?_eq_some_iff_getElem?]
  rw [rejection?, Option.or_eq_some_iff]
  refine or_congr_right (and_comm.trans (and_congr_right fun _ => ?_))
  rw [List.findSome?_eq_none_iff]
  constructor
  · intro h j
    cases hj : (x.answers x.endpoint.parameters)[j]? with
    | none => rfl
    | some a => exact h a (List.mem_of_getElem? hj)
  · intro h a ha
    obtain ⟨j, hj⟩ := List.mem_iff_getElem?.mp ha
    simpa [hj] using h j

theorem rejection?_eq_none_iff {answers : List (Parameter × Except Error Json)} :
    rejection? answers = none ↔ ∀ a ∈ answers, a.2.isOk = true := by
  rw [rejection?, Option.or_eq_none_iff, List.findSome?_eq_none_iff, List.findSome?_eq_none_iff]
  constructor
  · rintro ⟨hb, hl⟩ ⟨p, result⟩ ha
    cases result with
    | ok v => rfl
    | error e =>
        have hb := hb _ ha
        have hl := hl _ ha
        cases hd : e.decode.isSome with
        | false => simp [failure?_error, hd] at hb
        | true => simp [failure?_error, hd] at hl
  · intro h
    constructor
    all_goals
      rintro ⟨p, result⟩ ha
      cases result with
      | ok v => rfl
      | error e => exact absurd (h _ ha) Bool.false_ne_true

/-! ## All values -/

theorem answers_map_fst (x : Element) (ps : List Parameter) :
    (x.answers ps).map Prod.fst = ps := by
  induction ps generalizing x with
  | nil => rfl
  | cons p rest ih => exact congrArg (p :: ·) (ih _)

theorem map_fst_entries {answers : List (Parameter × Except Error Json)}
    (h : ∀ a ∈ answers, a.2.isOk = true) :
    (entries answers).map Prod.fst = (answers.map Prod.fst).map Parameter.name := by
  induction answers with
  | nil => rfl
  | cons a rest ih =>
      obtain ⟨p, result⟩ := a
      cases result with
      | ok v => exact congrArg (p.name :: ·) (ih fun b hb => h b (List.mem_cons_of_mem _ hb))
      | error e => exact absurd (h _ List.mem_cons_self) nofun

theorem mem_entries_iff {answers : List (Parameter × Except Error Json)} {name : String}
    {v : Json} : (name, v) ∈ entries answers ↔ ∃ p, (p, .ok v) ∈ answers ∧ p.name = name := by
  unfold entries
  rw [List.mem_filterMap]
  constructor
  · rintro ⟨⟨p, result⟩, ha, he⟩
    cases result with
    | ok w =>
        obtain ⟨rfl, rfl⟩ : p.name = name ∧ w = v := by simpa [Except.toOption] using he
        exact ⟨p, ha, rfl⟩
    | error e => cases he
  · rintro ⟨p, ha, rfl⟩
    exact ⟨_, ha, rfl⟩

theorem resolveAll_snd (x : Element) :
    ∃ r, x.resolveAll.2 = (fetchAll {} x x.endpoint.parameters).2.reporting r := by
  unfold resolveAll
  cases fetchAll {} x x.endpoint.parameters with
  | mk findings y =>
      dsimp only
      cases findings.verdict with
      | ok values => exact ⟨y.reported, rfl⟩
      | error e => exact ⟨y.reported ++ [e], rfl⟩

theorem resolveAll_error_iff (x : Element) (err : Error) :
    x.resolveAll.1 = .error err ↔ rejection? (x.answers x.endpoint.parameters) = some err := by
  rw [resolveAll_fst]
  cases rejection? (x.answers x.endpoint.parameters) <;> simp

theorem resolveAll_ok_iff (x : Element) (values : Dictionary Json) :
    x.resolveAll.1 = .ok values ↔
      (∀ a ∈ x.answers x.endpoint.parameters, a.2.isOk = true) ∧
        Dictionary.ofList (entries (x.answers x.endpoint.parameters)) = values := by
  rw [resolveAll_fst, ← rejection?_eq_none_iff]
  cases rejection? (x.answers x.endpoint.parameters) <;> simp

/-- A reading of all parameters that succeeds finds a value for each, and nothing else. -/
theorem get?_resolveAll {x : Element} {values : Dictionary Json}
    (h : x.resolveAll.1 = .ok values) {name : String} {v : Json} :
    values.get? name = some v ↔
      ∃ p, (p, .ok v) ∈ x.answers x.endpoint.parameters ∧ p.name = name := by
  obtain ⟨hok, rfl⟩ := (x.resolveAll_ok_iff values).mp h
  have hkeys := map_fst_entries hok
  rw [answers_map_fst] at hkeys
  rw [Dictionary.get?_ofList_eq_some_iff (hkeys ▸ x.endpoint.wellFormed.names_distinct),
    mem_entries_iff]

theorem exists_value_of_resolveAll {x : Element} {values : Dictionary Json}
    (h : x.resolveAll.1 = .ok values) {k : Nat} {p : Parameter}
    (hp : x.endpoint.parameters[k]? = some p) :
    ∃ v, ((x.before k).retrieve p).1 = .ok v ∧ values.get? p.name = some v := by
  have hanswer := x.getElem?_answers_before k
  rw [hp, Option.map_some, ← retrieve_fst] at hanswer
  have hmem := List.mem_of_getElem? hanswer
  cases hr : ((x.before k).retrieve p).1 with
  | error e =>
      have hok := ((x.resolveAll_ok_iff values).mp h).1 _ hmem
      rw [hr] at hok
      exact absurd hok Bool.false_ne_true
  | ok v =>
      rw [hr] at hmem
      exact ⟨v, rfl, (get?_resolveAll h).mpr ⟨p, hmem, rfl⟩⟩

theorem mem_keys_resolveAll_iff {x : Element} {values : Dictionary Json}
    (h : x.resolveAll.1 = .ok values) (name : String) :
    name ∈ values.map Prod.fst ↔ name ∈ x.endpoint.parameters.map Parameter.name := by
  rw [Dictionary.mem_map_fst_iff]
  constructor
  · rintro ⟨v, hget⟩
    obtain ⟨p, hmem, rfl⟩ := (get?_resolveAll h).mp hget
    have hp : p ∈ (x.answers x.endpoint.parameters).map Prod.fst :=
      List.mem_map.mpr ⟨_, hmem, rfl⟩
    rw [answers_map_fst] at hp
    exact List.mem_map_of_mem hp
  · intro hname
    obtain ⟨p, hp, rfl⟩ := List.mem_map.mp hname
    obtain ⟨k, hk⟩ := List.mem_iff_getElem?.mp hp
    obtain ⟨v, _, hget⟩ := exists_value_of_resolveAll h hk
    exact ⟨v, hget⟩

/-- A reading of all parameters leaves what retrieving each by name leaves but for what is reported,
and succeeds if each retrieval does. A violation counts before any lack. -/
theorem resolveAll_eq_each (x : Element) :
    let each := x.run (Step.each (x.endpoint.parameters.map Parameter.name))
    (each.1.failure = none ∧ each.1.results.length = x.endpoint.parameters.length) ∧
    x.resolveAll.2 = { each.2 with reported := x.resolveAll.2.reported } ∧
    (∀ (k : Nat) (p : Parameter), x.endpoint.parameters[k]? = some p →
      each.1.results[k]? = some ((x.before k).retrieve p).1 ∧
      ∀ err, ((x.before k).retrieve p).1 = .error err →
        (err.decode = none ↔ x.BreaksAt k err) ∧ (err.decode.isSome = true ↔ x.LacksAt k err)) ∧
    ((∃ values, x.resolveAll.1 = .ok values) ↔ ∀ r ∈ each.1.results, r.isOk = true) ∧
    (∀ values, x.resolveAll.1 = .ok values →
      (∀ name, name ∈ values.map Prod.fst ↔ name ∈ x.endpoint.parameters.map Parameter.name) ∧
      ∀ (k : Nat) (p : Parameter), x.endpoint.parameters[k]? = some p →
        ∃ v, each.1.results[k]? = some (.ok v) ∧ values.get? p.name = some v) ∧
    ∀ err, x.resolveAll.1 = .error err ↔
      (∃ k, x.BreaksAt k err ∧ ∀ j < k, ∀ other, ¬ x.BreaksAt j other) ∨
      ((∃ k, x.LacksAt k err ∧ ∀ j < k, ∀ other, ¬ x.LacksAt j other) ∧
        ∀ j other, ¬ x.BreaksAt j other) := by
  have hdeclared : ∀ p ∈ x.endpoint.parameters, p ∈ x.endpoint.parameters := fun _ hp => hp
  obtain ⟨r, heach⟩ := x.run_each x.reported {} hdeclared
  rw [show x.reporting x.reported = x from rfl] at heach
  have hresults (k : Nat) : ((x.answers x.endpoint.parameters).map Prod.snd)[k]? =
      x.endpoint.parameters[k]?.map fun p => ((x.before k).retrieve p).1 := by
    rw [List.getElem?_map, getElem?_answers_before]
    cases x.endpoint.parameters[k]? with
    | none => rfl
    | some p => rw [Option.map_some, Option.map_some, Option.map_some, retrieve_fst]
  dsimp only
  rw [heach]
  refine ⟨⟨rfl, ?_⟩, ?_, fun k p hp => ⟨?_, fun err he => ⟨?_, ?_⟩⟩, ?_, fun values hv => ?_, ?_⟩
  · rw [List.length_map, ← List.length_map Prod.fst, answers_map_fst]
  · obtain ⟨r', h⟩ := x.resolveAll_snd
    rw [h]
    rfl
  · rw [hresults, hp]
    rfl
  · rw [retrieve_fst] at he
    simp [BreaksAt, hp, breaks_iff (x.mem_parameters_before hp), he]
  · rw [retrieve_fst] at he
    simp [LacksAt, hp, lacks_iff (x.mem_parameters_before hp), he]
  · simp only [resolveAll_ok_iff, exists_and_left, exists_eq', and_true, List.forall_mem_map]
  · refine ⟨mem_keys_resolveAll_iff hv, fun k p hp => ?_⟩
    obtain ⟨v, hr, hget⟩ := exists_value_of_resolveAll hv hp
    exact ⟨v, by rw [hresults, hp, Option.map_some, hr], hget⟩
  · intro err
    rw [resolveAll_error_iff, rejection?_eq_some_iff]

/-- Lacks the limit, and changes the order after it. -/
def reordered : Element where
  endpoint := .search
  index := 1
  request := { inner := ⟨⟨JsonRequest.raw { body := [("order", .string "falling")] }, []⟩, []⟩ }
  constancy := ({} : Constancy).pin ⟨2⟩ (.string "rising")

example : reordered.resolveAll.1 =
    .error ((Constancy.violation .order (.string "rising") (.string "falling")).withIndex 1) := rfl

example : (reordered.run (Step.each ["limit", "order", "label"])).1.results =
    [.error ((Parameter.limit.missing (.noEntry "limit")).withIndex 1),
      .error ((Constancy.violation .order (.string "rising") (.string "falling")).withIndex 1),
      .ok .null] := rfl

end Element

end Intake
