import Intake.Constancy

/-!
# Single retrievals under the check for constancy

What the check answers to one retrieval and what it keeps of it, id by id. A step that begins takes
over what the step before it fixed, or goes back to what was fixed before that one.
-/

namespace Intake.Constancy

/-! ## Records -/

@[simp] theorem record_new (id : ParameterId) : ({} : Constancy).record id = {} := rfl

@[simp] theorem record_fail (c : Constancy) (id : ParameterId) : c.fail.record id = c.record id := rfl

@[simp] theorem failed_fail (c : Constancy) : c.fail.failed = true := rfl

@[simp] theorem steps_fail (c : Constancy) : c.fail.steps = c.steps := rfl

@[simp] theorem Record.fold_new (failed : Bool) : ({} : Record).fold failed = {} := by
  cases failed <;> rfl

theorem record_fold (c : Constancy) (id : ParameterId) :
    c.fold.record id = (c.record id).fold c.failed := by
  unfold record fold
  simp only [Table.get?_mapValues]
  cases c.records.get? id with
  | none => simp
  | some r => rfl

/-! ## Beginning a step -/

/-- Before its first step a check holds no records and has not failed. -/
structure Orderly (c : Constancy) : Prop where
  record_eq : c.steps = 0 → ∀ id, c.record id = {}
  failed_eq : c.steps = 0 → c.failed = false

theorem Orderly.new : Orderly {} := ⟨fun _ _ => rfl, fun _ => rfl⟩

theorem Orderly.of_steps {c : Constancy} (h : 0 < c.steps) : c.Orderly :=
  ⟨fun h₀ => by omega, fun h₀ => by omega⟩

@[simp] theorem steps_begin (c : Constancy) : c.begin.steps = c.steps + 1 := by
  unfold begin
  split <;> rfl

theorem Orderly.record_begin {c : Constancy} (h : c.Orderly) (id : ParameterId) :
    c.begin.record id = (c.record id).fold c.failed := by
  unfold begin
  split
  · exact record_fold c id
  · have h₀ : c.steps = 0 := by omega
    show c.record id = _
    rw [h.record_eq h₀ id, Record.fold_new]

theorem Orderly.failed_begin {c : Constancy} (h : c.Orderly) : c.begin.failed = false := by
  unfold begin
  split
  · rfl
  · exact h.failed_eq (by omega)

/-- What an id is fixed to when the next step begins. -/
def standing (c : Constancy) (id : ParameterId) : Option Json := (c.begin.record id).last

theorem Orderly.record_begin_eq {c : Constancy} (h : c.Orderly) (id : ParameterId) :
    c.begin.record id = ⟨c.standing id, c.standing id⟩ := by
  unfold standing
  rw [h.record_begin]
  unfold Record.fold
  split <;> rfl

theorem standing_new (id : ParameterId) : standing {} id = none := rfl

/-- What a step that ends in `d` leaves to the next one. -/
theorem Orderly.standing_eq {d : Constancy} (h : d.Orderly) (id : ParameterId) :
    d.standing id = if d.failed then (d.record id).backup else (d.record id).last := by
  rw [standing, h.record_begin]
  unfold Record.fold
  split <;> rfl

/-! ## Retrievals -/

/-- What a retrieval fixes an id to that was free: a value other than null, under a constant
parameter with the id. -/
def offer (p : Parameter) (result : Except Error Json) (id : ParameterId) : Option Json :=
  match result with
  | .ok v => if p.id = id ∧ p.isConstant = true ∧ v.isNull = false then some v else none
  | .error _ => none

theorem offer_of_ne {p : Parameter} {id : ParameterId} (h : p.id ≠ id)
    (result : Except Error Json) : offer p result id = none := by
  cases result with
  | ok v => simp [offer, h]
  | error e => rfl

theorem offer_mapError (p : Parameter) (result : Except Error Json) (f : Error → Error)
    (id : ParameterId) : offer p (result.mapError f) id = offer p result id := by
  cases result with
  | ok v => rfl
  | error e => rfl

/-- What a retrieval comes to when the id of the parameter is fixed, or free. -/
def verdict (p : Parameter) (fixed : Option Json) (given : Except Error Json) :
    Except Error Json :=
  match given with
  | .error e => .error e
  | .ok v =>
      if p.isConstant = true ∧ v.isNull = false then
        match fixed with
        | some f => if f == v then .ok v else .error (violation p f v)
        | none => .ok v
      else .ok v

/-- The check after an id was fixed by the current step. -/
def pin (c : Constancy) (id : ParameterId) (value : Json) : Constancy :=
  { c with records := c.records.put id { c.record id with last := some value } }

theorem record_pin (c : Constancy) (id : ParameterId) (value : Json) (i : ParameterId) :
    (c.pin id value).record i =
      if i = id then { c.record id with last := some value } else c.record i := by
  simp only [pin, record, Table.get?_put]
  split <;> rfl

/-- Variable parameters and null leave the check as it is. -/
theorem observe_free (c : Constancy) {p : Parameter} {v : Json}
    (h : p.isConstant = false ∨ v.isNull = true) : c.observe p (.ok v) = (.ok v, c) := by
  have hc : (!p.isConstant || v.isNull) = true := by rcases h with h | h <;> simp [h]
  simp only [observe, check, hc, ↓reduceIte]

/-- Everything that a retrieval can do to the check: fail the step, pass a value that is free or
agrees, or fix an id that was free. -/
theorem observe_cases (c : Constancy) (p : Parameter) (given : Except Error Json) :
    (∃ e, c.observe p given = (.error e, c.fail) ∧
      verdict p (c.record p.id).last given = .error e) ∨
    (∃ v, c.observe p given = (.ok v, c) ∧ verdict p (c.record p.id).last given = .ok v ∧
      ∀ id, offer p (.ok v) id = none ∨ (c.record id).last.isSome = true) ∨
    (∃ v, c.observe p given = (.ok v, c.pin p.id v) ∧
      verdict p (c.record p.id).last given = .ok v ∧
      p.isConstant = true ∧ v.isNull = false ∧ (c.record p.id).last = none) := by
  cases given with
  | error e => exact Or.inl ⟨e, rfl, rfl⟩
  | ok v =>
      by_cases h : p.isConstant = true ∧ v.isNull = false
      · have hc : (!p.isConstant || v.isNull) = false := by simp [h]
        cases hl : (c.record p.id).last with
        | none =>
            exact Or.inr (Or.inr ⟨v, by simp [observe, check, hc, hl, pin], by simp [verdict],
              h.1, h.2, rfl⟩)
        | some f =>
            by_cases hf : (f == v) = true
            · refine Or.inr (Or.inl ⟨v, by simp [observe, check, hc, hl, hf],
                by simp [verdict, hf], fun id => ?_⟩)
              by_cases hi : p.id = id
              · exact Or.inr (by rw [← hi, hl]; rfl)
              · exact Or.inl (offer_of_ne hi _)
            · exact Or.inl ⟨violation p f v, by simp [observe, check, hc, hl, hf],
                by simp [verdict, h, hf]⟩
      · have hfree : p.isConstant = false ∨ v.isNull = true := by
          cases hp : p.isConstant with
          | false => exact Or.inl rfl
          | true => exact Or.inr (by simpa [hp] using h)
        refine Or.inr (Or.inl ⟨v, observe_free c hfree, by simp [verdict, h], fun id => ?_⟩)
        exact Or.inl (by simp only [offer, h, and_false, ↓reduceIte])

theorem observe_fst (c : Constancy) (p : Parameter) (given : Except Error Json) :
    (c.observe p given).1 = verdict p (c.record p.id).last given := by
  rcases observe_cases c p given with ⟨e, h, hv⟩ | ⟨v, h, hv, _⟩ | ⟨v, h, hv, _⟩ <;> rw [h, hv]

/-- Every failure fails the step, and nothing else does. -/
theorem failed_observe (c : Constancy) (p : Parameter) (given : Except Error Json) :
    (c.observe p given).2.failed = (c.failed || !(c.observe p given).1.isOk) := by
  rcases observe_cases c p given with ⟨e, h, _⟩ | ⟨v, h, _⟩ | ⟨v, h, _⟩ <;> rw [h]
  · exact (Bool.or_true _).symm
  · exact (Bool.or_false _).symm
  · exact (Bool.or_false _).symm

theorem steps_observe (c : Constancy) (p : Parameter) (given : Except Error Json) :
    (c.observe p given).2.steps = c.steps := by
  rcases observe_cases c p given with ⟨e, h, _⟩ | ⟨v, h, _⟩ | ⟨v, h, _⟩ <;> rw [h] <;> rfl

/-- A retrieval keeps what earlier steps fixed, and fixes at most one id, which was free. -/
theorem record_observe (c : Constancy) (p : Parameter) (given : Except Error Json)
    (id : ParameterId) :
    (c.observe p given).2.record id =
      { c.record id with last := (c.record id).last.or (offer p (c.observe p given).1 id) } := by
  rcases observe_cases c p given with ⟨e, h, _⟩ | ⟨v, h, _, ho⟩ | ⟨v, h, _, hp, hv, hl⟩ <;> rw [h]
  · simp [offer]
  · rcases ho id with ho | ho
    · simp [ho]
    · simp [Option.or_of_isSome ho]
  · rw [record_pin]
    by_cases hi : id = p.id
    · subst hi
      simp [offer, hp, hv, hl]
    · simp [hi, offer_of_ne (Ne.symm hi)]

end Intake.Constancy
