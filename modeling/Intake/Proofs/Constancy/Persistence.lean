import Mathlib.Logic.Relation
import Intake.Proofs.Constancy.Observation
import Intake.Proofs.Endpoint.Registry

/-!
# What the records hold

A stream may be watched at any moment, within a step or between two. Main statement: a value that
earlier steps fixed is the one that the current step must match, a step only gives values to ids that
have none, and what earlier steps fixed stays fixed for the rest of the stream.
-/

namespace Intake.Constancy

/-- One thing is done in the current step. -/
inductive Acts : Constancy → Constancy → Prop where
  | retrieve (c : Constancy) (p : Parameter) (given : Except Error Json) :
      Acts c (c.observe p given).2
  | noteFailure (c : Constancy) : Acts c c.fail
  | abandon (c : Constancy) : Acts c c.fail

/-- The next step begins, or one thing is done in the current step, if there is one. -/
inductive Moves : Constancy → Constancy → Prop where
  | begin (c : Constancy) : Moves c c.begin
  | act {c d : Constancy} : 0 < c.steps → Acts c d → Moves c d

/-- What a stream can come to. -/
def Reachable (c : Constancy) : Prop := Relation.ReflTransGen Moves {} c

/-! ## Single records -/

/-- What earlier steps fixed is what the current step must match, and is not null. -/
structure Record.Coherent (r : Record) : Prop where
  last_eq : ∀ v, r.backup = some v → r.last = some v
  not_null : ∀ v, r.last = some v → v.isNull = false

/-- What a step can make of a record. -/
inductive Record.Grows (r : Record) : Record → Prop where
  | keep : Grows r r
  | fix (v : Json) : r.last = none → v.isNull = false → Grows r { r with last := some v }

namespace Record

variable {r s t : Record}

theorem Coherent.empty : Coherent {} := ⟨nofun, nofun⟩

theorem Coherent.backup_not_null (h : r.Coherent) {v : Json} (hv : r.backup = some v) :
    v.isNull = false :=
  h.not_null v (h.last_eq v hv)

theorem Coherent.fold (h : r.Coherent) (failed : Bool) : (r.fold failed).Coherent := by
  cases failed with
  | true => exact ⟨fun v hv => hv, fun v hv => h.backup_not_null hv⟩
  | false => exact ⟨fun v hv => hv, h.not_null⟩

theorem Coherent.backup_fold (h : r.Coherent) (failed : Bool) {v : Json}
    (hv : r.backup = some v) : (r.fold failed).backup = some v := by
  cases failed with
  | true => exact hv
  | false => exact h.last_eq v hv

theorem Grows.backup_eq (h : r.Grows s) : s.backup = r.backup := by
  cases h with
  | keep => rfl
  | fix v _ _ => rfl

theorem Grows.coherent (h : r.Grows s) (hr : r.Coherent) : s.Coherent := by
  cases h with
  | keep => exact hr
  | fix v hfree hv =>
      refine ⟨fun w hw => ?_, fun w hw => ?_⟩
      · -- a record without a second value has no first one
        rw [hr.last_eq w hw] at hfree
        cases hfree
      · obtain rfl := Option.some.inj hw
        exact hv

theorem Grows.trans (h : r.Grows s) (h' : s.Grows t) : r.Grows t := by
  cases h with
  | keep => exact h'
  | fix v hfree hv =>
      cases h' with
      | keep => exact .fix v hfree hv
      | fix w hw _ => cases hw

theorem Grows.last_eq (h : r.Grows s) :
    s.last = r.last ∨ r.last = none ∧ ∃ v, s.last = some v ∧ v.isNull = false := by
  cases h with
  | keep => exact .inl rfl
  | fix v hfree hv => exact .inr ⟨hfree, v, rfl, hv⟩

end Record

/-! ## Moves -/

theorem not_null_of_offer {p : Parameter} {result : Except Error Json} {id : ParameterId} {v : Json}
    (h : offer p result id = some v) : v.isNull = false := by
  cases result with
  | ok w =>
      obtain ⟨⟨_, _, hw⟩, hvw⟩ := Option.ite_none_right_eq_some.mp h
      exact Option.some.inj hvw ▸ hw
  | error e => cases h

theorem Acts.grows {c d : Constancy} (h : Acts c d) (id : ParameterId) :
    (c.record id).Grows (d.record id) := by
  cases h with
  | retrieve p given =>
      rw [record_observe]
      cases hl : (c.record id).last with
      | some fixed =>
          rw [Option.some_or, ← hl]
          exact .keep
      | none =>
          rw [Option.none_or]
          cases ho : offer p (c.observe p given).1 id with
          | none =>
              rw [← hl]
              exact .keep
          | some v => exact .fix v hl (not_null_of_offer ho)
  | noteFailure => exact .keep
  | abandon => exact .keep

theorem Acts.steps_eq {c d : Constancy} (h : Acts c d) : d.steps = c.steps := by
  cases h with
  | retrieve p given => exact steps_observe c p given
  | noteFailure => rfl
  | abandon => rfl

/-- What is done in one step, one thing after the other. -/
theorem grows_of_acts {c d : Constancy} (h : Relation.ReflTransGen Acts c d) (id : ParameterId) :
    (c.record id).Grows (d.record id) := by
  induction h with
  | refl => exact .keep
  | tail _ hact ih => exact ih.trans (hact.grows id)

/-- What holds at any moment. -/
structure Settled (c : Constancy) : Prop where
  orderly : c.Orderly
  coherent : ∀ id, (c.record id).Coherent

theorem Settled.new : Settled {} := ⟨.new, fun _ => .empty⟩

/-- The step lemma. -/
theorem Settled.move {c d : Constancy} (h : c.Settled) (hm : Moves c d) : d.Settled := by
  cases hm with
  | begin =>
      refine ⟨.of_steps (by rw [steps_begin]; omega), fun id => ?_⟩
      rw [h.orderly.record_begin]
      exact (h.coherent id).fold c.failed
  | act hsteps hact =>
      exact ⟨.of_steps (hact.steps_eq ▸ hsteps), fun id => (hact.grows id).coherent (h.coherent id)⟩

/-- The run lemma. -/
theorem Settled.moves {c d : Constancy} (h : c.Settled) (hm : Relation.ReflTransGen Moves c d) :
    d.Settled := by
  induction hm with
  | refl => exact h
  | tail _ hmove ih => exact ih.move hmove

theorem Reachable.settled {c : Constancy} (h : Reachable c) : c.Settled := Settled.new.moves h

theorem Settled.backup_move {c d : Constancy} (h : c.Settled) (hm : Moves c d) {id : ParameterId}
    {v : Json} (hv : (c.record id).backup = some v) : (d.record id).backup = some v := by
  cases hm with
  | begin =>
      rw [h.orderly.record_begin]
      exact (h.coherent id).backup_fold c.failed hv
  | act _ hact => rw [(hact.grows id).backup_eq, hv]

theorem Settled.backup_moves {c d : Constancy} (h : c.Settled)
    (hm : Relation.ReflTransGen Moves c d) {id : ParameterId} {v : Json}
    (hv : (c.record id).backup = some v) : (d.record id).backup = some v := by
  induction hm with
  | refl => exact hv
  | tail hbefore hmove ih => exact (h.moves hbefore).backup_move hmove ih

/-! ## All states -/

/-- In every state of a stream and for every id, a value that earlier steps fixed is the one that the
current step must match, and neither is null. When a step begins, the two agree and it has not
failed. Until it ends the first stays as it is, and the second does once it is a value. What was
fixed by earlier steps stays fixed in all later states. -/
theorem records_of_reachable {c : Constancy} (hc : Reachable c) (id : ParameterId) :
    (∀ v, (c.record id).backup = some v → (c.record id).last = some v) ∧
    (∀ v, (c.record id).backup = some v ∨ (c.record id).last = some v → v.isNull = false) ∧
    ((c.begin.record id).backup = (c.begin.record id).last ∧ c.begin.failed = false) ∧
    (∀ d, Relation.ReflTransGen Acts c d →
      (d.record id).backup = (c.record id).backup ∧
      ((d.record id).last = (c.record id).last ∨
        (c.record id).last = none ∧ ∃ v, (d.record id).last = some v)) ∧
    ∀ d v, Relation.ReflTransGen Moves c d → (c.record id).backup = some v →
      (d.record id).backup = some v := by
  have h := hc.settled
  have hcoherent := h.coherent id
  refine ⟨hcoherent.last_eq, ?_, ⟨?_, h.orderly.failed_begin⟩, ?_, ?_⟩
  · rintro v (hv | hv)
    · exact hcoherent.backup_not_null hv
    · exact hcoherent.not_null v hv
  · rw [h.orderly.record_begin_eq]
  · intro d hacts
    have hgrows := grows_of_acts hacts id
    exact ⟨hgrows.backup_eq, hgrows.last_eq.imp_right fun ⟨hfree, v, hv, _⟩ => ⟨hfree, v, hv⟩⟩
  · intro d v hmoves hv
    exact h.backup_moves hmoves hv

/-- A step has fixed the number of results, and the next one has begun. -/
def resumed : Constancy := (({} : Constancy).begin.observe .limit (.ok (.integer 5))).2.begin

/-- Another number is a violation, and the number stays what it was. -/
def resisted : Constancy := (resumed.observe .limit (.ok (.integer 7))).2

theorem resisted_records :
    Reachable resumed ∧ Relation.ReflTransGen Acts resumed resisted ∧
      (resisted.record Parameter.limit.id).last = some (.integer 5) ∧
      Relation.ReflTransGen Moves resumed resisted.begin ∧
      (resisted.begin.record Parameter.limit.id).backup = some (.integer 5) := by
  have hfirst : Relation.ReflTransGen Moves {} ({} : Constancy).begin := .single (.begin _)
  have hresumed : Reachable resumed :=
    (hfirst.tail (.act (by decide) (.retrieve _ _ _))).tail (.begin _)
  have hacts : Relation.ReflTransGen Acts resumed resisted := .single (.retrieve _ _ _)
  have hlater : Relation.ReflTransGen Moves resumed resisted.begin :=
    (Relation.ReflTransGen.single (.act (by decide) (.retrieve _ _ _))).tail (.begin _)
  obtain ⟨hlast, _, _, hstep, hstays⟩ := records_of_reachable hresumed Parameter.limit.id
  have hfixed : (resumed.record Parameter.limit.id).backup = some (.integer 5) := rfl
  refine ⟨hresumed, hacts, ?_, hlater, hstays _ _ hlater hfixed⟩
  obtain ⟨_, heq | ⟨hfree, _⟩⟩ := hstep resisted hacts
  · rw [heq, hlast _ hfixed]
  · rw [hlast _ hfixed] at hfree
    cases hfree

end Intake.Constancy
