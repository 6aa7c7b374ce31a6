import Intake.Proofs.Endpoint.Registry
import Intake.Proofs.Stream.Reachable

/-!
# What an element commits

A failure reaches the flag of the step on six ways: a retrieval fails, also within a reading of all
parameters, a conversion fails, a failure is noted, the handler of an evaluation fails, or the
element is given up. An element commits what it was given for constant parameters unless one of
these happened.
-/

namespace Intake.Stream

open Constancy

/-- Asking for a name that is not declared leaves an element as it is. -/
theorem perform_undeclared {z : Element} {name : String} (h : z.endpoint.named? name = none)
    (type : ValueType) :
    (∃ err : Error, err.kind = .notFound ∧ z.perform (.named name) = (.error err, z)) ∧
      ∃ err : Error, err.kind = .notFound ∧ z.perform (.typed name type) = (.error err, z) := by
  constructor
  · exact ⟨(z.endpoint.undeclared name).withIndex z.index, rfl,
      by simp only [Element.perform, Element.retrieveNamed, h]⟩
  · exact ⟨z.endpoint.undeclared name, rfl,
      by simp only [Element.perform, Element.retrieveTyped, Endpoint.handle, h]⟩

theorem exists_fails_iff (history : List Occurrence) :
    (∃ o ∈ history, o.Fails) ↔
      (∃ p err, .retrieved p (.error err) ∈ history) ∨
        (∃ p reason, .misconverted p reason ∈ history) ∨ .noted ∈ history := by
  constructor
  · rintro ⟨o, ho, hf⟩
    cases hf with
    | retrieved p err => exact Or.inl ⟨p, err, ho⟩
    | misconverted p reason => exact Or.inr (Or.inl ⟨p, reason, ho⟩)
    | noted => exact Or.inr (Or.inr ho)
  · rintro (⟨p, err, h⟩ | ⟨p, reason, h⟩ | h)
    · exact ⟨_, h, .retrieved p err⟩
    · exact ⟨_, h, .misconverted p reason⟩
    · exact ⟨_, h, .noted⟩

theorem accepted_isSome_iff (history : List Occurrence) (id : ParameterId) :
    (Occurrence.accepted history id).isSome = true ↔
      ∃ p v, .retrieved p (.ok v) ∈ history ∧ p.id = id ∧ p.isConstant = true ∧
        v.isNull = false := by
  unfold Occurrence.accepted
  rw [List.findSome?_isSome_iff]
  constructor
  · rintro ⟨o, ho, hs⟩
    cases o with
    | retrieved p result =>
        cases result with
        | ok v => exact ⟨p, v, ho, by simpa [Occurrence.offer, offer] using hs⟩
        | error err => simp [Occurrence.offer, offer] at hs
    | misconverted p reason => simp [Occurrence.offer] at hs
    | noted => simp [Occurrence.offer] at hs
  · rintro ⟨p, v, ho, hv⟩
    exact ⟨_, ho, by simp [Occurrence.offer, offer, hv]⟩

/-- In every state, an accepted element fails its step exactly if one of the six failures happened.
When the next element is accepted, a failed step has left the fixed value of every id, and any other
has fixed in addition the first values that it was given for constant parameters, and no more. -/
theorem commit_of_history {e : Endpoint} {s : Stream} (hs : Reachable e s) {raw : RawRequest}
    {x : Element} (hx : (s.next raw).1 = .ok x) (steps : List Step) (mode : Drive) :
    ∃ y, (s.drive raw steps mode).element = some y ∧
      (y.constancy.failed = true ↔
        (∃ p err, .retrieved p (.error err) ∈ x.history steps) ∨
        (∃ p reason, .misconverted p reason ∈ x.history steps) ∨
        .noted ∈ x.history steps ∨
        (mode = .evaluate ∧ ∃ err, (s.drive raw steps mode).result = .error err) ∨
        mode = .take true) ∧
      (∀ (z : Element) (name : String) (type : ValueType), z.endpoint.named? name = none →
        (∃ err : Error, err.kind = .notFound ∧ z.perform (.named name) = (.error err, z)) ∧
        ∃ err : Error, err.kind = .notFound ∧ z.perform (.typed name type) = (.error err, z)) ∧
      ∀ id, ∃ before, x.constancy.record id = ⟨before, before⟩ ∧
        ∀ raw' z, ((s.drive raw steps mode).stream.next raw').1 = .ok z →
          if y.constancy.failed then z.constancy.record id = ⟨before, before⟩
          else
            z.constancy.record id =
              ⟨before.or (Occurrence.accepted (x.history steps) id),
                before.or (Occurrence.accepted (x.history steps) id)⟩ ∧
            ((z.constancy.record id).last.isSome = true ↔
              before.isSome = true ∨ ∃ p v, .retrieved p (.ok v) ∈ x.history steps ∧
                p.id = id ∧ p.isConstant = true ∧ v.isNull = false) := by
  have ho := hs.orderly
  have hstart : x.constancy = s.constancy.begin := by rw [(next_ok_iff.mp hx).2]; rfl
  obtain ⟨y, ending, hy, hstream, hend, hdev⟩ := drive_of_ok hx steps mode
  refine ⟨y, hy, ?_, fun z name type h => perform_undeclared h type, fun id => ?_⟩
  · have hmore : (∃ o ∈ ending, o.Fails) ↔ GivenUp mode (s.drive raw steps mode) := by
      rcases hend with ⟨hg, rfl⟩ | ⟨hg, rfl⟩
      · exact ⟨fun _ => hg, fun _ => ⟨.noted, List.mem_singleton.mpr rfl, .noted⟩⟩
      · simp [hg]
    rw [hdev.failed_iff, ho.failed_begin]
    simp only [List.mem_append, or_and_right, exists_or, exists_fails_iff, hmore, GivenUp,
      Bool.false_eq_true, false_or, or_assoc]
  · refine ⟨s.constancy.standing id, by rw [hstart, ho.record_begin_eq], ?_⟩
    intro raw' z hz
    have hz' : z.constancy = y.constancy.begin := by
      rw [(next_ok_iff.mp hz).2, hstream]
      rfl
    have hacc : Occurrence.accepted (x.history steps ++ ending) id =
        Occurrence.accepted (x.history steps) id := by
      rcases hend with ⟨_, rfl⟩ | ⟨_, rfl⟩
      · simp [Occurrence.accepted, Occurrence.offer]
      · rw [List.append_nil]
    rw [hz', hdev.orderly.record_begin_eq, hdev.standing ho, hacc]
    split
    · rfl
    · refine ⟨rfl, ?_⟩
      rw [Option.isSome_or, Bool.or_eq_true, accepted_isSome_iff]

/-- A stream on which the number of results is fixed. -/
def narrowed : Stream :=
  (Stream.drive { endpoint := .search } (JsonRequest.raw { body := [("limit", .integer 5)] })
    [{ action := .value .limit }] .evaluate).stream

def wider : RawRequest := JsonRequest.raw { body := [("limit", .integer 7)] }

/-- The handler tolerates that the number changes, and reads on. -/
def lenient : List Step := [{ action := .value .limit, tolerant := true }, { action := .resolveAll }]

theorem lenient_fails :
    Reachable .search narrowed ∧ (narrowed.next wider).1 = .ok (narrowed.element wider) ∧
      ∃ y, (narrowed.drive wider lenient (.take false)).element = some y ∧
        y.constancy.failed = true ∧
        ∀ raw z, ((narrowed.drive wider lenient (.take false)).stream.next raw).1 = .ok z →
          z.constancy.record Parameter.limit.id = ⟨some (.integer 5), some (.integer 5)⟩ := by
  have hs : Reachable .search narrowed := .drive _ _ .evaluate .new
  have hx : (narrowed.next wider).1 = .ok (narrowed.element wider) := rfl
  obtain ⟨y, hy, hfail, _, hrec⟩ := commit_of_history hs hx lenient (.take false)
  have hf : y.constancy.failed = true := hfail.mpr (Or.inl ⟨.limit, _, List.Mem.head _⟩)
  obtain ⟨before, hb, hnext⟩ := hrec Parameter.limit.id
  have hbefore : before = some (.integer 5) := congrArg Record.backup hb.symm
  refine ⟨hs, hx, y, hy, hf, fun raw z hz => ?_⟩
  have hz' := hnext raw z hz
  rw [hf, hbefore] at hz'
  exact hz'

end Intake.Stream
