import Intake.Proofs.Element.Occurrence

/-!
# Reading all parameters

What a reading of several parameters finds depends only on what the parameters come to, one after
the other: all values by name, the first violation and the first shortfall.
-/

namespace Intake.Element

/-- A failure that carries a failure to decode, or one that does not: a shortfall or a violation. -/
def failure? (decoded : Bool) : Except Error Json → Option Error
  | .ok _ => none
  | .error e => if e.decode.isSome = decoded then some e else none

@[simp] theorem failure?_ok (decoded : Bool) (v : Json) : failure? decoded (.ok v) = none := rfl

theorem failure?_error (decoded : Bool) (e : Error) :
    failure? decoded (.error e) = if e.decode.isSome = decoded then some e else none := rfl

theorem failure?_withIndex (decoded : Bool) (result : Except Error Json) (index : Nat) :
    failure? decoded (result.mapError (·.withIndex index)) =
      (failure? decoded result).map (·.withIndex index) := by
  cases result with
  | ok v => rfl
  | error e =>
      show (if e.decode.isSome = decoded then some (e.withIndex index) else none) =
        (if e.decode.isSome = decoded then some e else none).map (·.withIndex index)
      split
      · rfl
      · rfl

/-- The values among answers, by name. -/
def entries (answers : List (Parameter × Except Error Json)) : List (String × Json) :=
  answers.filterMap fun a => a.2.toOption.map fun v => (a.1.name, v)

theorem fetchAll_fst (f : Findings) (x : Element) (ps : List Parameter) :
    (fetchAll f x ps).1 = (x.answers ps).foldl (fun f a => f.add a.1.name a.2) f := by
  induction ps generalizing f x with
  | nil => rfl
  | cons p rest ih => exact ih _ _

variable (answers : List (Parameter × Except Error Json)) (f : Findings)

theorem foldl_add :
    answers.foldl (fun f a => f.add a.1.name a.2) f =
      { values := (entries answers).foldl (fun d e => d.insert e.1 e.2) f.values
        violation := f.violation.or (answers.findSome? fun a => failure? false a.2)
        shortfall := f.shortfall.or (answers.findSome? fun a => failure? true a.2) } := by
  induction answers generalizing f with
  | nil => simp [entries]
  | cons a rest ih =>
      obtain ⟨p, result⟩ := a
      rw [List.foldl_cons, ih]
      cases result with
      | ok v => simp [Findings.add, entries, Except.toOption, List.findSome?_cons]
      | error e =>
          cases hd : e.decode.isSome with
          | true => simp [Findings.add, entries, Except.toOption, failure?_error, hd]
          | false => simp [Findings.add, entries, Except.toOption, failure?_error, hd]

/-- The failure that counts among answers: the first violation, or else the first shortfall. -/
def rejection? : Option Error :=
  (answers.findSome? fun a => failure? false a.2).or (answers.findSome? fun a => failure? true a.2)

theorem resolveAll_fst (x : Element) :
    x.resolveAll.1 =
      match rejection? (x.answers x.endpoint.parameters) with
      | some e => .error e
      | none => .ok (Dictionary.ofList (entries (x.answers x.endpoint.parameters))) := by
  have hf := fetchAll_fst {} x x.endpoint.parameters
  rw [foldl_add] at hf
  have hv : (fetchAll {} x x.endpoint.parameters).1.verdict =
      match rejection? (x.answers x.endpoint.parameters) with
      | some e => .error e
      | none => .ok (Dictionary.ofList (entries (x.answers x.endpoint.parameters))) := by
    rw [hf]
    simp only [Findings.verdict, rejection?, Option.none_or]
    rfl
  rw [← hv]
  unfold resolveAll
  cases hr : fetchAll {} x x.endpoint.parameters with
  | mk findings y =>
      dsimp only
      cases findings.verdict <;> rfl

end Intake.Element
