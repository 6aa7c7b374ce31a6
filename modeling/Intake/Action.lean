import Intake.Stream

/-!
# Actions

Handlers as lists of steps. A step is something done to an element and whether the handler goes on
when it fails. The handler comes to the first failure that it does not tolerate.
-/

namespace Intake

inductive Action where
  | resolveAll
  | named (name : String)
  | value (p : Parameter)
  | typed (name : String) (type : ValueType)
  /-- Retrieves any parameter as a value of a type that the handler brings along. -/
  | converted (p : Parameter) (convert : Json → Except String Json)
  | noteFailure
  /-- Comes to a failure of the handler's own. -/
  | fail (e : Error)
  /-- Looks at the element. -/
  | look (view : Element → Json)

def Element.perform (x : Element) : Action → Except Error Json × Element
  | .resolveAll =>
      match x.resolveAll with
      | (.ok values, x) => (.ok (.object values), x)
      | (.error e, x) => (.error e, x)
  | .named name => x.retrieveNamed name
  | .value p => x.retrieve p
  | .typed name type => x.retrieveTyped name type
  | .converted p convert => x.retrieveAs p convert
  | .noteFailure => (.ok .null, x.noteFailure)
  | .fail e => (.error e, x)
  | .look view => (.ok (view x), x)

structure Step where
  action : Action
  tolerant : Bool := false

/-- What a list of steps came to: the result of each step that was done, and the failure that ended
them, if one did. -/
structure Transcript where
  results : List (Except Error Json)
  failure : Option Error

/-- Performs steps up to the first failure that is not tolerated. -/
def Element.run (x : Element) : List Step → Transcript × Element
  | [] => (⟨[], none⟩, x)
  | step :: rest =>
      match x.perform step.action with
      | (.error e, x) =>
          if step.tolerant then
            let (t, x) := x.run rest
            ({ t with results := .error e :: t.results }, x)
          else (⟨[.error e], some e⟩, x)
      | (.ok v, x) =>
          let (t, x) := x.run rest
          ({ t with results := .ok v :: t.results }, x)

def Handler.ofSteps (steps : List Step) : Handler Unit := fun x =>
  match x.run steps with
  | (⟨_, none⟩, x) => (.ok (), x)
  | (⟨_, some e⟩, x) => (.error e, x)

end Intake
