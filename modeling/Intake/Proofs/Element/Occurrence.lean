import Intake.Action
import Intake.Proofs.Constancy.Observation

/-!
# What happens to an element

The history of an element lists, in their order, the retrievals that a handler causes, also those
inside a reading of all parameters, the conversions that fail and the failures that are noted. Main
statements: every action passes through its history, so that what each kind of occurrence does to an
element settles what an action does; and the check for constancy develops as the history says,
whatever the handler makes of the failures.
-/

namespace Intake

inductive Occurrence where
  | retrieved (p : Parameter) (result : Except Error Json)
  | misconverted (p : Parameter) (reason : String)
  | noted

namespace Occurrence

/-- What an occurrence fixes an id to that was free. -/
def offer (id : ParameterId) : Occurrence → Option Json
  | .retrieved p result => Constancy.offer p result id
  | .misconverted _ _ => none
  | .noted => none

/-- A failed retrieval, a failed conversion or a noted failure. -/
inductive Fails : Occurrence → Prop where
  | retrieved (p : Parameter) (e : Error) : Fails (.retrieved p (.error e))
  | misconverted (p : Parameter) (reason : String) : Fails (.misconverted p reason)
  | noted : Fails .noted

theorem fails_retrieved_iff (p : Parameter) (result : Except Error Json) :
    (retrieved p result).Fails ↔ result.isOk = false := by
  cases result with
  | ok v =>
      constructor
      · intro h
        cases h
      · intro h
        cases h
  | error e => exact ⟨fun _ => rfl, fun _ => .retrieved p e⟩

/-- The value that a history fixes an id to that was free: the first that is on offer. -/
def accepted (history : List Occurrence) (id : ParameterId) : Option Json :=
  history.findSome? (offer id)

end Occurrence

namespace Element

/-- What parameters come to that are read one after the other. -/
def answers (x : Element) : List Parameter → List (Parameter × Except Error Json)
  | [] => []
  | p :: rest => (p, (x.fetch p).1) :: (x.fetch p).2.answers rest

/-- What happens when parameters are read one after the other. -/
def fetches (x : Element) (ps : List Parameter) : List Occurrence :=
  (x.answers ps).map fun a => .retrieved a.1 a.2

/-- What happens when a parameter is read as a value of a type. -/
def conversion (x : Element) (p : Parameter) (convert : Json → Except String Json) :
    List Occurrence :=
  .retrieved p (x.fetch p).1 ::
    match (x.fetch p).1 with
    | .error _ => []
    | .ok v =>
        match convert v with
        | .ok _ => []
        | .error reason => [.misconverted p reason]

def occurrences (x : Element) : Action → List Occurrence
  | .resolveAll => x.fetches x.endpoint.parameters
  | .named name =>
      match x.endpoint.named? name with
      | some p => [.retrieved p (x.fetch p).1]
      | none => []
  | .value p => [.retrieved p (x.fetch p).1]
  | .typed name type =>
      match x.endpoint.named? name with
      | some p => x.conversion p type.convert
      | none => []
  | .converted p convert => x.conversion p convert
  | .noteFailure => [.noted]
  | .fail _ => []
  | .look _ => []

/-- What happens while steps are performed, up to the first failure that is not tolerated. -/
def history (x : Element) : List Step → List Occurrence
  | [] => []
  | step :: rest =>
      x.occurrences step.action ++
        match x.perform step.action with
        | (.error _, y) => if step.tolerant then y.history rest else []
        | (.ok _, y) => y.history rest

/-! ## Single retrievals -/

/-- What a parameter comes to below the check for constancy. -/
def given (x : Element) (p : Parameter) : Except Error Json :=
  (x.request.retrieve x.endpoint p).1

theorem fetch_fst (x : Element) (p : Parameter) :
    (x.fetch p).1 = (x.constancy.observe p (x.given p)).1.mapError (·.withIndex x.index) := by
  unfold fetch given
  dsimp only
  split
  · rename_i h
    rw [h]
    rfl
  · rename_i h
    rw [h]
    rfl

theorem fetch_constancy (x : Element) (p : Parameter) :
    (x.fetch p).2.constancy = (x.constancy.observe p (x.given p)).2 := by
  unfold fetch given
  dsimp only
  split <;> rfl

theorem fetch_request (x : Element) (p : Parameter) :
    (x.fetch p).2.request = (x.request.retrieve x.endpoint p).2 := by
  unfold fetch
  dsimp only
  split <;> rfl

theorem fetch_log (x : Element) (p : Parameter) :
    (x.fetch p).2.log = (x.fetch p).1.toOption.elim x.log (x.log.record p.name) := by
  unfold fetch
  dsimp only
  split <;> rfl

@[simp] theorem fetch_endpoint (x : Element) (p : Parameter) :
    (x.fetch p).2.endpoint = x.endpoint := by
  unfold fetch
  dsimp only
  split <;> rfl

@[simp] theorem fetch_index (x : Element) (p : Parameter) : (x.fetch p).2.index = x.index := by
  unfold fetch
  dsimp only
  split <;> rfl

theorem retrieve_fst (x : Element) (p : Parameter) : (x.retrieve p).1 = (x.fetch p).1 := by
  unfold retrieve
  split
  · rename_i h
    rw [h]
  · rename_i h
    rw [h]

end Element

/-! ## What becomes of an element -/

/-- What happens to an element, one thing after the other, and what becomes of it. A report is not
part of the history. -/
inductive Passes : Element → List Occurrence → Element → Prop where
  | nil (x : Element) : Passes x [] x
  | retrieved {x y : Element} {history : List Occurrence} (p : Parameter) :
      Passes (x.fetch p).2 history y → Passes x (.retrieved p (x.fetch p).1 :: history) y
  | misconverted {x y : Element} {history : List Occurrence} (p : Parameter) (reason : String) :
      Passes x.noteFailure history y → Passes x (.misconverted p reason :: history) y
  | noted {x y : Element} {history : List Occurrence} :
      Passes x.noteFailure history y → Passes x (.noted :: history) y
  | reported {x y : Element} {history : List Occurrence} (e : Error) :
      Passes (x.report e) history y → Passes x history y

theorem Passes.append {x y z : Element} {history more : List Occurrence} (h : Passes x history y)
    (hmore : Passes y more z) : Passes x (history ++ more) z := by
  induction h with
  | nil x => exact hmore
  | retrieved p _ ih => exact .retrieved p (ih hmore)
  | misconverted p reason _ ih => exact .misconverted p reason (ih hmore)
  | noted _ ih => exact .noted (ih hmore)
  | reported e _ ih => exact .reported e (ih hmore)

namespace Element

theorem passes_retrieve (x : Element) (p : Parameter) :
    Passes x [.retrieved p (x.fetch p).1] (x.retrieve p).2 := by
  refine .retrieved p ?_
  unfold retrieve
  cases x.fetch p with
  | mk result y =>
      cases result with
      | ok v => exact .nil y
      | error e => exact .reported e (.nil _)

theorem passes_fetchAll (f : Findings) (x : Element) (ps : List Parameter) :
    Passes x (x.fetches ps) (fetchAll f x ps).2 := by
  induction ps generalizing f x with
  | nil => exact .nil x
  | cons p rest ih => exact .retrieved p (ih _ _)

theorem passes_conversion (x : Element) (p : Parameter) (convert : Json → Except String Json) :
    Passes x (x.conversion p convert) (x.retrieveAs p convert).2 := by
  have h := x.passes_retrieve p
  unfold conversion retrieveAs
  rw [← retrieve_fst] at h ⊢
  cases hr : x.retrieve p with
  | mk result y =>
      rw [hr] at h
      cases result with
      | error e => exact h
      | ok v =>
          dsimp only
          cases convert v with
          | ok typed => exact h
          | error reason => exact h.append (.misconverted p reason (.nil _))

theorem passes_resolveAll (x : Element) :
    Passes x (x.fetches x.endpoint.parameters) x.resolveAll.2 := by
  have h := passes_fetchAll {} x x.endpoint.parameters
  unfold resolveAll
  cases hf : fetchAll {} x x.endpoint.parameters with
  | mk findings y =>
      rw [hf] at h
      dsimp only
      cases findings.verdict with
      | ok values => exact h
      | error e => exact List.append_nil (x.fetches _) ▸ h.append (.reported e (.nil _))

/-- The step lemma: one case for each action. -/
theorem passes_perform (x : Element) (action : Action) :
    Passes x (x.occurrences action) (x.perform action).2 := by
  cases action with
  | resolveAll =>
      have h := x.passes_resolveAll
      simp only [occurrences, perform]
      cases hr : x.resolveAll with
      | mk result y =>
          rw [hr] at h
          cases result <;> exact h
  | named name =>
      simp only [occurrences, perform, retrieveNamed]
      cases x.endpoint.named? name with
      | none => exact .nil x
      | some p => exact x.passes_retrieve p
  | value p => exact x.passes_retrieve p
  | typed name type =>
      simp only [occurrences, perform, retrieveTyped, Endpoint.handle]
      cases x.endpoint.named? name with
      | none => exact .nil x
      | some p => exact x.passes_conversion p type.convert
  | converted p convert => exact x.passes_conversion p convert
  | noteFailure => exact .noted (.nil _)
  | fail e => exact .nil x
  | look view => exact .nil x

/-- The run lemma. -/
theorem passes_run (x : Element) (steps : List Step) :
    Passes x (x.history steps) (x.run steps).2 := by
  induction steps generalizing x with
  | nil => exact .nil x
  | cons step rest ih =>
      have h := x.passes_perform step.action
      simp only [history, run]
      cases hp : x.perform step.action with
      | mk result y =>
          rw [hp] at h
          cases result with
          | ok v => exact h.append (ih y)
          | error e =>
              cases step.tolerant with
              | true => exact h.append (ih y)
              | false => exact h.append (.nil y)

end Element

/-! ## The check under a history -/

/-- How a check develops under what happens to an element. -/
structure Develops (c : Constancy) (history : List Occurrence) (d : Constancy) : Prop where
  record_eq : ∀ id, d.record id =
    { c.record id with last := (c.record id).last.or (Occurrence.accepted history id) }
  failed_iff : d.failed = true ↔ c.failed = true ∨ ∃ o ∈ history, o.Fails
  steps_eq : d.steps = c.steps

namespace Develops

theorem nil (c : Constancy) : Develops c [] c where
  record_eq id := by simp [Occurrence.accepted]
  failed_iff := by simp
  steps_eq := rfl

theorem append {c d e : Constancy} {history more : List Occurrence} (h₁ : Develops c history d)
    (h₂ : Develops d more e) : Develops c (history ++ more) e where
  record_eq id := by
    rw [h₂.record_eq, h₁.record_eq]
    simp only [Occurrence.accepted, List.findSome?_append, Option.or_assoc]
  failed_iff := by
    rw [h₂.failed_iff, h₁.failed_iff, or_assoc]
    simp only [List.mem_append, or_and_right, exists_or]
  steps_eq := h₂.steps_eq.trans h₁.steps_eq

/-- A failure that is not one of a retrieval only raises the flag. -/
theorem fail (c : Constancy) {o : Occurrence} (hf : o.Fails) (ho : ∀ id, o.offer id = none) :
    Develops c [o] c.fail where
  record_eq id := by simp [Occurrence.accepted, ho]
  failed_iff := by simp [hf]
  steps_eq := rfl

/-- What stands after a step that began after `c`. -/
theorem standing {c d : Constancy} {history : List Occurrence} (hc : c.Orderly)
    (h : Develops c.begin history d) (id : ParameterId) :
    d.standing id =
      if d.failed then c.standing id
      else (c.standing id).or (Occurrence.accepted history id) := by
  have hd : d.Orderly := .of_steps (by rw [h.steps_eq, Constancy.steps_begin]; omega)
  rw [hd.standing_eq, h.record_eq, hc.record_begin_eq]

theorem orderly {c d : Constancy} {history : List Occurrence} (h : Develops c.begin history d) :
    d.Orderly := .of_steps (by rw [h.steps_eq, Constancy.steps_begin]; omega)

end Develops

namespace Element

theorem develops_fetch (x : Element) (p : Parameter) :
    Develops x.constancy [.retrieved p (x.fetch p).1] (x.fetch p).2.constancy := by
  have hoff : ∀ id, Constancy.offer p (x.fetch p).1 id =
      Constancy.offer p (x.constancy.observe p (x.given p)).1 id := by
    intro id
    rw [fetch_fst, Constancy.offer_mapError]
  rw [fetch_constancy]
  constructor
  · intro id
    rw [Constancy.record_observe]
    simp [Occurrence.accepted, Occurrence.offer, hoff]
  · have hok : (x.fetch p).1.isOk = (x.constancy.observe p (x.given p)).1.isOk := by
      rw [fetch_fst]
      cases (x.constancy.observe p (x.given p)).1 <;> rfl
    rw [Constancy.failed_observe, ← hok]
    simp [Occurrence.fails_retrieved_iff]
  · exact Constancy.steps_observe ..

end Element

theorem Develops.of_passes {x y : Element} {history : List Occurrence} (h : Passes x history y) :
    Develops x.constancy history y.constancy := by
  induction h with
  | nil x => exact .nil _
  | retrieved p _ ih => exact (Element.develops_fetch _ p).append ih
  | misconverted p reason _ ih => exact (fail _ (.misconverted p reason) fun _ => rfl).append ih
  | noted _ ih => exact (fail _ .noted fun _ => rfl).append ih
  | reported e _ ih => exact ih

end Intake
