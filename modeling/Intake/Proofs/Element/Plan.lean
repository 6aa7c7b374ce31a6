import Intake.Proofs.Element.Likeness
import Mathlib.Data.List.Forall2

/-!
# Plans

A handler may decide on its next action by what the earlier ones came to. A plan is such a handler
as a tree: it branches by the results of its actions and ends with a result of its own. Main
statements: lists of steps are plans, on each element a plan comes to what some list of steps comes
to, and plans do not reveal a correspondence that their actions respect.
-/

namespace Intake

inductive Plan (α : Type) where
  /-- Comes to a result. -/
  | stop (result : Except Error α)
  /-- Performs an action and goes on by what it came to. -/
  | perform (action : Action) (next : Except Error Json → Plan α)

/-- An action that is performed on an element. -/
structure Call where
  element : Element
  action : Action

def Call.result (c : Call) : Except Error Json := (c.element.perform c.action).1

theorem Handler.ofSteps_eq (steps : List Step) (x : Element) :
    Handler.ofSteps steps x =
      (match (x.run steps).1.failure with
        | none => .ok ()
        | some e => .error e, (x.run steps).2) := by
  unfold Handler.ofSteps
  rcases x.run steps with ⟨⟨results, failure⟩, y⟩
  cases failure <;> rfl

namespace Plan

variable {α : Type}

def handler : Plan α → Handler α
  | .stop result, x => (result, x)
  | .perform action next, x => (next (x.perform action).1).handler (x.perform action).2

/-- The calls that a plan makes, in their order. -/
def calls : Plan α → Element → List Call
  | .stop _, _ => []
  | .perform action next, x =>
      ⟨x, action⟩ :: (next (x.perform action).1).calls (x.perform action).2

/-! ## Lists of steps -/

def ofSteps : List Step → Plan Unit
  | [] => .stop (.ok ())
  | step :: rest => .perform step.action fun
      | .ok _ => ofSteps rest
      | .error e => if step.tolerant then ofSteps rest else .stop (.error e)

theorem handler_ofSteps (steps : List Step) : (ofSteps steps).handler = Handler.ofSteps steps := by
  funext x
  induction steps generalizing x with
  | nil => rfl
  | cons step rest ih =>
      have hrest := fun y => (ih y).trans (Handler.ofSteps_eq rest y)
      rw [Handler.ofSteps_eq, Element.run]
      simp only [ofSteps, handler]
      cases x.perform step.action with
      | mk result y =>
          cases result with
          | ok v => exact hrest y
          | error e =>
              cases step.tolerant with
              | true => exact hrest y
              | false => rfl

theorem exists_step_of_calls {steps : List Step} {x : Element} {c : Call}
    (hc : c ∈ (ofSteps steps).calls x) : ∃ step ∈ steps, c.action = step.action := by
  induction steps generalizing x with
  | nil => cases hc
  | cons step rest ih =>
      have hrest {y : Element} (hc : c ∈ (ofSteps rest).calls y) :
          ∃ other ∈ step :: rest, c.action = other.action := by
        obtain ⟨other, hother, haction⟩ := ih hc
        exact ⟨other, List.mem_cons_of_mem step hother, haction⟩
      rw [ofSteps, calls, List.mem_cons] at hc
      rcases hc with rfl | hc
      · exact ⟨step, List.mem_cons_self, rfl⟩
      · split at hc
        · exact hrest hc
        · split at hc
          · exact hrest hc
          · cases hc

/-- What a plan does to an element, step by step. -/
def steps (plan : Plan α) (x : Element) : List Step :=
  ((plan.calls x).map fun c => { action := c.action, tolerant := true }) ++
    match (plan.handler x).1 with
    | .ok _ => []
    | .error e => [{ action := .fail e }]

/-- On each element a plan comes to what a list of steps comes to. -/
theorem ofSteps_steps (plan : Plan α) (x : Element) :
    Handler.ofSteps (plan.steps x) x =
      ((plan.handler x).1.map fun _ => (), (plan.handler x).2) := by
  rw [← handler_ofSteps]
  induction plan generalizing x with
  | stop result => cases result <;> rfl
  | perform action next ih =>
      have hnext := ih (x.perform action).1 (x.perform action).2
      simp only [steps, calls, handler, List.map_cons, List.cons_append, ofSteps] at hnext ⊢
      cases hr : (x.perform action).1 with
      | ok v =>
          rw [hr] at hnext
          exact hnext
      | error e =>
          rw [hr] at hnext
          exact hnext

end Plan

/-! ## Plans side by side -/

/-- Plans that do the same as long as the results of their actions are similar. -/
inductive Plan.Follows (like : Error → Error → Prop) {α : Type} : Plan α → Plan α → Prop where
  | stop {result result' : Except Error α} : Similar like result result' →
      Follows like (.stop result) (.stop result')
  | perform (action : Action) {next next' : Except Error Json → Plan α} :
      (∀ result result', Similar like result result' → Follows like (next result) (next' result')) →
      Follows like (.perform action next) (.perform action next')

theorem Plan.follows_eq {α : Type} (plan : Plan α) : plan.Follows Eq plan := by
  induction plan with
  | stop result => exact .stop (similar_eq_iff.mpr rfl)
  | perform action next ih =>
      refine .perform action fun result result' h => ?_
      rw [similar_eq_iff.mp h]
      exact ih result'

/-- A list of steps goes on by whether a step fails, not by how. -/
theorem Plan.follows_ofSteps (like : Error → Error → Prop) (steps : List Step) :
    (ofSteps steps).Follows like (ofSteps steps) := by
  induction steps with
  | nil => exact .stop (.ok ())
  | cons step rest ih =>
      refine .perform step.action fun result result' h => ?_
      cases h with
      | ok v => exact ih
      | error he =>
          dsimp only
          split
          · exact ih
          · exact .stop (.error he)

/-- The same call of two elements that are alike, with similar results. -/
structure Call.Matching (like : Error → Error → Prop) (alike : Element → Element → Prop)
    (c c' : Call) : Prop where
  action_eq : c.action = c'.action
  element : alike c.element c'.element
  result : Similar like c.result c'.result

namespace Element.Correspondence

variable {α : Type} {reads : Parameter → Prop} {like : Error → Error → Prop}
  {alike : Element → Element → Prop} (h : Correspondence reads like alike) {x y : Element}
  {plan plan' : Plan α}

include h

/-- Plans that follow each other do not reveal a correspondence that their actions respect. -/
theorem handler (hfollows : plan.Follows like plan') (hxy : alike x y)
    (hplan : ∀ c ∈ plan.calls x, c.action.Respects reads alike) :
    Matching like alike (plan.handler x) (plan'.handler y) := by
  induction hfollows generalizing x y with
  | stop hresult => exact ⟨hresult, hxy⟩
  | perform action _ ih =>
      rw [Plan.calls, List.forall_mem_cons] at hplan
      obtain ⟨hresult, hafter⟩ := h.perform hxy hplan.1
      exact ih _ _ hresult hafter hplan.2

theorem calls (hfollows : plan.Follows like plan') (hxy : alike x y)
    (hplan : ∀ c ∈ plan.calls x, c.action.Respects reads alike) :
    List.Forall₂ (Call.Matching like alike) (plan.calls x) (plan'.calls y) := by
  induction hfollows generalizing x y with
  | stop _ => exact .nil
  | perform action _ ih =>
      rw [Plan.calls, List.forall_mem_cons] at hplan
      obtain ⟨hresult, hafter⟩ := h.perform hxy hplan.1
      exact .cons ⟨rfl, hxy, hresult⟩ (ih _ _ hresult hafter hplan.2)

end Element.Correspondence

/-! ## What is kept -/

namespace Element.Likeness

variable {α : Type} {reads : Parameter → Prop} {alike : Element → Element → Prop}
  (h : Likeness reads alike) {x y : Element}

include h

/-- Before each call of a plan there is still an element that is alike. -/
theorem calls (plan : Plan α) (hxy : alike x y)
    (hplan : ∀ c ∈ plan.calls x, c.action.Respects reads alike) :
    ∀ c ∈ plan.calls x, ∃ z, alike c.element z := by
  intro c hc
  have hcalls := h.correspondence.calls plan.follows_eq hxy hplan
  obtain ⟨k, hk, rfl⟩ := List.getElem_of_mem hc
  exact ⟨_, (hcalls.get hk (hcalls.length_eq ▸ hk)).element⟩

end Element.Likeness

/-- What retrievals of certain parameters keep is a likeness of each element with itself. -/
theorem Element.Likeness.of_kept {reads : Parameter → Prop} {holds : Element → Prop}
    (declared : ∀ x, holds x → ∀ p ∈ x.endpoint.parameters, reads p)
    (fetch : ∀ x p, reads p → holds x → holds (x.fetch p).2)
    (report : ∀ x e, holds x → holds (x.report e))
    (noteFailure : ∀ x, holds x → holds x.noteFailure) :
    Likeness reads fun x y => x = y ∧ holds x where
  endpoint_eq := fun ⟨hxy, _⟩ => hxy ▸ rfl
  index_eq := fun ⟨hxy, _⟩ => hxy ▸ rfl
  declared := fun ⟨_, hx⟩ => declared _ hx
  fetch := fun hp ⟨hxy, hx⟩ => hxy ▸ ⟨rfl, rfl, fetch _ _ hp hx⟩
  report := fun e ⟨hxy, hx⟩ => hxy ▸ ⟨rfl, report _ e hx⟩
  noteFailure := fun ⟨hxy, hx⟩ => hxy ▸ ⟨rfl, noteFailure _ hx⟩

/-- What holds of an element after a retrieval, a report or a noted failure if it did before. -/
structure Element.Stable (holds : Element → Prop) : Prop where
  fetch : ∀ x p, holds x → holds (x.fetch p).2
  report : ∀ x e, holds x → holds (x.report e)
  noteFailure : ∀ x, holds x → holds x.noteFailure

namespace Element.Stable

variable {α : Type} {holds : Element → Prop} (h : Stable holds) {x : Element}

include h

theorem likeness : Likeness (fun _ => True) fun x y => x = y ∧ holds x :=
  .of_kept (fun _ _ _ _ => trivial) (fun x p _ => h.fetch x p) h.report h.noteFailure

/-- It holds of the element before each call of a plan. -/
theorem calls (plan : Plan α) (hx : holds x) : ∀ c ∈ plan.calls x, holds c.element := by
  intro c hc
  obtain ⟨_, _, hbefore⟩ :=
    h.likeness.calls plan ⟨rfl, hx⟩ (fun c _ => c.action.reads_all.respects holds) c hc
  exact hbefore

end Element.Stable

end Intake
