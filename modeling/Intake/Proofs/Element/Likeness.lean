import Intake.Action

/-!
# Elements side by side

Two elements may differ in what a handler cannot tell apart. A correspondence is a relation between
elements that single retrievals keep and that their results reveal by similar failures at most; a
likeness is not revealed at all. Main statement: no action reveals more, as long as it reads only
what the relation allows.
-/

namespace Intake

/-! ## Similar results -/

/-- Equal values, or failures that are taken for the same. -/
inductive Similar (like : Error → Error → Prop) {β : Type} :
    Except Error β → Except Error β → Prop where
  | ok (b : β) : Similar like (.ok b) (.ok b)
  | error {e e' : Error} : like e e' → Similar like (.error e) (.error e')

section

variable {like : Error → Error → Prop} {β : Type} {a b : Except Error β}

theorem similar_eq_iff : Similar Eq a b ↔ a = b := by
  constructor
  · rintro (_ | h)
    · rfl
    · rw [h]
  · rintro rfl
    cases a with
    | ok b => exact .ok b
    | error e => exact .error rfl

theorem Similar.refl (hrefl : ∀ e, like e e) (a : Except Error β) : Similar like a a := by
  cases a with
  | ok b => exact .ok b
  | error e => exact .error (hrefl e)

theorem Similar.toOption_eq (h : Similar like a b) : a.toOption = b.toOption := by
  cases h with
  | ok b => rfl
  | error h => rfl

theorem Similar.mapError (h : Similar like a b) {f : Error → Error}
    (hf : ∀ {e e'}, like e e' → like (f e) (f e')) : Similar like (a.mapError f) (b.mapError f) := by
  cases h with
  | ok b => exact .ok b
  | error h => exact .error (hf h)

end

/-- Similar results came of two elements, which are still alike. -/
def Element.Matching {β : Type} (like : Error → Error → Prop) (alike : Element → Element → Prop)
    (a b : Except Error β × Element) : Prop :=
  Similar like a.1 b.1 ∧ alike a.2 b.2

/-- The same came of two elements, which are still alike. -/
def Element.Same {β : Type} (alike : Element → Element → Prop) (a b : β × Element) : Prop :=
  a.1 = b.1 ∧ alike a.2 b.2

namespace Action

/-- An action that reads declared parameters and certain others, and no more. -/
def Reads (reads : Parameter → Prop) : Action → Prop
  | .value p => reads p
  | .converted p _ => reads p
  | _ => True

/-- An action that by looking at elements does not tell them apart that are alike. -/
def Ignores (alike : Element → Element → Prop) : Action → Prop
  | .look view => ∀ x y, alike x y → view x = view y
  | _ => True

/-- An action that a likeness can be kept from. -/
def Respects (reads : Parameter → Prop) (alike : Element → Element → Prop) (a : Action) : Prop :=
  a.Reads reads ∧ a.Ignores alike

theorem Ignores.mono {alike alike' : Element → Element → Prop} {a : Action}
    (h : a.Ignores alike) (hle : ∀ x y, alike' x y → alike x y) : a.Ignores alike' := by
  cases a with
  | look view => exact fun x y hxy => h x y (hle x y hxy)
  | _ => trivial

theorem reads_all (a : Action) : a.Reads fun _ => True := by
  cases a <;> trivial

theorem Reads.respects {reads : Parameter → Prop} {a : Action} (h : a.Reads reads)
    (holds : Element → Prop) : a.Respects reads fun x y => x = y ∧ holds x := by
  refine ⟨h, ?_⟩
  cases a with
  | look view => exact fun x y hxy => congrArg view hxy.1
  | _ => trivial

end Action

/-- A relation between elements of one endpoint and place that a retrieval of certain parameters, a
report or a noted failure keeps. Declared parameters are among these parameters. -/
structure Element.Likeness (reads : Parameter → Prop) (alike : Element → Element → Prop) :
    Prop where
  endpoint_eq : ∀ {x y}, alike x y → x.endpoint = y.endpoint
  index_eq : ∀ {x y}, alike x y → x.index = y.index
  declared : ∀ {x y}, alike x y → ∀ p ∈ x.endpoint.parameters, reads p
  fetch : ∀ {x y p}, reads p → alike x y → Same alike (x.fetch p) (y.fetch p)
  report : ∀ {x y} (e : Error), alike x y → alike (x.report e) (y.report e)
  noteFailure : ∀ {x y}, alike x y → alike x.noteFailure y.noteFailure

/-- A relation between elements of one endpoint and place that a retrieval of certain parameters, a
report or a noted failure keeps, where failures of retrievals are taken for the same that do not
differ in what tells shortfalls from violations. -/
structure Element.Correspondence (reads : Parameter → Prop) (like : Error → Error → Prop)
    (alike : Element → Element → Prop) : Prop where
  refl : ∀ e, like e e
  decode_isSome : ∀ {e e'}, like e e' → e.decode.isSome = e'.decode.isSome
  endpoint_eq : ∀ {x y}, alike x y → x.endpoint = y.endpoint
  index_eq : ∀ {x y}, alike x y → x.index = y.index
  declared : ∀ {x y}, alike x y → ∀ p ∈ x.endpoint.parameters, reads p
  fetch : ∀ {x y p}, reads p → alike x y → Matching like alike (x.fetch p) (y.fetch p)
  report : ∀ {x y e e'}, like e e' → alike x y → alike (x.report e) (y.report e')
  noteFailure : ∀ {x y}, alike x y → alike x.noteFailure y.noteFailure

/-- Findings with the same values and similar failures. -/
structure Element.Findings.Similar (like : Error → Error → Prop) (f g : Findings) : Prop where
  values_eq : f.values = g.values
  violation : Option.Rel like f.violation g.violation
  shortfall : Option.Rel like f.shortfall g.shortfall

theorem rel_or {like : Error → Error → Prop} {a b c d : Option Error} (hab : Option.Rel like a b)
    (hcd : Option.Rel like c d) : Option.Rel like (a.or c) (b.or d) := by
  cases hab with
  | none => exact hcd
  | some h => exact .some h

theorem Element.Findings.Similar.verdict {like : Error → Error → Prop} {f g : Findings}
    (h : f.Similar like g) : Intake.Similar like f.verdict g.verdict := by
  have hfailure := rel_or h.violation h.shortfall
  unfold Findings.verdict
  generalize f.violation.or f.shortfall = failure at hfailure
  generalize g.violation.or g.shortfall = failure' at hfailure
  cases hfailure with
  | none =>
      rw [h.values_eq]
      exact .ok _
  | some he => exact .error he

namespace Element.Correspondence

variable {reads : Parameter → Prop} {like : Error → Error → Prop}
  {alike : Element → Element → Prop} (h : Correspondence reads like alike) {x y : Element}
  {p : Parameter}

include h

theorem reads_of_named (hxy : alike x y) {name : String} (hp : x.endpoint.named? name = some p) :
    reads p :=
  h.declared hxy p (List.mem_of_find?_eq_some hp)

theorem retrieve (hp : reads p) (hxy : alike x y) :
    Matching like alike (x.retrieve p) (y.retrieve p) := by
  obtain ⟨hresult, hafter⟩ := h.fetch hp hxy
  unfold Element.retrieve
  cases hx : x.fetch p with
  | mk result x' =>
      cases hy : y.fetch p with
      | mk result' y' =>
          rw [hx, hy] at hresult hafter
          cases hresult with
          | ok v => exact ⟨.ok v, hafter⟩
          | error he => exact ⟨.error he, h.report he hafter⟩

theorem retrieveAs (hp : reads p) (hxy : alike x y) (convert : Json → Except String Json) :
    Matching like alike (x.retrieveAs p convert) (y.retrieveAs p convert) := by
  obtain ⟨hresult, hafter⟩ := h.retrieve hp hxy
  unfold Element.retrieveAs
  cases hx : x.retrieve p with
  | mk result x' =>
      cases hy : y.retrieve p with
      | mk result' y' =>
          rw [hx, hy] at hresult hafter
          cases hresult with
          | error he => exact ⟨.error he, hafter⟩
          | ok v =>
              dsimp only
              cases convert v with
              | ok typed => exact ⟨.ok typed, hafter⟩
              | error reason => exact ⟨.error (h.refl _), h.noteFailure hafter⟩

theorem add {f g : Findings} (hfg : f.Similar like g) (name : String)
    {result result' : Except Error Json} (hresult : Similar like result result') :
    (f.add name result).Similar like (g.add name result') := by
  cases hresult with
  | ok v => exact ⟨congrArg (·.insert name v) hfg.values_eq, hfg.violation, hfg.shortfall⟩
  | error he =>
      unfold Findings.add
      simp only [h.decode_isSome he]
      split
      · exact ⟨hfg.values_eq, hfg.violation, rel_or hfg.shortfall (.some he)⟩
      · exact ⟨hfg.values_eq, rel_or hfg.violation (.some he), hfg.shortfall⟩

theorem fetchAll {f g : Findings} (hfg : f.Similar like g) {ps : List Parameter}
    (hps : ∀ p ∈ ps, reads p) (hxy : alike x y) :
    (Element.fetchAll f x ps).1.Similar like (Element.fetchAll g y ps).1 ∧
      alike (Element.fetchAll f x ps).2 (Element.fetchAll g y ps).2 := by
  induction ps generalizing f g x y with
  | nil => exact ⟨hfg, hxy⟩
  | cons p rest ih =>
      obtain ⟨hresult, hafter⟩ := h.fetch (hps p List.mem_cons_self) hxy
      exact ih (h.add hfg p.name hresult) (fun q hq => hps q (List.mem_cons_of_mem p hq)) hafter

theorem resolveAll (hxy : alike x y) : Matching like alike x.resolveAll y.resolveAll := by
  have hnone : ({} : Findings).Similar like {} := ⟨rfl, .none, .none⟩
  obtain ⟨hfindings, hafter⟩ := h.fetchAll hnone (h.declared hxy) hxy
  unfold Element.resolveAll
  rw [← h.endpoint_eq hxy]
  cases hx : Element.fetchAll {} x x.endpoint.parameters with
  | mk findings x' =>
      cases hy : Element.fetchAll {} y x.endpoint.parameters with
      | mk findings' y' =>
          rw [hx, hy] at hfindings hafter
          dsimp only
          have hverdict := hfindings.verdict
          generalize findings.verdict = result at hverdict
          generalize findings'.verdict = result' at hverdict
          cases hverdict with
          | ok values => exact ⟨.ok values, hafter⟩
          | error he => exact ⟨.error he, h.report he hafter⟩

/-- The step lemma. -/
theorem perform (hxy : alike x y) {action : Action} (ha : action.Respects reads alike) :
    Matching like alike (x.perform action) (y.perform action) := by
  cases action with
  | resolveAll =>
      obtain ⟨hresult, hafter⟩ := h.resolveAll hxy
      simp only [Element.perform]
      cases hx : x.resolveAll with
      | mk result x' =>
          cases hy : y.resolveAll with
          | mk result' y' =>
              rw [hx, hy] at hresult hafter
              cases hresult with
              | ok values => exact ⟨.ok _, hafter⟩
              | error he => exact ⟨.error he, hafter⟩
  | named name =>
      simp only [Element.perform, Element.retrieveNamed]
      rw [← h.endpoint_eq hxy, ← h.index_eq hxy]
      cases hn : x.endpoint.named? name with
      | none => exact ⟨.error (h.refl _), hxy⟩
      | some p => exact h.retrieve (h.reads_of_named hxy hn) hxy
  | value p => exact h.retrieve ha.1 hxy
  | typed name type =>
      simp only [Element.perform, Element.retrieveTyped, Endpoint.handle]
      rw [← h.endpoint_eq hxy]
      cases hn : x.endpoint.named? name with
      | none => exact ⟨.error (h.refl _), hxy⟩
      | some p => exact h.retrieveAs (h.reads_of_named hxy hn) hxy type.convert
  | converted p convert => exact h.retrieveAs ha.1 hxy convert
  | noteFailure => exact ⟨.ok _, h.noteFailure hxy⟩
  | fail e => exact ⟨.error (h.refl e), hxy⟩
  | look view =>
      have hview : view x = view y := ha.2 x y hxy
      simp only [Element.perform, hview]
      exact ⟨.ok _, hxy⟩

end Element.Correspondence

theorem Element.matching_eq_iff {β : Type} {alike : Element → Element → Prop}
    {a b : Except Error β × Element} : Matching Eq alike a b ↔ Same alike a b :=
  and_congr_left' similar_eq_iff

/-- A likeness is a correspondence in which failures are the same. -/
theorem Element.Likeness.correspondence {reads : Parameter → Prop}
    {alike : Element → Element → Prop} (h : Likeness reads alike) :
    Correspondence reads Eq alike where
  refl := fun _ => rfl
  decode_isSome := fun he => congrArg (fun e : Error => e.decode.isSome) he
  endpoint_eq := h.endpoint_eq
  index_eq := h.index_eq
  declared := h.declared
  fetch := fun hp hxy => matching_eq_iff.mpr (h.fetch hp hxy)
  report := by
    rintro x y e _ rfl hxy
    exact h.report e hxy
  noteFailure := h.noteFailure

end Intake
