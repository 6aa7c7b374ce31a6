import Intake.Proofs.Endpoint.Registration
import Intake.Proofs.Stream.Renaming
import Mathlib.Data.List.Nodup

/-!
# Which descriptions make endpoints

A description makes an endpoint when its defaults fit their kinds and its names are not blank and
not repeated. Main statement: nothing else is asked of it, every refusal is the fault of its author,
and a default that does not fit is told before all else.
-/

namespace Intake

/-- A parameter whose default has the shape of its kind, if it has a default. -/
def ParameterDescription.Fits (p : ParameterDescription) : Prop :=
  ∀ v, p.default = some v → p.kind.accepts v = true

/-- What has the shape that a kind is called after is accepted by the kind. -/
theorem Kind.accepts_of_shape_eq {kind : Kind} {v : Json} (h : v.shape = Worded.word kind) :
    kind.accepts v = true := by
  cases kind <;> cases v <;> simp_all [Kind.accepts, Json.shape, Worded.word]

namespace Description

variable {ids : Nat → ParameterId} {d : Description}

/-! ## Defaults that do not fit -/

/-- The first parameter of a list whose default does not fit. -/
def FirstMisfit (ds : List ParameterDescription) (p : ParameterDescription) (v : Json) : Prop :=
  ∃ fitting later, ds = fitting ++ p :: later ∧ (∀ q ∈ fitting, q.Fits) ∧
    p.default = some v ∧ p.kind.accepts v = false

theorem FirstMisfit.cons {ds : List ParameterDescription} {p q : ParameterDescription} {v : Json}
    (h : FirstMisfit ds p v) (hq : q.Fits) : FirstMisfit (q :: ds) p v := by
  obtain ⟨fitting, later, rfl, hfitting, hv⟩ := h
  exact ⟨q :: fitting, later, rfl, List.forall_mem_cons.mpr ⟨hq, hfitting⟩, hv⟩

theorem FirstMisfit.not_fits {ds : List ParameterDescription} {p : ParameterDescription} {v : Json}
    (h : FirstMisfit ds p v) : p ∈ ds ∧ ¬ p.Fits := by
  obtain ⟨fitting, later, rfl, -, hv, haccepts⟩ := h
  refine ⟨by simp, fun hp => ?_⟩
  rw [hp v hv] at haccepts
  cases haccepts

theorem parameter_cases (id : ParameterId) (p : ParameterDescription) :
    (∃ v, p.default = some v ∧ p.kind.accepts v = false ∧
      parameter id p = .error (.wrongDefault p.name v.shape p.kind)) ∨
    p.Fits ∧ ∃ made, parameter id p = .ok made ∧ made.id = id := by
  unfold parameter ParameterDescription.Fits
  cases p.default with
  | none => exact .inr ⟨nofun, _, rfl, rfl⟩
  | some v =>
      dsimp only
      split
      · rename_i haccepts
        refine .inr ⟨?_, _, rfl, rfl⟩
        rintro _ ⟨⟩
        exact haccepts
      · rename_i haccepts
        exact .inl ⟨v, rfl, by simpa using haccepts, rfl⟩

/-- The parameters of a list of descriptions have the ids from a place on, unless a default does not
fit. -/
theorem parameterList_cases (ids : Nat → ParameterId) (place : Nat)
    (ds : List ParameterDescription) :
    (∃ p v, FirstMisfit ds p v ∧
      parameterList ids place ds = .error (.wrongDefault p.name v.shape p.kind)) ∨
    (∀ p ∈ ds, p.Fits) ∧ ∃ ps, parameterList ids place ds = .ok ps ∧
      ps.map Parameter.id = (List.range' place ds.length).map ids := by
  induction ds generalizing place with
  | nil => exact .inr ⟨nofun, [], rfl, rfl⟩
  | cons p rest ih =>
      rcases parameter_cases (ids place) p with ⟨v, hv, haccepts, hp⟩ | ⟨hfits, made, hp, hid⟩
      · refine .inl ⟨p, v, ⟨[], rest, rfl, nofun, hv, haccepts⟩, ?_⟩
        rw [parameterList, hp]
        rfl
      · rcases ih (place + 1) with ⟨q, v, hfirst, hrest⟩ | ⟨hall, ps, hrest, hids⟩
        · refine .inl ⟨q, v, hfirst.cons hfits, ?_⟩
          rw [parameterList, hp, hrest]
          rfl
        · refine .inr ⟨List.forall_mem_cons.mpr ⟨hfits, hall⟩, made :: ps, ?_, ?_⟩
          · rw [parameterList, hp, hrest]
            rfl
          · rw [List.map_cons, hid, hids, List.length_cons, List.range'_succ, List.map_cons]

theorem map_name_parameterList {place : Nat} {ds : List ParameterDescription} {ps : List Parameter}
    (h : parameterList ids place ds = .ok ps) :
    ps.map Parameter.name = ds.map ParameterDescription.name := by
  have hnames := congrArg (List.map Parameter.name) (parameterList_ok h)
  rw [List.map_map, List.map_map] at hnames
  exact hnames

/-- A description is refused for its first default that does not fit, and otherwise makes what its
parameters make. -/
theorem toEndpoint_cases (d : Description) (ids : Nat → ParameterId) :
    (∃ p v, FirstMisfit d.parameters p v ∧
      d.toEndpoint ids = .error (.wrongDefault p.name v.shape p.kind)) ∨
    (∀ p ∈ d.parameters, p.Fits) ∧ ∃ ps,
      d.toEndpoint ids = (Endpoint.make d.name d.pattern ps).mapError .endpoint ∧
      ps.map Parameter.name = d.parameters.map ParameterDescription.name ∧
      ps.map Parameter.id = (List.range' 0 d.parameters.length).map ids := by
  rcases parameterList_cases ids 0 d.parameters with
    ⟨p, v, hfirst, hlist⟩ | ⟨hfits, ps, hlist, hids⟩
  · refine .inl ⟨p, v, hfirst, ?_⟩
    rw [toEndpoint, hlist]
    rfl
  · refine .inr ⟨hfits, ps, ?_, map_name_parameterList hlist, hids⟩
    rw [toEndpoint, hlist]
    cases hmade : Endpoint.make d.name d.pattern ps with
    | ok e =>
        simp only [bind, Except.bind, hmade]
        rfl
    | error fault =>
        simp only [bind, Except.bind, hmade]
        rfl

theorem fits_of_toEndpoint {e : Endpoint} (h : d.toEndpoint ids = .ok e) :
    ∀ p ∈ d.parameters, p.Fits := by
  rcases d.toEndpoint_cases ids with ⟨p, v, -, hd⟩ | ⟨hfits, -⟩
  · rw [hd] at h
    cases h
  · exact hfits

/-! ## Parameters with ids of their own -/

theorem ids_distinct_of_range {ps : List Parameter} {n : Nat}
    (hids : ∀ j < n, ∀ k < n, ids j = ids k → j = k)
    (h : ps.map Parameter.id = (List.range' 0 n).map ids) : (ps.map Parameter.id).Nodup := by
  rw [h]
  refine List.Nodup.map_on ?_ List.nodup_range'
  intro j hj k hk
  exact hids j (by simpa using hj) k (by simpa using hk)

theorem registrable_iff {ps : List Parameter} {ds : List ParameterDescription}
    (hids : (ps.map Parameter.id).Nodup)
    (hnames : ps.map Parameter.name = ds.map ParameterDescription.name) :
    Endpoint.Registrable ps ↔
      (∀ p ∈ ds, Text.trim p.name ≠ "") ∧ (ds.map ParameterDescription.name).Nodup := by
  have hnamed : (∀ p ∈ ps, Text.trim p.name ≠ "") ↔ ∀ p ∈ ds, Text.trim p.name ≠ "" := by
    rw [← List.forall_mem_map (f := Parameter.name) (P := fun n => Text.trim n ≠ ""), hnames,
      List.forall_mem_map]
  rw [← hnamed, ← hnames]
  exact ⟨fun h => ⟨h.named, h.names_distinct⟩, fun h => ⟨h.1, h.2, hids⟩⟩

/-! ## Acceptance -/

/-- A description makes an endpoint exactly if its defaults fit and its names are there and differ.
Each refusal is an error of usage. Wherever a default does not fit, the first such one is told, with
two different words for what it is and what it should be. -/
theorem toEndpoint_exact (d : Description) {ids : Nat → ParameterId}
    (hids : ∀ j < d.parameters.length, ∀ k < d.parameters.length, ids j = ids k → j = k) :
    ((∃ e, d.toEndpoint ids = .ok e) ↔
      (∀ p ∈ d.parameters, p.Fits) ∧ Text.trim d.name ≠ "" ∧
        (∀ p ∈ d.parameters, Text.trim p.name ≠ "") ∧
        (d.parameters.map ParameterDescription.name).Nodup) ∧
    (∀ unfit, d.toEndpoint ids = .error unfit → unfit.error.kind = .usage) ∧
    ((∃ p ∈ d.parameters, ¬ p.Fits) → ∃ p v, FirstMisfit d.parameters p v ∧
      v.shape ≠ Worded.word p.kind ∧
      (d.toEndpoint ids).mapError Unfit.error = .error
        { kind := .usage
          message := some ("default for '" ++ p.name ++ "' is " ++ v.shape ++ ", expected " ++
            Worded.word p.kind)
          parameter := some p.name }) := by
  rcases d.toEndpoint_cases ids with ⟨p, v, hfirst, hd⟩ | ⟨hfits, ps, hd, hnames, hrange⟩
  · rw [hd]
    refine ⟨?_, ?_, ?_⟩
    · obtain ⟨hp, hmisfit⟩ := hfirst.not_fits
      constructor
      · rintro ⟨e, he⟩
        cases he
      · rintro ⟨hfits, -⟩
        exact absurd (hfits p hp) hmisfit
    · rintro _ ⟨⟩
      rfl
    · rintro -
      refine ⟨p, v, hfirst, fun hshape => ?_, rfl⟩
      obtain ⟨_, _, -, -, -, haccepts⟩ := hfirst
      rw [Kind.accepts_of_shape_eq hshape] at haccepts
      cases haccepts
  · have hdistinct := ids_distinct_of_range hids hrange
    rw [hd]
    refine ⟨?_, ?_, ?_⟩
    · rw [← registrable_iff hdistinct hnames, ← Endpoint.wellFormed_iff,
        ← Endpoint.exists_make_iff d.pattern]
      simp only [mapError_eq_ok_iff]
      exact ⟨fun h => ⟨hfits, h⟩, And.right⟩
    · intro unfit h
      obtain ⟨fault, hfault, rfl⟩ := mapError_eq_error_iff.mp h
      rw [Unfit.error, Endpoint.Fault.kind_error]
      -- the one other kind is that of repeated ids, of which there are none
      cases fault with
      | repeatedId id name => exact absurd hdistinct (Endpoint.not_nodup_of_repeatedId hfault)
      | _ => rfl
    · rintro ⟨p, hp, hmisfit⟩
      exact absurd (hfits p hp) hmisfit

/-- A parameter without a name, and then one with a default of a wrong shape. -/
def misfitted : Description :=
  ⟨"search", .clientStream,
    [{ name := "" }, { name := "limit", kind := .integer, default := some (.string "ten") }]⟩

/-- Of a blank name and a wrong default after it, the default is told. -/
theorem misfitted_tells_default :
    (misfitted.toEndpoint fun k => ⟨.ofNat 128 k⟩).mapError Unfit.error = .error
      { kind := .usage
        message := some "default for 'limit' is string, expected integer"
        parameter := some "limit" } := by
  obtain ⟨-, -, htells⟩ :=
    @toEndpoint_exact misfitted (fun k => ⟨.ofNat 128 k⟩) (by decide)
  obtain ⟨p, v, ⟨fitting, later, hps, -, hv, -⟩, -, htold⟩ :=
    htells ⟨_, .tail _ (.head _), fun hfits => absurd (hfits _ rfl) (by decide)⟩
  cases fitting with
  | nil =>
      cases hps
      cases hv
  | cons q fitting =>
      cases fitting with
      | nil =>
          cases hps
          cases hv
          exact htold
      | cons r fitting => simp [misfitted] at hps

end Description

end Intake
