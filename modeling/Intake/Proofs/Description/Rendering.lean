import Intake.Proofs.Description.Spelling

/-!
# Descriptions of endpoints that are shown

An endpoint is shown with the ids of its parameters, which no description has. Main statement: but
for them, what is shown of an endpoint is read as the description that it was made from.
-/

namespace Intake

/-! ## Leaving out ids -/

namespace Json

/-- An object without one of its fields. -/
def without (key : String) : Json → Json
  | .object members => .object (members.filter (·.1 ≠ key))
  | v => v

/-- An array with all items changed. -/
def mapItems (f : Json → Json) : Json → Json
  | .array items => .array (items.map f)
  | v => v

/-- An object with the value of a field changed. -/
def mapField (key : String) (f : Json → Json) : Json → Json
  | .object members => .object (members.map fun m => if m.1 = key then (m.1, f m.2) else m)
  | v => v

theorem without_ofPresent (members : List (String × Option Json))
    (h : (members.map Prod.fst).Nodup) (key : String) :
    ∃ ms, (ofPresent members).without key = .object ms ∧
      ms.Perm ((members.filterMap fun m => m.2.map fun v => (m.1, v)).filter (·.1 ≠ key)) :=
  ⟨_, rfl, (Dictionary.ofList_perm
    (h.sublist (Dictionary.map_fst_filterMap_sublist members))).filter _⟩

theorem mapField_ofMembers (members : List (String × Json)) (h : (members.map Prod.fst).Nodup)
    (key : String) (f : Json → Json) :
    ∃ ms, (ofMembers members).mapField key f = .object ms ∧
      ms.Perm (members.map fun m => if m.1 = key then (m.1, f m.2) else m) :=
  ⟨_, rfl, (Dictionary.ofList_perm h).map _⟩

/-- The document of an endpoint without the ids of its parameters. -/
def withoutIds (j : Json) : Json := j.mapField "parameters" (mapItems (without "id"))

end Json

namespace Description

open Json (Document Items Members)

/-- How a parameter is shown. -/
def shown (p : Parameter) : Json :=
  .ofPresent [("id", some (.string p.id.text)), ("name", some (.string p.name)),
    ("kind", some (.string (Worded.word p.kind))),
    ("necessity", some (.string (Worded.word p.necessity))),
    ("mutability", some (.string (Worded.word p.mutability))),
    ("default", p.default.map (·.supply 0))]

theorem toJson_eq (e : Endpoint) :
    e.toJson = .ofMembers [("name", .string e.name), ("pattern", .string (Worded.word e.pattern)),
      ("parameters", .array (e.parameters.map shown))] := rfl

/-- But for its id, a parameter is shown as its description is spelled, in some order. -/
theorem without_shown {p : Parameter} {d : ParameterDescription} (h : p.anonymous = anonymous d) :
    ∃ ms ms', (shown p).without "id" = .object ms ∧ d.toJson = .object ms' ∧ ms'.Perm ms := by
  obtain ⟨id, name, kind, necessity, mutability, default⟩ := p
  obtain ⟨name, kind, necessity, mutability, value⟩ := d
  cases h
  obtain ⟨ms, hms, hperm⟩ := Json.without_ofPresent [("id", some (.string id.text)),
    ("name", some (.string name)), ("kind", some (.string (Worded.word kind))),
    ("necessity", some (.string (Worded.word necessity))),
    ("mutability", some (.string (Worded.word mutability))), ("default", value)] (by simp) "id"
  cases value with
  | none => exact ⟨ms, _, hms, rfl, hperm.symm⟩
  | some v => exact ⟨ms, _, hms, rfl, hperm.symm⟩

theorem record?_without_shown {p : Parameter} {d : ParameterDescription}
    (h : p.anonymous = anonymous d) (hd : Spellable d) :
    record? ParameterDescription (Document.ofJson ((shown p).without "id")) = .ok d := by
  obtain ⟨ms, ms', hshown, hspelled, hperm⟩ := without_shown h
  have hread := record?_toJson hd
  rw [hspelled] at hread
  rw [hshown]
  exact recordMembers?_perm hperm hread

/-- But for the ids, an endpoint is shown as an object of its name, the word of its pattern and its
parameters, in some order. -/
theorem withoutIds_toJson (e : Endpoint) :
    ∃ ms, e.toJson.withoutIds = .object ms ∧
      List.Perm [("name", .string e.name), ("pattern", .string (Worded.word e.pattern)),
        ("parameters", .array (e.parameters.map fun p => (shown p).without "id"))] ms := by
  obtain ⟨ms, hms, hperm⟩ := Json.mapField_ofMembers [("name", .string e.name),
    ("pattern", .string (Worded.word e.pattern)), ("parameters", .array (e.parameters.map shown))]
    (by simp) "parameters" (Json.mapItems (Json.without "id"))
  rw [toJson_eq]
  exact ⟨ms, hms, by simpa [Json.mapItems, Function.comp_def] using hperm.symm⟩

/-! ## Reading what is shown -/

variable {ids : Nat → ParameterId} {d : Description} {e : Endpoint}

theorem forall₂_of_toEndpoint (he : d.toEndpoint ids = .ok e) :
    List.Forall₂ (fun described p => anonymous described = p.anonymous) d.parameters
      e.parameters := by
  have hsame := (toEndpoint_ok he).2.2.symm
  rw [← List.forall₂_eq_eq_eq, List.forall₂_map_left_iff, List.forall₂_map_right_iff] at hsame
  exact hsame

/-- What is shown of the parameters, but for their ids, is read as their descriptions. -/
theorem forall₂_shown (hd : ∀ p ∈ d.parameters, Spellable p) (he : d.toEndpoint ids = .ok e) :
    List.Forall₂
      (fun v p => record? ParameterDescription (Document.ofJson v) = .ok p)
      (e.parameters.map fun p => (shown p).without "id") d.parameters := by
  rw [List.forall₂_map_left_iff]
  have hall := (List.forall₂_and_left _ _).mpr ⟨hd, forall₂_of_toEndpoint he⟩
  refine List.Forall₂.flip (hall.imp ?_)
  rintro described p ⟨hspellable, hsame⟩
  exact record?_without_shown hsame.symm hspellable

/-- But for the ids, what is shown of an endpoint is read as the description from which it was
made. -/
theorem ofJson_withoutIds {text : String} (hd : parse text = .ok d)
    (he : d.toEndpoint ids = .ok e) : ofJson e.toJson.withoutIds = .ok d := by
  have hspellable : ∀ p ∈ d.parameters, Spellable p :=
    fun _ hp => spellable_of_ofDocument (ofDocument_of_parse hd) hp
  obtain ⟨hname, hpattern, -⟩ := toEndpoint_ok he
  obtain ⟨ms, hms, hperm⟩ := withoutIds_toJson e
  rw [hname, hpattern] at hperm
  rw [hms]
  exact recordMembers?_perm hperm (ofJson_object (forall₂_shown hspellable he))

theorem listed_shown :
    ∃ e, parse listedText = .ok listed ∧ listed.toEndpoint (fun k => ⟨.ofNat 128 k⟩) = .ok e ∧
      ofJson e.toJson.withoutIds = .ok listed :=
  ⟨_, parse_listedText, rfl,
    @ofJson_withoutIds (fun k => ⟨.ofNat 128 k⟩) _ _ _ parse_listedText rfl⟩

end Description

end Intake
