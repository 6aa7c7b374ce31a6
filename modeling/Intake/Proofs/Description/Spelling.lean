import Intake.Proofs.Description.Defaults
import Intake.Proofs.Json.Spelling
import Mathlib

/-!
# Descriptions and the documents that spell them

A description spells its fields in a fixed order, but fields are read in any order. Main statement:
what a description spells is read as this description, and whatever was read can be so spelled.
-/

namespace Intake

open Json (Document Items Members)

/-! ## Words -/

/-- Small types of which each value is known by its word. -/
class LawfulWorded (α : Type) [Worded α] : Prop where
  ofWord?_word : ∀ a : α, Worded.ofWord? (Worded.word a) = some a

instance : LawfulWorded Kind where
  ofWord?_word a := by cases a <;> rfl

instance : LawfulWorded Necessity where
  ofWord?_word a := by cases a <;> rfl

instance : LawfulWorded Mutability where
  ofWord?_word a := by cases a <;> rfl

instance : LawfulWorded Pattern where
  ofWord?_word a := by cases a <;> rfl

namespace Description

@[simp] theorem word?_word {α : Type} [Worded α] [LawfulWorded α] (a : α) :
    word? (Document.ofJson (.string (Worded.word a))) = .ok a := by
  simp [Document.ofJson, word?, ofWord?, LawfulWorded.ofWord?_word]

@[simp] theorem text?_string (s : String) : text? (Document.ofJson (.string s)) = .ok s := by
  simp [Document.ofJson, text?]

/-! ## Records in any order -/

/-- Records that take in each field on its own: only this field is held then, and two fields may be
taken in either order. -/
class Separate (ρ : Type) [Record ρ] : Prop where
  has_take : ∀ {draft next : Record.Draft ρ} {field other : String} {value : Document},
    field ∈ Record.fields ρ → other ∈ Record.fields ρ → Record.take draft field value = .ok next →
      Record.has next other = (Record.has draft other || other == field)
  take_comm : ∀ {draft next last : Record.Draft ρ} {field other : String} {value later : Document},
    field ∈ Record.fields ρ → other ∈ Record.fields ρ → field ≠ other →
      Record.take draft field value = .ok next → Record.take next other later = .ok last →
        ∃ mid, Record.take draft other later = .ok mid ∧ Record.take mid field value = .ok last

instance : Separate ParameterDescription where
  has_take := by
    intro draft next field other value hfield hother h
    simp only [Record.fields, List.mem_cons, List.not_mem_nil, or_false] at hfield hother
    rcases hfield with rfl | rfl | rfl | rfl | rfl <;>
      obtain ⟨v, -, rfl⟩ := map_eq_ok_iff.mp h <;>
      rcases hother with rfl | rfl | rfl | rfl | rfl <;> simp [Record.has]
  take_comm := by
    intro draft next last field other value later hfield hother hne h h'
    simp only [Record.fields, List.mem_cons, List.not_mem_nil, or_false] at hfield hother
    rcases hfield with rfl | rfl | rfl | rfl | rfl <;>
      rcases hother with rfl | rfl | rfl | rfl | rfl <;> simp at hne
    all_goals
      obtain ⟨v, hv, rfl⟩ := map_eq_ok_iff.mp h
      obtain ⟨w, hw, rfl⟩ := map_eq_ok_iff.mp h'
      exact ⟨_, map_eq_ok_iff.mpr ⟨w, hw, rfl⟩, map_eq_ok_iff.mpr ⟨v, hv, rfl⟩⟩

instance : Separate Description where
  has_take := by
    intro draft next field other value hfield hother h
    simp only [Record.fields, List.mem_cons, List.not_mem_nil, or_false] at hfield hother
    rcases hfield with rfl | rfl | rfl <;> obtain ⟨v, -, rfl⟩ := map_eq_ok_iff.mp h <;>
      rcases hother with rfl | rfl | rfl <;> simp [Record.has]
  take_comm := by
    intro draft next last field other value later hfield hother hne h h'
    simp only [Record.fields, List.mem_cons, List.not_mem_nil, or_false] at hfield hother
    rcases hfield with rfl | rfl | rfl <;> rcases hother with rfl | rfl | rfl <;> simp at hne
    all_goals
      obtain ⟨v, hv, rfl⟩ := map_eq_ok_iff.mp h
      obtain ⟨w, hw, rfl⟩ := map_eq_ok_iff.mp h'
      exact ⟨_, map_eq_ok_iff.mpr ⟨w, hw, rfl⟩, map_eq_ok_iff.mpr ⟨v, hv, rfl⟩⟩

section Records

variable {ρ : Type} [Record ρ] {draft : Record.Draft ρ} {r : ρ}

/-- What is read of members, the first of which is taken in and then the others. -/
theorem recordMembers?_cons_iff {key : String} {v : Json} {rest : List (String × Json)} :
    recordMembers? ρ draft (Members.ofList ((key, v) :: rest)) = .ok r ↔
      key ∈ Record.fields ρ ∧ Record.has draft key = false ∧
        ∃ next, Record.take draft key (Document.ofJson v) = .ok next ∧
          recordMembers? ρ next (Members.ofList rest) = .ok r := by
  rw [Members.ofList, recordMembers?, ← and_assoc]
  split
  · rename_i flaw hflaw
    constructor
    · rintro ⟨⟩
    · rintro ⟨hkey, -⟩
      rw [keyFlaw?_eq_none_iff.mpr hkey] at hflaw
      cases hflaw
  · rename_i hkey
    rw [bind_eq_ok_iff]
    exact ⟨fun h => ⟨keyFlaw?_eq_none_iff.mp hkey, h⟩, And.right⟩

/-- The fields of a record may stand in any order. -/
theorem recordMembers?_perm [Separate ρ] {ms ms' : List (String × Json)} (hp : ms.Perm ms')
    (h : recordMembers? ρ draft (Members.ofList ms) = .ok r) :
    recordMembers? ρ draft (Members.ofList ms') = .ok r := by
  induction hp generalizing draft with
  | nil => exact h
  | cons m _ ih =>
      obtain ⟨hfield, hfree, next, htake, hrest⟩ := recordMembers?_cons_iff.mp h
      exact recordMembers?_cons_iff.mpr ⟨hfield, hfree, next, htake, ih hrest⟩
  | swap m n rest =>
      obtain ⟨hn, hfree, next, htake, h⟩ := recordMembers?_cons_iff.mp h
      obtain ⟨hm, hfree', last, htake', hrest⟩ := recordMembers?_cons_iff.mp h
      -- the draft held neither field, and they are two, so each may be taken in first
      rw [Separate.has_take hn hm htake, Bool.or_eq_false_iff, beq_eq_false_iff_ne] at hfree'
      obtain ⟨mid, hmid, hlast⟩ := Separate.take_comm hn hm hfree'.2.symm htake htake'
      have hfree'' : Record.has mid n.1 = false := by
        rw [Separate.has_take hm hn hmid, hfree, Bool.false_or, beq_eq_false_iff_ne]
        exact hfree'.2.symm
      exact recordMembers?_cons_iff.mpr ⟨hm, hfree'.1, mid, hmid,
        recordMembers?_cons_iff.mpr ⟨hn, hfree'', last, hlast, hrest⟩⟩
  | trans _ _ ih ih' => exact ih' (ih h)

theorem listItems?_ofList {vs : List Json} {rs : List ρ}
    (h : List.Forall₂ (fun v r => record? ρ (Document.ofJson v) = .ok r) vs rs) :
    listItems? ρ (Items.ofList vs) = .ok rs := by
  induction h with
  | nil => rfl
  | cons hfirst _ ih => exact bind_eq_ok_iff.mpr ⟨_, hfirst, bind_eq_ok_iff.mpr ⟨_, ih, rfl⟩⟩

end Records

/-! ## What is spelled is read -/

/-- A default that a document can spell: not null, and in the order in which values are held. -/
def Spellable (p : ParameterDescription) : Prop :=
  ∀ v, p.default = some v → v ≠ .null ∧ v.Ordered

theorem optional?_ofJson {v : Json} (hv : v ≠ .null) (h : v.Ordered) :
    optional? (Document.ofJson v) = .ok (some v) := by
  have hvalue : ((Document.ofJson v).value?.mapError Flaw.ofText).map some = .ok (some v) := by
    rw [h.value?_ofJson]
    rfl
  cases h with
  | null => exact absurd rfl hv
  | _ => exact hvalue

theorem record?_toJson {p : ParameterDescription} (hp : Spellable p) :
    record? ParameterDescription (Document.ofJson p.toJson) = .ok p := by
  obtain ⟨name, kind, necessity, mutability, default⟩ := p
  rw [ParameterDescription.toJson, Document.ofJson, record?]
  refine recordMembers?_cons_iff.mpr ⟨by decide, rfl, _,
    map_eq_ok_iff.mpr ⟨name, text?_string name, rfl⟩, ?_⟩
  refine recordMembers?_cons_iff.mpr ⟨by decide, rfl, _,
    map_eq_ok_iff.mpr ⟨kind, word?_word kind, rfl⟩, ?_⟩
  refine recordMembers?_cons_iff.mpr ⟨by decide, rfl, _,
    map_eq_ok_iff.mpr ⟨necessity, word?_word necessity, rfl⟩, ?_⟩
  refine recordMembers?_cons_iff.mpr ⟨by decide, rfl, _,
    map_eq_ok_iff.mpr ⟨mutability, word?_word mutability, rfl⟩, ?_⟩
  cases default with
  | none => rfl
  | some v =>
      obtain ⟨hv, hordered⟩ := hp v rfl
      exact recordMembers?_cons_iff.mpr ⟨by decide, rfl, _,
        map_eq_ok_iff.mpr ⟨some v, optional?_ofJson hv hordered, rfl⟩, rfl⟩

/-- An endpoint is read from its name, the word of its pattern and what spells its parameters. -/
theorem ofJson_object {d : Description} {items : List Json}
    (h : List.Forall₂ (fun v p => record? ParameterDescription (Document.ofJson v) = .ok p) items
      d.parameters) :
    ofJson (.object [("name", .string d.name), ("pattern", .string (Worded.word d.pattern)),
      ("parameters", .array items)]) = .ok d := by
  rw [ofJson, ofDocument, Document.ofJson, record?]
  refine recordMembers?_cons_iff.mpr ⟨by decide, rfl, _,
    map_eq_ok_iff.mpr ⟨d.name, text?_string d.name, rfl⟩, ?_⟩
  refine recordMembers?_cons_iff.mpr ⟨by decide, rfl, _,
    map_eq_ok_iff.mpr ⟨d.pattern, word?_word d.pattern, rfl⟩, ?_⟩
  exact recordMembers?_cons_iff.mpr ⟨by decide, rfl, _,
    map_eq_ok_iff.mpr ⟨d.parameters, listItems?_ofList h, rfl⟩, rfl⟩

theorem ofJson_toJson {d : Description} (h : ∀ p ∈ d.parameters, Spellable p) :
    ofJson d.toJson = .ok d := by
  refine ofJson_object ?_
  rw [List.forall₂_map_left_iff, List.forall₂_same]
  exact fun p hp => record?_toJson (h p hp)

/-! ## What is read can be spelled -/

theorem spellable_of_optional? (doc : Document) (v : Json) (h : optional? doc = .ok (some v)) :
    v ≠ .null ∧ v.Ordered := by
  constructor
  · rintro rfl
    cases isNull_of_optional? h
  · unfold optional? at h
    split at h
    · cases h
    · obtain ⟨w, hw, hv⟩ := map_eq_ok_iff.mp h
      cases hv
      exact doc.ordered (mapError_eq_ok_iff.mp hw)

theorem spellable_of_ofDocument {doc : Document} {d : Description} (h : ofDocument doc = .ok d)
    {p : ParameterDescription} (hp : p ∈ d.parameters) : Spellable p :=
  fun _ hv => default_of_ofDocument _ spellable_of_optional? h hp hv

/-- A description without a default of null is read from the document that it spells. From no
document a default of null is read, so what was read is read again from what it spells. -/
theorem toJson_roundTrip :
    (∀ d : Description,
      (∀ p ∈ d.parameters, ∀ v, p.default = some v → v.Ordered) →
      (∀ p ∈ d.parameters, p.default ≠ some .null) → ofJson d.toJson = .ok d) ∧
    ∀ (doc : Document) (d : Description), ofDocument doc = .ok d →
      (∀ p ∈ d.parameters, p.default ≠ some .null) ∧
      (∀ p ∈ d.parameters, ∀ v, p.default = some v → v.Ordered) ∧ ofJson d.toJson = .ok d := by
  refine ⟨fun d hordered hnull => ?_, fun doc d h => ⟨?_, ?_, ?_⟩⟩
  · refine ofJson_toJson fun p hp v hv => ⟨?_, hordered p hp v hv⟩
    rintro rfl
    exact hnull p hp hv
  · exact fun p hp hv => (spellable_of_ofDocument h hp _ hv).1 rfl
  · exact fun p hp v hv => (spellable_of_ofDocument h hp v hv).2
  · exact ofJson_toJson fun p hp => spellable_of_ofDocument h hp

/-- An endpoint as a list, of a parameter with named fields and of one as a list. -/
def listedText : String :=
  "[\"find\",\"client-stream\",[\x7b\"default\":\x7b\"b\":1,\"a\":null\x7d," ++
    "\"name\":\"by\"\x7d,[\"tag\"]]]"

def listed : Description :=
  ⟨"find", .clientStream,
    [{ name := "by", default := some (.object [("a", .null), ("b", .integer 1)]) },
     { name := "tag" }]⟩

theorem parse_listedText : parse listedText = .ok listed := by
  cbv

theorem listed_roundTrip :
    ofDocument (Document.read listedText).1 = .ok listed ∧
      (∀ p ∈ listed.parameters, p.default ≠ some .null) ∧ ofJson listed.toJson = .ok listed := by
  obtain ⟨hspelled, hread⟩ := toJson_roundTrip
  have hlisted := ofDocument_of_parse parse_listedText
  obtain ⟨hnull, hordered, -⟩ := hread _ _ hlisted
  exact ⟨hlisted, hnull, hspelled listed hordered hnull⟩

end Description

end Intake
