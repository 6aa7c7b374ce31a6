import Intake.Description.Reader
import Intake.Proofs.Description.Acceptance

/-!
# Defaults of descriptions

A description that was read has no default of null, and its endpoint none of a wrong kind. Main
statements: every default of an endpoint passes the check of its kind, and a default of null may as
well be left out of a document.
-/

namespace Intake

/-- The items, each changed by a function. -/
def Json.Items.map (f : Json.Document → Json.Document) : Json.Items → Json.Items
  | .item place value rest => .item place (f value) (rest.map f)
  | .close place => .close place
  | .missing place flaw => .missing place flaw
  | .broken place flaw => .broken place flaw

/-- The members, the value of each changed by a function. -/
def Json.Members.map (f : Json.Document → Json.Document) : Json.Members → Json.Members
  | .member place key value rest => .member place key (f value) (rest.map f)
  | .close place => .close place
  | .unpaired place key flaw => .unpaired place key flaw
  | .broken place flaw => .broken place flaw

def Json.Document.isNull : Json.Document → Bool
  | .scalar _ .null _ => true
  | _ => false

/-- The members but for those that spell a default of null. -/
def Json.Members.withoutNull : Json.Members → Json.Members
  | .member place key value rest =>
      if key.name = "default" ∧ value.isNull = true then rest.withoutNull
      else .member place key value rest.withoutNull
  | .close place => .close place
  | .unpaired place key flaw => .unpaired place key flaw
  | .broken place flaw => .broken place flaw

namespace Description

open Json (Document Items Members)

/-! ## Records -/

section Records

variable {ρ : Type} [Record ρ] {draft : Record.Draft ρ} {r : ρ} {f : Document → Document}

theorem keyFlaw?_eq_none_iff {key : Json.Key} :
    keyFlaw? ρ draft key = none ↔
      key.name ∈ Record.fields ρ ∧ Record.has draft key.name = false := by
  unfold keyFlaw?
  split
  · rename_i h
    simp [h]
  · rename_i h
    simp [Classical.not_not.mp h]

/-- What drafts keep while they take fields holds of the last one. -/
theorem exists_finish_of_record {holds : Record.Draft ρ → Prop} (empty : holds Record.empty)
    (take : ∀ draft field value next, holds draft → Record.take draft field value = .ok next →
      holds next) {doc : Document} (h : record? ρ doc = .ok r) :
    ∃ last, holds last ∧ Record.finish last = .ok r := by
  have members : ∀ draft ms, holds draft → recordMembers? ρ draft ms = .ok r →
      ∃ last, holds last ∧ Record.finish last = .ok r := by
    intro draft ms hd h
    fun_induction recordMembers? ρ draft ms with
    | case1 draft place => exact ⟨draft, hd, mapError_eq_ok_iff.mp h⟩
    | case2 => cases h
    | case3 draft place key value rest _ ih =>
        obtain ⟨next, hnext, hrest⟩ := bind_eq_ok_iff.mp h
        exact ih next (take _ _ _ _ hd hnext) hrest
    | case4 => cases h
    | case5 => cases h
  have items : ∀ draft fields is, holds draft → recordItems? ρ draft fields is = .ok r →
      ∃ last, holds last ∧ Record.finish last = .ok r := by
    intro draft fields is hd h
    fun_induction recordItems? ρ draft fields is with
    | case1 => cases h
    | case2 draft => exact ⟨draft, hd, mapError_eq_ok_iff.mp h⟩
    | case3 draft => exact ⟨draft, hd, mapError_eq_ok_iff.mp h⟩
    | case4 draft field fields place value rest ih =>
        obtain ⟨next, hnext, hrest⟩ := bind_eq_ok_iff.mp h
        exact ih next (take _ _ _ _ hd hnext) hrest
    | case5 => cases h
    | case6 => cases h
  cases doc with
  | object start ms => exact members _ ms empty h
  | array start is => exact items _ _ is empty h
  | _ => cases h

theorem exists_record_of_mem {items : Items} {rs : List ρ} (h : listItems? ρ items = .ok rs)
    (hr : r ∈ rs) : ∃ doc, record? ρ doc = .ok r := by
  fun_induction listItems? ρ items generalizing rs with
  | case1 =>
      cases h
      cases hr
  | case2 place value rest ih =>
      obtain ⟨first, hfirst, h⟩ := bind_eq_ok_iff.mp h
      obtain ⟨others, hothers, h⟩ := bind_eq_ok_iff.mp h
      cases h
      rcases List.mem_cons.mp hr with rfl | hr
      · exact ⟨value, hfirst⟩
      · exact ih hothers hr
  | case3 => cases h
  | case4 => cases h

theorem recordMembers?_map
    (take : ∀ draft field value next, Record.take (ρ := ρ) draft field value = .ok next →
      Record.take draft field (f value) = .ok next)
    {members : Members} (h : recordMembers? ρ draft members = .ok r) :
    recordMembers? ρ draft (members.map f) = .ok r := by
  fun_induction recordMembers? ρ draft members with
  | case1 draft place => exact h
  | case2 => cases h
  | case3 draft place key value rest hkey ih =>
      obtain ⟨next, hnext, hrest⟩ := bind_eq_ok_iff.mp h
      simp only [Members.map, recordMembers?, hkey]
      exact bind_eq_ok_iff.mpr ⟨next, take _ _ _ _ hnext, ih next hrest⟩
  | case4 => cases h
  | case5 => cases h

theorem recordItems?_map
    (take : ∀ draft field value next, Record.take (ρ := ρ) draft field value = .ok next →
      Record.take draft field (f value) = .ok next)
    {fields : List String} {items : Items} (h : recordItems? ρ draft fields items = .ok r) :
    recordItems? ρ draft fields (items.map f) = .ok r := by
  fun_induction recordItems? ρ draft fields items with
  | case1 => cases h
  | case2 draft items hend =>
      cases items with
      | close place => exact h
      | _ => cases hend
  | case3 draft => exact h
  | case4 draft field fields place value rest ih =>
      obtain ⟨next, hnext, hrest⟩ := bind_eq_ok_iff.mp h
      exact bind_eq_ok_iff.mpr ⟨next, take _ _ _ _ hnext, ih next hrest⟩
  | case5 => cases h
  | case6 => cases h

theorem listItems?_map (record : ∀ doc r, record? ρ doc = .ok r → record? ρ (f doc) = .ok r)
    {items : Items} {rs : List ρ} (h : listItems? ρ items = .ok rs) :
    listItems? ρ (items.map f) = .ok rs := by
  fun_induction listItems? ρ items generalizing rs with
  | case1 => exact h
  | case2 place value rest ih =>
      obtain ⟨first, hfirst, h⟩ := bind_eq_ok_iff.mp h
      obtain ⟨others, hothers, h⟩ := bind_eq_ok_iff.mp h
      exact bind_eq_ok_iff.mpr ⟨first, record _ _ hfirst,
        bind_eq_ok_iff.mpr ⟨others, ih hothers, h⟩⟩
  | case3 => cases h
  | case4 => cases h

end Records

/-! ## Defaults that are read -/

theorem isNull_of_value? {doc : Document} {v : Json} (h : doc.value? = .ok v)
    (hnull : ∀ start stop, doc ≠ .scalar start .null stop) : v.isNull = false := by
  cases doc with
  | scalar start value stop =>
      cases h
      cases value with
      | null => exact absurd rfl (hnull start stop)
      | _ => rfl
  | string start value stop =>
      cases h
      rfl
  | array start items =>
      obtain ⟨_, _, rfl⟩ := map_eq_ok_iff.mp h
      rfl
  | object start members =>
      obtain ⟨_, _, rfl⟩ := map_eq_ok_iff.mp h
      rfl
  | brokenString start flaw => cases h
  | broken start flaw => cases h

theorem isNull_of_optional? {doc : Document} {v : Json} (h : optional? doc = .ok (some v)) :
    v.isNull = false := by
  unfold optional? at h
  split at h
  · cases h
  · rename_i hnull
    obtain ⟨w, hw, hv⟩ := map_eq_ok_iff.mp h
    cases hv
    exact isNull_of_value? (mapError_eq_ok_iff.mp hw) hnull

/-- A field of a parameter sets the default, or it does not touch it. -/
theorem take_parameter {draft next : ParameterDraft} {field : String} {value : Document}
    (h : Record.take (ρ := ParameterDescription) draft field value = .ok next) :
    (next.default = draft.default ∧ ∀ default, Record.take (ρ := ParameterDescription)
      { draft with default } field value = .ok { next with default }) ∨
    field ∉ ["name", "kind", "necessity", "mutability"] ∧ ∃ v, optional? value = .ok v ∧
      ∀ d : ParameterDraft, Record.take (ρ := ParameterDescription) d field value =
        .ok { d with default := some v } := by
  simp only [Record.take] at h ⊢
  split at h
  case h_5 hname hkind hnecessity hmutability =>
    obtain ⟨v, hv, rfl⟩ := map_eq_ok_iff.mp h
    refine .inr ⟨?_, v, hv, fun d => ?_⟩
    · simp only [List.mem_cons, List.not_mem_nil, or_false, not_or]
      exact ⟨hname, hkind, hnecessity, hmutability⟩
    · simp only [hv, Except.map]
  all_goals
    obtain ⟨v, hv, rfl⟩ := map_eq_ok_iff.mp h
    refine .inl ⟨rfl, fun default => ?_⟩
    simp only [hv, Except.map]

/-- What holds of all that is read as a value holds of the default of a parameter. -/
theorem default_of_record (holds : Json → Prop)
    (hread : ∀ doc v, optional? doc = .ok (some v) → holds v) {doc : Document}
    {p : ParameterDescription} (h : record? ParameterDescription doc = .ok p) {v : Json}
    (hv : p.default = some v) : holds v := by
  have htake : ∀ (draft : ParameterDraft) field value next,
      (∀ v, draft.default = some (some v) → holds v) →
      Record.take (ρ := ParameterDescription) draft field value = .ok next →
      ∀ v, next.default = some (some v) → holds v := by
    intro draft field value next hdraft h
    rcases take_parameter h with ⟨hsame, _⟩ | ⟨_, w, hw, htake⟩
    · rw [hsame]
      exact hdraft
    · obtain rfl := Except.ok.inj (h.symm.trans (htake draft))
      rintro v hv
      cases hv
      exact hread _ _ hw
  obtain ⟨last, hlast, hp⟩ := exists_finish_of_record (by intro v hv; cases hv) htake h
  simp only [Record.finish] at hp
  split at hp
  · cases hp
  · cases hp
    refine hlast v ?_
    cases hd : last.default with
    | none =>
        rw [hd] at hv
        cases hv
    | some w =>
        rw [hd] at hv
        exact congrArg some hv

/-- What some document spells. -/
def Spelled (p : ParameterDescription) : Prop :=
  ∃ doc, record? ParameterDescription doc = .ok p

theorem spelled_of_ofDocument {doc : Document} {d : Description} (h : ofDocument doc = .ok d)
    {p : ParameterDescription} (hp : p ∈ d.parameters) : Spelled p := by
  have htake : ∀ (draft : EndpointDraft) field value next,
      (∀ ps, draft.parameters = some ps → ∀ p ∈ ps, Spelled p) →
      Record.take (ρ := Description) draft field value = .ok next →
      ∀ ps, next.parameters = some ps → ∀ p ∈ ps, Spelled p := by
    intro draft field value next hdraft h
    simp only [Record.take] at h
    split at h
    case h_3 =>
      obtain ⟨ps, hps, rfl⟩ := map_eq_ok_iff.mp h
      rintro ps' hps' p hp
      cases hps'
      cases value with
      | array start items => exact exists_record_of_mem hps hp
      | _ => cases hps
    all_goals
      obtain ⟨v, hv, rfl⟩ := map_eq_ok_iff.mp h
      exact hdraft
  obtain ⟨last, hlast, hd⟩ := exists_finish_of_record (by intro ps hps; cases hps) htake h
  simp only [Record.finish] at hd
  split at hd
  · cases hd
  · cases hd
    cases hps : last.parameters with
    | none =>
        simp only [hps, Option.getD_none, List.not_mem_nil] at hp
    | some ps =>
        simp only [hps, Option.getD_some] at hp
        exact hlast ps hps p hp

theorem default_of_ofDocument (holds : Json → Prop)
    (hread : ∀ doc v, optional? doc = .ok (some v) → holds v) {doc : Document} {d : Description}
    (h : ofDocument doc = .ok d) {p : ParameterDescription} (hp : p ∈ d.parameters) {v : Json}
    (hv : p.default = some v) : holds v := by
  obtain ⟨_, hrecord⟩ := spelled_of_ofDocument h hp
  exact default_of_record holds hread hrecord hv

/-- No description that was read has a default of null. -/
theorem isNull_of_ofDocument {doc : Document} {d : Description} (h : ofDocument doc = .ok d)
    {p : ParameterDescription} (hp : p ∈ d.parameters) {v : Json} (hv : p.default = some v) :
    v.isNull = false :=
  default_of_ofDocument (·.isNull = false) (fun _ _ => isNull_of_optional?) h hp hv

/-! ## Leaving out defaults of null -/

theorem isNull_iff {value : Document} :
    value.isNull = true ↔ ∃ start stop, value = .scalar start .null stop := by
  constructor
  · intro h
    cases value with
    | scalar start v stop =>
        cases v with
        | null => exact ⟨start, stop, rfl⟩
        | _ => cases h
    | _ => cases h
  · rintro ⟨start, stop, rfl⟩
    rfl

theorem isNull_of_none {value : Document} (h : optional? value = .ok none) :
    value.isNull = true := by
  unfold optional? at h
  split at h
  · rfl
  · obtain ⟨_, _, hnone⟩ := map_eq_ok_iff.mp h
    cases hnone

/-- A draft that has forgotten a default of null. -/
def ParameterDraft.withoutNull (draft : ParameterDraft) : ParameterDraft :=
  { draft with default := draft.default.bind fun v => v.map some }

theorem has_withoutNull {draft : ParameterDraft} {field : String}
    (h : Record.has (ρ := ParameterDescription) draft field = false) :
    Record.has (ρ := ParameterDescription) draft.withoutNull field = false := by
  simp only [Record.has] at h ⊢
  split at h
  case h_5 =>
    simp only [ParameterDraft.withoutNull, Option.isSome_eq_false_iff, Option.isNone_iff_eq_none]
      at h ⊢
    rw [h]
    rfl
  all_goals exact h

theorem finish_withoutNull (draft : ParameterDraft) :
    Record.finish (ρ := ParameterDescription) draft.withoutNull = Record.finish draft := by
  obtain ⟨name, kind, necessity, mutability, default⟩ := draft
  cases default with
  | none => rfl
  | some v => cases v <;> rfl

/-- A default of null may be left out of a parameter. -/
theorem recordMembers?_withoutNull {draft : ParameterDraft} {members : Members}
    {p : ParameterDescription} (h : recordMembers? ParameterDescription draft members = .ok p) :
    recordMembers? ParameterDescription draft.withoutNull members.withoutNull = .ok p := by
  fun_induction recordMembers? ParameterDescription draft members with
  | case1 draft place =>
      rw [Members.withoutNull, recordMembers?, finish_withoutNull]
      exact h
  | case2 => cases h
  | case3 draft place key value rest hkey ih =>
      obtain ⟨next, hnext, hrest⟩ := bind_eq_ok_iff.mp h
      obtain ⟨hfield, hfree⟩ := keyFlaw?_eq_none_iff.mp hkey
      have hlast := ih next hrest
      rw [Members.withoutNull]
      split
      · rename_i hnull
        obtain ⟨start, stop, rfl⟩ := isNull_iff.mp hnull.2
        rw [hnull.1] at hnext hfree
        have hnone : draft.default = none := by simpa [Record.has] using hfree
        have hsame : next.withoutNull = draft.withoutNull := by
          obtain rfl := Except.ok.inj hnext
          rw [ParameterDraft.withoutNull, ParameterDraft.withoutNull, hnone]
          rfl
        rw [← hsame]
        exact hlast
      · rename_i hvalue
        rw [recordMembers?, keyFlaw?_eq_none_iff.mpr ⟨hfield, has_withoutNull hfree⟩]
        refine bind_eq_ok_iff.mpr ⟨next.withoutNull, ?_, hlast⟩
        rcases take_parameter hnext with ⟨hsame, htake⟩ | ⟨hdefault, v, hv, htake⟩
        · unfold ParameterDraft.withoutNull
          rw [hsame]
          exact htake _
        · obtain rfl := Except.ok.inj (hnext.symm.trans (htake draft))
          cases v with
          | some w => exact htake _
          | none =>
              -- the field can only be the default, whose value would be null
              have hnames : Record.fields ParameterDescription =
                  ["name", "kind", "necessity", "mutability"] ++ ["default"] := rfl
              rw [hnames, List.mem_append] at hfield
              have hname := List.mem_singleton.mp (hfield.resolve_left hdefault)
              exact absurd ⟨hname, isNull_of_none hv⟩ hvalue
  | case4 => cases h
  | case5 => cases h

/-- The document of a parameter without a default of null. -/
def bareParameter : Document → Document
  | .object start members => .object start members.withoutNull
  | doc => doc

def bareList : Document → Document
  | .array start items => .array start (items.map bareParameter)
  | doc => doc

/-- The document of an endpoint whose parameters are without defaults of null. -/
def bare : Document → Document
  | .object start members => .object start (members.map bareList)
  | .array start items => .array start (items.map bareList)
  | doc => doc

theorem record?_bareParameter {doc : Document} {p : ParameterDescription}
    (h : record? ParameterDescription doc = .ok p) :
    record? ParameterDescription (bareParameter doc) = .ok p := by
  cases doc with
  | object start members => exact recordMembers?_withoutNull h
  | _ => exact h

theorem take_bareList (draft : EndpointDraft) (field : String) (value : Document)
    (next : EndpointDraft) (h : Record.take (ρ := Description) draft field value = .ok next) :
    Record.take (ρ := Description) draft field (bareList value) = .ok next := by
  cases value with
  | array start items =>
      simp only [Record.take] at h ⊢
      split at h
      case h_1 => cases h
      case h_2 => cases h
      case h_3 =>
        obtain ⟨ps, hps, rfl⟩ := map_eq_ok_iff.mp h
        exact map_eq_ok_iff.mpr
          ⟨ps, listItems?_map (fun _ _ => record?_bareParameter) hps, rfl⟩
  | _ => exact h

/-- A default of null may be left out of the description of an endpoint. -/
theorem ofDocument_bare {doc : Document} {d : Description} (h : ofDocument doc = .ok d) :
    ofDocument (bare doc) = .ok d := by
  cases doc with
  | object start members => exact recordMembers?_map take_bareList h
  | array start items => exact recordItems?_map take_bareList h
  | _ => exact h

theorem ofDocument_of_parse {text : String} {d : Description} (h : parse text = .ok d) :
    ofDocument (Document.read text).1 = .ok d := by
  unfold parse at h
  cases hread : Document.read text with
  | mk doc trailing =>
      rw [hread] at h
      dsimp only at h
      split at h
      · cases h
      · cases h
      · rename_i hdoc
        cases h
        exact hdoc

/-! ## Defaults of endpoints -/

variable {ids : Nat → ParameterId} {d : Description} {e : Endpoint}

/-- A default and the description that it is from. -/
theorem exists_described (he : d.toEndpoint ids = .ok e) {p : Parameter} (hp : p ∈ e.parameters)
    {given : Default} (hgiven : p.default = some given) :
    ∃ described ∈ d.parameters, ∃ v, described.default = some v ∧ given = .fixed v ∧
      p.kind.accepts v = true := by
  have hmem := List.mem_map_of_mem (f := Parameter.anonymous) hp
  rw [(toEndpoint_ok he).2.2] at hmem
  obtain ⟨described, hdescribed, hsame⟩ := List.mem_map.mp hmem
  have hdefault : described.default.map .fixed = p.default := congrArg Parameter.default hsame
  have hkind : described.kind = p.kind := congrArg Parameter.kind hsame
  rw [hgiven] at hdefault
  obtain ⟨v, hv, rfl⟩ := Option.map_eq_some_iff.mp hdefault
  refine ⟨described, hdescribed, v, hv, rfl, ?_⟩
  rw [← hkind]
  exact fits_of_toEndpoint he described hdescribed v hv

theorem accepts_default (he : d.toEndpoint ids = .ok e) {p : Parameter} (hp : p ∈ e.parameters)
    {v : Json} (hv : p.default = some (.fixed v)) : p.kind.accepts v = true := by
  obtain ⟨_, _, w, _, hw, haccepts⟩ := exists_described he hp hv
  cases hw
  exact haccepts

/-- The default of a parameter that was read stands in for values of its kind, null excepted. -/
theorem default_of_parameter {doc : Document} (hd : ofDocument doc = .ok d)
    (he : d.toEndpoint ids = .ok e) {p : Parameter} (hp : p ∈ e.parameters) {given : Default}
    (hgiven : p.default = some given) :
    ∃ v, given = .fixed v ∧ v.isNull = false ∧ p.kind.accepts v = true := by
  obtain ⟨described, hdescribed, v, hv, rfl, haccepts⟩ := exists_described he hp hgiven
  exact ⟨v, rfl, isNull_of_ofDocument hd hdescribed hv, haccepts⟩

end Description

end Intake
