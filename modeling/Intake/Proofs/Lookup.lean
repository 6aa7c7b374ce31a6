import Intake.Json.Basic

/-!
# Looking up by unique keys

Where keys are unique, what is found under a key does not depend on the order of the entries. Main
statements: what is found in a dictionary of entries of which some have no value, that a dictionary
is determined by what is found in it, and what a document has at the end of a path of keys.
-/

namespace Intake

theorem find?_of_nodup {α β : Type} [DecidableEq β] (f : α → β) {l : List α}
    (h : (l.map f).Nodup) {a : α} (ha : a ∈ l) : l.find? (fun b => f b = f a) = some a := by
  induction l with
  | nil => cases ha
  | cons b rest ih =>
      rw [List.map_cons, List.nodup_cons] at h
      rcases List.mem_cons.mp ha with rfl | ha
      · simp
      · have hne : f b ≠ f a := fun hb => h.1 (hb ▸ List.mem_map_of_mem ha)
        simpa [List.find?_cons, hne] using ih h.2 ha

theorem find?_eq_some_iff_of_nodup {α β : Type} [DecidableEq β] (f : α → β) {l : List α}
    (h : (l.map f).Nodup) {a : α} {b : β} :
    l.find? (fun c => f c = b) = some a ↔ a ∈ l ∧ f a = b := by
  constructor
  · intro hf
    exact ⟨List.mem_of_find?_eq_some hf, by simpa using List.find?_some hf⟩
  · rintro ⟨ha, rfl⟩
    exact find?_of_nodup f h ha

theorem findSome?_of_nodup {α β γ : Type} [DecidableEq β] (f : α → β) {l : List α}
    (h : (l.map f).Nodup) {b : β} {g : α → Option γ} (hg : ∀ a, f a ≠ b → g a = none) :
    l.findSome? g = (l.find? (fun a => f a = b)).bind g := by
  induction l with
  | nil => rfl
  | cons a rest ih =>
      rw [List.map_cons, List.nodup_cons] at h
      by_cases hb : f a = b
      · have hrest : rest.findSome? g = none := by
          rw [List.findSome?_eq_none_iff]
          intro c hc
          exact hg c fun hcb => h.1 (hb ▸ hcb ▸ List.mem_map_of_mem hc)
        cases hga : g a with
        | some c => simp [hb, hga]
        | none => simp [hb, hga, hrest]
      · simpa [hb, hg a hb] using ih h.2

theorem find?_eq_of_perm {α β : Type} [DecidableEq β] (f : α → β) {l l' : List α}
    (hp : l.Perm l') (h : (l.map f).Nodup) (b : β) :
    l.find? (fun a => f a = b) = l'.find? (fun a => f a = b) := by
  have h' : (l'.map f).Nodup := (hp.map f).nodup_iff.mp h
  ext a
  rw [find?_eq_some_iff_of_nodup f h, find?_eq_some_iff_of_nodup f h', hp.mem_iff]

namespace Dictionary

variable {α : Type} {entries : List (String × α)} {d d' : Dictionary α} {key : String} {value : α}

/-! ## Dictionaries of entries -/

theorem get?_ofList_eq_some_iff (h : (entries.map Prod.fst).Nodup) :
    (ofList entries).get? key = some value ↔ (key, value) ∈ entries := by
  rw [get?_ofList h]
  constructor
  · intro hv
    obtain ⟨⟨k, v⟩, hf, rfl⟩ := Option.map_eq_some_iff.mp hv
    obtain rfl : k = key := by simpa using List.find?_some hf
    exact List.mem_of_find?_eq_some hf
  · intro hm
    rw [find?_of_nodup Prod.fst h hm]
    rfl

theorem map_fst_filterMap_sublist (entries : List (String × Option α)) :
    ((entries.filterMap fun e => e.2.map fun v => (e.1, v)).map Prod.fst).Sublist
      (entries.map Prod.fst) := by
  induction entries with
  | nil => exact .refl _
  | cons e rest ih =>
      obtain ⟨k, v?⟩ := e
      cases v? with
      | none => exact ih.cons k
      | some v => exact ih.cons_cons k

/-- Of entries of which some have no value, each that has one is found. -/
theorem get?_ofList_filterMap {entries : List (String × Option α)}
    (h : (entries.map Prod.fst).Nodup) (key : String) :
    (ofList (entries.filterMap fun e => e.2.map fun v => (e.1, v))).get? key =
      (entries.find? (·.1 = key)).bind Prod.snd := by
  ext v
  rw [get?_ofList_eq_some_iff (h.sublist (map_fst_filterMap_sublist entries)),
    List.mem_filterMap, Option.bind_eq_some_iff]
  constructor
  · rintro ⟨⟨k, v?⟩, hmem, hv⟩
    obtain ⟨w, rfl, hw⟩ := Option.map_eq_some_iff.mp hv
    cases hw
    exact ⟨_, find?_of_nodup Prod.fst h hmem, rfl⟩
  · rintro ⟨⟨k, v?⟩, hfound, rfl⟩
    obtain ⟨hmem, rfl⟩ := (find?_eq_some_iff_of_nodup Prod.fst h).mp hfound
    exact ⟨_, hmem, rfl⟩

/-- Without the entries of one key, the other keys have what they had. -/
theorem get?_filter (d : Dictionary α) (key k : String) :
    get? (d.filter (·.1 ≠ key)) k = if k = key then none else d.get? k := by
  induction d with
  | nil => simp [get?]
  | cons e rest ih =>
      obtain ⟨l, v⟩ := e
      by_cases hl : l = key
      · rw [List.filter_cons_of_neg (by simpa using hl), ih, get?]
        by_cases hk : k = key
        · simp [hk]
        · simp [hk, hl]
      · rw [List.filter_cons_of_pos (by simpa using hl), get?, get?, ih]
        by_cases hk : k = l
        · simp [hk, hl]
        · simp [hk]

theorem get?_map {β : Type} (f : α → β) (d : Dictionary α) (key : String) :
    get? (d.map fun e => (e.1, f e.2)) key = (d.get? key).map f := by
  induction d with
  | nil => rfl
  | cons e rest ih =>
      rw [List.map_cons, get?, get?, ih]
      split
      · rfl
      · rfl

/-! ## What determines a dictionary -/

theorem mem_map_fst_iff : key ∈ d.map Prod.fst ↔ ∃ value, d.get? key = some value := by
  induction d with
  | nil => simp [get?]
  | cons e rest ih =>
      obtain ⟨k, v⟩ := e
      rw [get?, List.map_cons, List.mem_cons, ih]
      by_cases hk : key = k
      · simp [hk]
      · simp [hk]

theorem sorted_ofList (entries : List (String × α)) : (ofList entries).Sorted := by
  have hfold : ∀ (d : Dictionary α), d.Sorted →
      Sorted (entries.foldl (fun d e => d.insert e.1 e.2) d) := by
    induction entries with
    | nil => exact fun d hd => hd
    | cons e rest ih => exact fun d hd => ih _ (hd.insert e.1 e.2)
  exact hfold [] .nil

theorem Sorted.get?_eq_some_iff (h : d.Sorted) : d.get? key = some value ↔ (key, value) ∈ d := by
  induction d with
  | nil => simp [get?]
  | cons e rest ih =>
      obtain ⟨k, v⟩ := e
      have hrest := ih (List.pairwise_cons.mp h).2
      rw [get?, List.mem_cons, ← hrest]
      by_cases hk : key = k
      · subst hk
        -- the keys after this one are greater, so it is not found there again
        have hnone : ¬ get? rest key = some value := by
          intro hv
          exact String.lt_irrefl key ((List.pairwise_cons.mp h).1 _ (hrest.mp hv))
        simp [hnone, eq_comm]
      · simp [hk]

theorem Sorted.nodup (h : d.Sorted) : List.Nodup d := by
  refine List.Pairwise.imp ?_ h
  rintro a b hab rfl
  exact String.lt_irrefl _ hab

/-- Dictionaries in which the same is found are the same. -/
theorem Sorted.ext (h : d.Sorted) (h' : d'.Sorted) (hget : ∀ key, d.get? key = d'.get? key) :
    d = d' := by
  have hperm : List.Perm d d' := by
    rw [List.perm_ext_iff_of_nodup h.nodup h'.nodup]
    rintro ⟨key, value⟩
    rw [← h.get?_eq_some_iff, ← h'.get?_eq_some_iff, hget]
  refine hperm.eq_of_pairwise ?_ h h'
  intro a b _ _ hab hba
  exact absurd (String.lt_trans hab hba) (String.lt_irrefl _)

/-- Entries with different keys are all in their dictionary, in some order. -/
theorem ofList_perm (h : (entries.map Prod.fst).Nodup) : (ofList entries).Perm entries := by
  have hentries : entries.Nodup := by
    refine List.Pairwise.imp ?_ (List.pairwise_map.mp h)
    rintro a b hab rfl
    exact hab rfl
  rw [List.perm_ext_iff_of_nodup (sorted_ofList entries).nodup hentries]
  rintro ⟨key, value⟩
  rw [← (sorted_ofList entries).get?_eq_some_iff, get?_ofList_eq_some_iff h]

end Dictionary

/-! ## Looking into documents -/

namespace Json

/-- What a document has at the end of a path of keys. -/
def find? : Json → List String → Option Json
  | document, [] => some document
  | .object members, key :: rest => (Dictionary.get? members key).bind (·.find? rest)
  | _, _ :: _ => none

variable {key : String} {rest : List String}

@[simp] theorem find?_nil (document : Json) : document.find? [] = some document := by
  cases document <;> rfl

theorem find?_ofMembers {members : List (String × Json)} (h : (members.map Prod.fst).Nodup) :
    (ofMembers members).find? (key :: rest) =
      ((members.find? (·.1 = key)).map Prod.snd).bind (·.find? rest) := by
  rw [ofMembers, find?, Dictionary.get?_ofList h]

theorem find?_ofPresent {members : List (String × Option Json)}
    (h : (members.map Prod.fst).Nodup) :
    (ofPresent members).find? (key :: rest) =
      ((members.find? (·.1 = key)).bind Prod.snd).bind (·.find? rest) := by
  rw [ofPresent, ofMembers, find?, Dictionary.get?_ofList_filterMap h]

end Json

end Intake
