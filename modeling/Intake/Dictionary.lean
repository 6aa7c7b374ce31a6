/-!
# Dictionaries

A dictionary maps texts to values and lists them in the increasing order of the texts. Main
statements: what is found after an insertion, and that insertion keeps the order.
-/

namespace Intake

abbrev Dictionary (α : Type) := List (String × α)

namespace Dictionary

variable {α : Type}

/-- Puts an entry in its place; an entry with its key gives way. -/
def insert (d : Dictionary α) (key : String) (value : α) : Dictionary α :=
  match d with
  | [] => [(key, value)]
  | (k, v) :: rest =>
      if key = k then (key, value) :: rest
      else if key < k then (key, value) :: (k, v) :: rest
      else (k, v) :: insert rest key value

def get? (d : Dictionary α) (key : String) : Option α :=
  match d with
  | [] => none
  | (k, v) :: rest => if key = k then some v else get? rest key

/-- The dictionary of the given entries; of several with one key the last counts. -/
def ofList (entries : List (String × α)) : Dictionary α :=
  entries.foldl (fun d e => d.insert e.1 e.2) []

/-- Each key is smaller than those after it. -/
def Sorted (d : Dictionary α) : Prop := d.Pairwise (fun a b => a.1 < b.1)

theorem get?_insert (d : Dictionary α) (key : String) (value : α) (k : String) :
    (d.insert key value).get? k = if k = key then some value else d.get? k := by
  induction d with
  | nil => simp [insert, get?]
  | cons e rest ih =>
      obtain ⟨l, v⟩ := e
      simp only [insert]
      split
      · rename_i h
        subst h
        by_cases hk : k = key <;> simp [get?, hk]
      · split
        · by_cases hk : k = key <;> simp [get?, hk]
        · rename_i h _
          simp only [get?]
          by_cases hl : k = l
          · have : ¬ k = key := fun hk => h (hk.symm.trans hl)
            simp [hl]
            intro hkey
            exact absurd hkey.symm h
          · simp [hl, ih]

theorem get?_foldl_insert {entries : List (String × α)} (h : (entries.map Prod.fst).Nodup)
    (d : Dictionary α) (key : String) :
    (entries.foldl (fun d e => d.insert e.1 e.2) d).get? key =
      ((entries.find? (·.1 = key)).map Prod.snd).or (d.get? key) := by
  induction entries generalizing d with
  | nil => rfl
  | cons e rest ih =>
      obtain ⟨k, v⟩ := e
      rw [List.map_cons, List.nodup_cons] at h
      rw [List.foldl_cons, ih h.2, get?_insert]
      by_cases hk : key = k
      · subst hk
        have hnone : rest.find? (·.1 = key) = none := by
          rw [List.find?_eq_none]
          intro f hf hfk
          exact h.1 (List.mem_map.mpr ⟨f, hf, by simpa using hfk⟩)
        simp [hnone]
      · simp [hk, Ne.symm hk]

/-- Of entries with different keys, each is found. -/
theorem get?_ofList {entries : List (String × α)} (h : (entries.map Prod.fst).Nodup)
    (key : String) :
    (ofList entries).get? key = (entries.find? (·.1 = key)).map Prod.snd := by
  unfold ofList
  rw [get?_foldl_insert h]
  simp [get?]

theorem mem_insert {d : Dictionary α} {key : String} {value : α} {e : String × α}
    (h : e ∈ d.insert key value) : e = (key, value) ∨ e ∈ d := by
  induction d with
  | nil => simpa [insert] using h
  | cons f rest ih =>
      obtain ⟨k, v⟩ := f
      simp only [insert] at h
      split at h
      · rcases List.mem_cons.mp h with h | h
        · exact .inl h
        · exact .inr (List.mem_cons_of_mem _ h)
      · split at h
        · rcases List.mem_cons.mp h with h | h
          · exact .inl h
          · exact .inr h
        · rcases List.mem_cons.mp h with h | h
          · exact .inr (h ▸ List.mem_cons_self)
          · exact (ih h).imp id (List.mem_cons_of_mem _)

theorem Sorted.insert {d : Dictionary α} (h : d.Sorted) (key : String) (value : α) :
    (d.insert key value).Sorted := by
  induction d with
  | nil => simp [Dictionary.insert, Sorted]
  | cons e rest ih =>
      obtain ⟨k, v⟩ := e
      have hr : Sorted rest := (List.pairwise_cons.mp h).2
      have hk := (List.pairwise_cons.mp h).1
      simp only [Dictionary.insert]
      split
      · rename_i he
        subst he
        exact List.pairwise_cons.mpr ⟨hk, hr⟩
      · split
        · rename_i hlt
          refine List.pairwise_cons.mpr ⟨?_, h⟩
          intro f hf
          rcases List.mem_cons.mp hf with rfl | hf
          · exact hlt
          · exact String.lt_trans hlt (hk f hf)
        · rename_i hne hnlt
          refine List.pairwise_cons.mpr ⟨?_, ih hr⟩
          intro f hf
          rcases mem_insert hf with rfl | hf
          · have hle : k ≤ key := String.not_lt.mp hnlt
            exact Std.lt_of_le_of_ne hle (fun h => hne h.symm)
          · exact hk f hf

end Dictionary

end Intake
