/-!
# Tables

A table holds at most one value for each key and lists the keys in the order in which they first
got one. Main statement: what is found after a value has been put in.
-/

namespace Intake

abbrev Table (κ α : Type) := List (κ × α)

namespace Table

variable {κ α : Type} [DecidableEq κ]

def get? (t : Table κ α) (key : κ) : Option α :=
  match t with
  | [] => none
  | (k, v) :: rest => if key = k then some v else get? rest key

/-- Gives a key a value, in place of the one it has. -/
def put (t : Table κ α) (key : κ) (value : α) : Table κ α :=
  match t with
  | [] => [(key, value)]
  | (k, v) :: rest => if key = k then (k, value) :: rest else (k, v) :: put rest key value

def mapValues {β : Type} (f : α → β) (t : Table κ α) : Table κ β :=
  t.map fun e => (e.1, f e.2)

@[simp] theorem get?_nil (key : κ) : get? ([] : Table κ α) key = none := rfl

theorem get?_put (t : Table κ α) (key : κ) (value : α) (k : κ) :
    (t.put key value).get? k = if k = key then some value else t.get? k := by
  induction t with
  | nil => simp [put, get?]
  | cons e rest ih =>
      obtain ⟨l, v⟩ := e
      by_cases h : key = l
      · subst h
        by_cases hk : k = key <;> simp [put, get?, hk]
      · by_cases hl : k = l
        · subst hl
          simp [put, get?, h, Ne.symm h]
        · simp [put, get?, h, hl, ih]

@[simp] theorem get?_mapValues {β : Type} (f : α → β) (t : Table κ α) (key : κ) :
    (mapValues f t).get? key = (t.get? key).map f := by
  induction t with
  | nil => rfl
  | cons e rest ih =>
      obtain ⟨k, v⟩ := e
      simp only [mapValues, List.map_cons, get?]
      split
      · rfl
      · exact ih

end Table

end Intake
