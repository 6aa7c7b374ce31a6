import Intake.Json.Document
import Intake.Proofs.Inversion

/-!
# Values that documents spell

Reading puts the members of every object in the order of their keys. Main statement: a document
spells a value exactly if it is so ordered, and then `Document.ofJson` is one that does.
-/

namespace Intake

namespace Dictionary

variable {α : Type} {d : Dictionary α} {key : String}

theorem insert_of_forall_lt (h : ∀ e ∈ d, e.1 < key) (value : α) :
    d.insert key value = d ++ [(key, value)] := by
  induction d with
  | nil => rfl
  | cons e rest ih =>
      obtain ⟨k, v⟩ := e
      rw [List.forall_mem_cons] at h
      have hne : key ≠ k := by
        rintro rfl
        exact String.lt_irrefl _ h.1
      rw [insert, if_neg hne, if_neg (fun hlt => String.lt_irrefl _ (String.lt_trans hlt h.1)),
        ih h.2]
      rfl

end Dictionary

namespace Json

/-- A value in which the members of every object stand in the order of their keys. -/
inductive Ordered : Json → Prop
  | null : Ordered .null
  | bool (b : Bool) : Ordered (.bool b)
  | integer (i : Int) : Ordered (.integer i)
  | float (x : Double) : Ordered (.float x)
  | string (s : String) : Ordered (.string s)
  | array {items : List Json} (parts : ∀ v ∈ items, Ordered v) : Ordered (.array items)
  | object {members : Dictionary Json} (sorted : members.Sorted)
      (parts : ∀ m ∈ members, Ordered m.2) : Ordered (.object members)

/-! ## What was read is ordered -/

mutual
theorem Document.ordered : (d : Document) → {v : Json} → d.value? = .ok v → v.Ordered
  | .scalar _ s _, _, h => by
      cases h
      cases s with
      | null => exact .null
      | bool b => exact .bool b
      | integer i => exact .integer i
      | float x => exact .float x
  | .string _ s _, _, h => by
      cases h
      exact .string s
  | .array _ items, _, h => by
      obtain ⟨vs, hvs, rfl⟩ := map_eq_ok_iff.mp h
      exact .array (Items.ordered items (List.forall_mem_nil _) hvs)
  | .object _ members, _, h => by
      obtain ⟨ms, hms, rfl⟩ := map_eq_ok_iff.mp h
      have hnone : Dictionary.Sorted ([] : Dictionary Json) := .nil
      obtain ⟨hsorted, hparts⟩ := Members.ordered members hnone (List.forall_mem_nil _) hms
      exact .object hsorted hparts
  | .brokenString _ _, _, h => by cases h
  | .broken _ _, _, h => by cases h

theorem Items.ordered : (items : Items) → {taken vs : List Json} → (∀ v ∈ taken, v.Ordered) →
    items.values? taken = .ok vs → ∀ v ∈ vs, v.Ordered
  | .close _, _, _, htaken, h => by
      cases h
      simpa using htaken
  | .item _ d rest, _, _, htaken, h => by
      rw [Items.values?] at h
      split at h
      · cases h
      · rename_i v hv
        exact Items.ordered rest (List.forall_mem_cons.mpr ⟨Document.ordered d hv, htaken⟩) h
  | .missing _ _, _, _, _, h => by cases h
  | .broken _ _, _, _, _, h => by cases h

theorem Members.ordered : (members : Members) → {taken ms : Dictionary Json} → taken.Sorted →
    (∀ m ∈ taken, m.2.Ordered) → members.values? taken = .ok ms →
    ms.Sorted ∧ ∀ m ∈ ms, m.2.Ordered
  | .close _, _, _, hsorted, htaken, h => by
      cases h
      exact ⟨hsorted, htaken⟩
  | .member _ key d rest, _, _, hsorted, htaken, h => by
      rw [Members.values?] at h
      split at h
      · cases h
      · rename_i v hv
        refine Members.ordered rest (hsorted.insert key.name v) (fun m hm => ?_) h
        rcases Dictionary.mem_insert hm with rfl | hm
        · exact Document.ordered d hv
        · exact htaken m hm
  | .unpaired _ _ _, _, _, _, _, h => by cases h
  | .broken _ _, _, _, _, _, h => by cases h
end

/-! ## What is ordered can be read -/

theorem values?_ofList {items : List Json} (h : ∀ v ∈ items, (Document.ofJson v).value? = .ok v)
    (taken : List Json) :
    (Items.ofList items).values? taken = .ok (taken.reverse ++ items) := by
  induction items generalizing taken with
  | nil => simp [Items.ofList, Items.values?]
  | cons v rest ih =>
      rw [List.forall_mem_cons] at h
      rw [Items.ofList, Items.values?, h.1]
      simpa using ih h.2 (v :: taken)

theorem values?_ofMembers {members : Dictionary Json}
    (h : ∀ m ∈ members, (Document.ofJson m.2).value? = .ok m.2) (taken : Dictionary Json)
    (hsorted : Dictionary.Sorted (taken ++ members)) :
    (Members.ofList members).values? taken = .ok (taken ++ members) := by
  induction members generalizing taken with
  | nil => simp [Members.ofList, Members.values?]
  | cons m rest ih =>
      obtain ⟨key, v⟩ := m
      rw [List.forall_mem_cons] at h
      -- the order of the members makes the next one the last of those taken
      have hlast : ∀ e ∈ taken, e.1 < key := by
        intro e he
        exact (List.pairwise_append.mp hsorted).2.2 e he (key, v) List.mem_cons_self
      rw [Members.ofList, Members.values?, h.1]
      dsimp only
      rw [Dictionary.insert_of_forall_lt hlast]
      simpa using ih h.2 (taken ++ [(key, v)]) (by simpa using hsorted)

theorem Ordered.value?_ofJson {v : Json} (h : v.Ordered) : (Document.ofJson v).value? = .ok v := by
  induction h with
  | array _ ih =>
      rw [Document.ofJson, Document.value?, values?_ofList ih]
      rfl
  | object sorted _ ih =>
      rw [Document.ofJson, Document.value?, values?_ofMembers ih [] sorted]
      rfl
  | _ => rfl

theorem ordered_iff (v : Json) : v.Ordered ↔ ∃ d : Document, d.value? = .ok v := by
  constructor
  · intro h
    exact ⟨_, h.value?_ofJson⟩
  · rintro ⟨d, hd⟩
    exact d.ordered hd

end Json

end Intake
