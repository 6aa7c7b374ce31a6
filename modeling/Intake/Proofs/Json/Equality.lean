import Intake.Json.Basic

/-!
# Equality of JSON values

Equality of values is an equivalence, although the two zeros of double precision are equal without
being the same value. So values that agree with one fixed value agree with each other.
-/

namespace Intake.Json

/-! ## Floating-point numbers -/

theorem Double.same_refl (x : Double) : x.same x = true := by simp [Double.same]

theorem Double.same_symm {x y : Double} (h : x.same y = true) : y.same x = true := by
  simp only [Double.same, Bool.and_eq_true, Bool.or_eq_true, beq_iff_eq] at h ⊢
  obtain ⟨hc, hs⟩ := h
  exact ⟨hc.symm, hs.imp Eq.symm (fun h0 => hc ▸ h0)⟩

theorem Double.same_trans {x y z : Double} (h₁ : x.same y = true) (h₂ : y.same z = true) :
    x.same z = true := by
  simp only [Double.same, Bool.and_eq_true, Bool.or_eq_true, beq_iff_eq] at h₁ h₂ ⊢
  obtain ⟨hc₁, hs₁⟩ := h₁
  obtain ⟨hc₂, hs₂⟩ := h₂
  refine ⟨hc₁.trans hc₂, ?_⟩
  rcases hs₁ with hs₁ | h0
  · rcases hs₂ with hs₂ | h0
    · exact Or.inl (hs₁.trans hs₂)
    · exact Or.inr (hc₁.trans h0)
  · exact Or.inr h0

/-! ## Values -/

mutual
theorem same_refl : (v : Json) → same v v = true
  | .null => rfl
  | .bool _ => by simp [same]
  | .integer _ => by simp [same]
  | .float x => Double.same_refl x
  | .string _ => by simp [same]
  | .array xs => sameItems_refl xs
  | .object xs => sameMembers_refl xs

theorem sameItems_refl : (xs : List Json) → sameItems xs xs = true
  | [] => rfl
  | x :: xs => by simp [sameItems, same_refl x, sameItems_refl xs]

theorem sameMembers_refl : (xs : List (String × Json)) → sameMembers xs xs = true
  | [] => rfl
  | (_, x) :: xs => by simp [sameMembers, same_refl x, sameMembers_refl xs]
end

mutual
theorem same_symm : (v w : Json) → same v w = true → same w v = true
  | .null, w, h => by cases w <;> simp_all [same]
  | .bool _, w, h => by cases w <;> simp_all [same]
  | .integer _, w, h => by cases w <;> simp_all [same]
  | .float x, w, h => by
      cases w with
      | float y => exact Double.same_symm (x := x) (y := y) h
      | _ => simp [same] at h
  | .string _, w, h => by cases w <;> simp_all [same]
  | .array xs, w, h => by
      cases w with
      | array ys => exact sameItems_symm xs ys h
      | _ => simp [same] at h
  | .object xs, w, h => by
      cases w with
      | object ys => exact sameMembers_symm xs ys h
      | _ => simp [same] at h

theorem sameItems_symm : (xs ys : List Json) → sameItems xs ys = true → sameItems ys xs = true
  | [], [], _ => rfl
  | [], _ :: _, h => by simp [sameItems] at h
  | _ :: _, [], h => by simp [sameItems] at h
  | x :: xs, y :: ys, h => by
      simp only [sameItems, Bool.and_eq_true] at h ⊢
      exact ⟨same_symm x y h.1, sameItems_symm xs ys h.2⟩

theorem sameMembers_symm : (xs ys : List (String × Json)) → sameMembers xs ys = true →
    sameMembers ys xs = true
  | [], [], _ => rfl
  | [], _ :: _, h => by simp [sameMembers] at h
  | _ :: _, [], h => by simp [sameMembers] at h
  | (_, x) :: xs, (_, y) :: ys, h => by
      simp only [sameMembers, Bool.and_eq_true, beq_iff_eq] at h ⊢
      exact ⟨⟨h.1.1.symm, same_symm x y h.1.2⟩, sameMembers_symm xs ys h.2⟩
end

mutual
theorem same_trans : (u v w : Json) → same u v = true → same v w = true → same u w = true
  | .null, v, w, h₁, h₂ => by cases v <;> cases w <;> simp_all [same]
  | .bool _, v, w, h₁, h₂ => by cases v <;> cases w <;> simp_all [same]
  | .integer _, v, w, h₁, h₂ => by cases v <;> cases w <;> simp_all [same]
  | .float x, v, w, h₁, h₂ => by
      cases v with
      | float y =>
          cases w with
          | float z => exact Double.same_trans (x := x) (y := y) (z := z) h₁ h₂
          | _ => simp [same] at h₂
      | _ => simp [same] at h₁
  | .string _, v, w, h₁, h₂ => by cases v <;> cases w <;> simp_all [same]
  | .array xs, v, w, h₁, h₂ => by
      cases v with
      | array ys =>
          cases w with
          | array zs => exact sameItems_trans xs ys zs h₁ h₂
          | _ => simp [same] at h₂
      | _ => simp [same] at h₁
  | .object xs, v, w, h₁, h₂ => by
      cases v with
      | object ys =>
          cases w with
          | object zs => exact sameMembers_trans xs ys zs h₁ h₂
          | _ => simp [same] at h₂
      | _ => simp [same] at h₁

theorem sameItems_trans : (xs ys zs : List Json) → sameItems xs ys = true →
    sameItems ys zs = true → sameItems xs zs = true
  | [], [], [], _, _ => rfl
  | [], _ :: _, _, h, _ => by simp [sameItems] at h
  | _ :: _, [], _, h, _ => by simp [sameItems] at h
  | _, [], _ :: _, _, h => by simp [sameItems] at h
  | _, _ :: _, [], _, h => by simp [sameItems] at h
  | x :: xs, y :: ys, z :: zs, h₁, h₂ => by
      simp only [sameItems, Bool.and_eq_true] at h₁ h₂ ⊢
      exact ⟨same_trans x y z h₁.1 h₂.1, sameItems_trans xs ys zs h₁.2 h₂.2⟩

theorem sameMembers_trans : (xs ys zs : List (String × Json)) → sameMembers xs ys = true →
    sameMembers ys zs = true → sameMembers xs zs = true
  | [], [], [], _, _ => rfl
  | [], _ :: _, _, h, _ => by simp [sameMembers] at h
  | _ :: _, [], _, h, _ => by simp [sameMembers] at h
  | _, [], _ :: _, _, h => by simp [sameMembers] at h
  | _, _ :: _, [], _, h => by simp [sameMembers] at h
  | (_, x) :: xs, (_, y) :: ys, (_, z) :: zs, h₁, h₂ => by
      simp only [sameMembers, Bool.and_eq_true, beq_iff_eq] at h₁ h₂ ⊢
      exact ⟨⟨h₁.1.1.trans h₂.1.1, same_trans x y z h₁.1.2 h₂.1.2⟩,
        sameMembers_trans xs ys zs h₁.2 h₂.2⟩
end

instance : EquivBEq Json where
  rfl := same_refl _
  symm := same_symm _ _
  trans := same_trans _ _ _

end Intake.Json
