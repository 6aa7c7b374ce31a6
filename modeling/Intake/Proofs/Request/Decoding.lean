import Intake.Substitution

/-!
# Cache and substitution

What a retrieval through the cache and substitution gives for an id that was not retrieved before,
and that it leaves every other id alone.
-/

namespace Intake

variable {p : Parameter} {id : ParameterId}

namespace Cached

/-- A cached value is given again; otherwise the raw request is asked, and a value is kept. -/
theorem decode_cases (c : Cached) (p : Parameter) :
    (∃ v, c.values.get? p.id = some v ∧ c.decode p = (.ok v, c)) ∨
    (∃ v, c.values.get? p.id = none ∧ c.exchange.request.answer c.exchange.asked p = .ok v ∧
      c.decode p = (.ok v, ⟨(c.exchange.decode p).2, c.values.put p.id v⟩)) ∨
    (∃ d, c.values.get? p.id = none ∧ c.exchange.request.answer c.exchange.asked p = .error d ∧
      c.decode p = (.error d, ⟨(c.exchange.decode p).2, c.values⟩)) := by
  cases hv : c.values.get? p.id with
  | some v => exact Or.inl ⟨v, rfl, by simp [decode, hv]⟩
  | none =>
      cases ha : c.exchange.request.answer c.exchange.asked p with
      | ok v => exact Or.inr (Or.inl ⟨v, rfl, rfl, by simp [decode, hv, Exchange.decode, ha]⟩)
      | error d => exact Or.inr (Or.inr ⟨d, rfl, rfl, by simp [decode, hv, Exchange.decode, ha]⟩)

theorem decode_fst {c : Cached} (h : c.values.get? p.id = none) :
    (c.decode p).1 = c.exchange.request.answer c.exchange.asked p := by
  rcases decode_cases c p with ⟨v, hv, _⟩ | ⟨v, _, ha, hd⟩ | ⟨d, _, ha, hd⟩
  · rw [h] at hv
    cases hv
  · rw [hd, ha]
  · rw [hd, ha]

theorem request_decode (c : Cached) (p : Parameter) :
    (c.decode p).2.exchange.request = c.exchange.request := by
  rcases decode_cases c p with ⟨_, _, hd⟩ | ⟨_, _, _, hd⟩ | ⟨_, _, _, hd⟩ <;> rw [hd] <;> rfl

theorem get?_decode (c : Cached) (h : id ≠ p.id) :
    (c.decode p).2.values.get? id = c.values.get? id := by
  rcases decode_cases c p with ⟨_, _, hd⟩ | ⟨_, _, _, hd⟩ | ⟨_, _, _, hd⟩ <;> rw [hd]
  simp [Table.get?_put, h]

end Cached

namespace Substituted

variable (e : Endpoint) (s : Substituted Cached)

/-- A substituted value is given again; otherwise the request is decoded, and what stands in for an
absent value is kept. -/
theorem retrieve_cases (p : Parameter) :
    (∃ v, s.resolved.get? p.id = some v ∧ s.retrieve e p = (.ok v, s)) ∨
    (∃ v, s.resolved.get? p.id = none ∧ (s.inner.decode p).1 = .ok v ∧
      s.retrieve e p = (.ok v, { s with inner := (s.inner.decode p).2 })) ∨
    (∃ d v supplied, s.resolved.get? p.id = none ∧ (s.inner.decode p).1 = .error d ∧
      d.isAbsence = true ∧ e.substitute s.supplied p d = .ok (v, supplied) ∧
      s.retrieve e p = (.ok v, ⟨(s.inner.decode p).2, s.resolved.put p.id v, supplied⟩)) ∨
    (∃ d err, s.resolved.get? p.id = none ∧ (s.inner.decode p).1 = .error d ∧
      (d.isAbsence = true ∧ e.substitute s.supplied p d = .error err ∨
        d.isAbsence = false ∧ err = .ofDecode d) ∧
      s.retrieve e p = (.error err, { s with inner := (s.inner.decode p).2 })) := by
  cases hr : s.resolved.get? p.id with
  | some v => exact Or.inl ⟨v, rfl, by simp only [retrieve, hr]⟩
  | none =>
      cases hd : s.inner.decode p with
      | mk result inner =>
          cases result with
          | ok v =>
              exact Or.inr (Or.inl ⟨v, rfl, rfl, by simp only [retrieve, hr, Decoder.decode, hd]⟩)
          | error d =>
              cases ha : d.isAbsence with
              | false =>
                  refine Or.inr (Or.inr (Or.inr ⟨d, _, rfl, rfl, Or.inr ⟨ha, rfl⟩, ?_⟩))
                  simp only [retrieve, hr, Decoder.decode, hd, ha, Bool.false_eq_true, ↓reduceIte]
              | true =>
                  cases hs : e.substitute s.supplied p d with
                  | ok w =>
                      obtain ⟨v, supplied⟩ := w
                      refine Or.inr (Or.inr (Or.inl ⟨d, v, supplied, rfl, rfl, ha, hs, ?_⟩))
                      simp only [retrieve, hr, Decoder.decode, hd, ha, ↓reduceIte, hs]
                  | error err =>
                      refine Or.inr (Or.inr (Or.inr ⟨d, err, rfl, rfl, Or.inl ⟨ha, hs⟩, ?_⟩))
                      simp only [retrieve, hr, Decoder.decode, hd, ha, ↓reduceIte, hs]

theorem retrieve_fst {p : Parameter} (h : s.resolved.get? p.id = none) :
    (s.retrieve e p).1 =
      match (s.inner.decode p).1 with
      | .ok v => .ok v
      | .error d =>
          if d.isAbsence then (e.substitute s.supplied p d).map Prod.fst
          else .error (.ofDecode d) := by
  rcases retrieve_cases e s p with ⟨_, hr, _⟩ | ⟨v, _, hd, hs⟩ | ⟨d, v, w, _, hd, ha, hw, hs⟩ |
    ⟨d, err, _, hd, hc, hs⟩
  · rw [h] at hr
    cases hr
  · rw [hs, hd]
  · rw [hs, hd]
    simp [ha, hw, Except.map]
  · rw [hs, hd]
    rcases hc with ⟨ha, he⟩ | ⟨ha, rfl⟩
    · simp [ha, he, Except.map]
    · simp [ha]

theorem request_retrieve (p : Parameter) :
    (s.retrieve e p).2.inner.exchange.request = s.inner.exchange.request := by
  rcases retrieve_cases e s p with ⟨_, _, h⟩ | ⟨_, _, _, h⟩ | ⟨_, _, _, _, _, _, _, h⟩ |
    ⟨_, _, _, _, _, h⟩ <;> rw [h]
  · exact s.inner.request_decode p
  · exact s.inner.request_decode p
  · exact s.inner.request_decode p

/-- Other ids keep what was cached and substituted for them. -/
theorem get?_retrieve (h : id ≠ p.id) :
    (s.retrieve e p).2.resolved.get? id = s.resolved.get? id ∧
      (s.retrieve e p).2.inner.values.get? id = s.inner.values.get? id := by
  rcases retrieve_cases e s p with ⟨_, _, hr⟩ | ⟨_, _, _, hr⟩ | ⟨_, _, _, _, _, _, _, hr⟩ |
    ⟨_, _, _, _, _, hr⟩ <;> rw [hr]
  · exact ⟨rfl, rfl⟩
  · exact ⟨rfl, s.inner.get?_decode h⟩
  · exact ⟨by simp [Table.get?_put, h], s.inner.get?_decode h⟩
  · exact ⟨rfl, s.inner.get?_decode h⟩

end Substituted

end Intake
