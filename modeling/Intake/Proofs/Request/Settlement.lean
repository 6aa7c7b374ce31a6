import Intake.Proofs.Endpoint.Registry
import Intake.Proofs.Request.Decoding

/-!
# Settlement of parameters

A value settles a parameter for the rest of its request, and so does an absence for which there is a
substitute. A settled parameter is given again without asking; one that is not is asked for once by
each retrieval.
-/

namespace Intake

namespace Endpoint

/-- An outcome settles an id if it is a value, or an absence of a declared parameter that is
optional or has a default. -/
def Settles (e : Endpoint) (id : ParameterId) : Except DecodeFailure Json → Prop
  | .ok _ => True
  | .error d => d.isAbsence = true ∧
      ∃ q ∈ e.parameters, q.id = id ∧ (q.isRequired = false ∨ q.default.isSome = true)

instance (e : Endpoint) (id : ParameterId) :
    (outcome : Except DecodeFailure Json) → Decidable (e.Settles id outcome)
  | .ok _ => .isTrue trivial
  | .error d => inferInstanceAs (Decidable (d.isAbsence = true ∧
      ∃ q ∈ e.parameters, q.id = id ∧ (q.isRequired = false ∨ q.default.isSome = true)))

/-- The value that an outcome settles an id to, if it does and the default of the id has given
`earlier` values before. -/
def settled? (e : Endpoint) (id : ParameterId) (earlier : Nat) :
    Except DecodeFailure Json → Option Json
  | .ok v => some v
  | .error d =>
      if d.isAbsence then
        (e.parameter? id).bind fun q =>
          if q.isRequired then q.default.map (·.supply earlier) else some .null
      else none

/-- How many values an outcome that settles an id takes from its default. -/
def drawn (e : Endpoint) (id : ParameterId) : Except DecodeFailure Json → Nat
  | .ok _ => 0
  | .error _ => (e.default? id).elim 0 fun _ => 1

/-- The report of a failure that does not settle a parameter. -/
def unsettled (e : Endpoint) (p : Parameter) (d : DecodeFailure) : Error :=
  if d.isAbsence then
    match e.parameter? p.id with
    | some q => q.missing d
    | none => p.undeclared
  else .ofDecode d

variable {e : Endpoint} {id : ParameterId}

theorem settled?_isSome_iff (earlier : Nat) (outcome : Except DecodeFailure Json) :
    (e.settled? id earlier outcome).isSome = true ↔ e.Settles id outcome := by
  cases outcome with
  | ok v => simp [settled?, Settles]
  | error d =>
      simp only [settled?, Settles]
      cases d.isAbsence with
      | false => simp
      | true =>
          simp only [↓reduceIte, true_and]
          constructor
          · intro h
            cases hp : e.parameter? id with
            | none => simp [hp] at h
            | some q =>
                obtain ⟨hq, hid⟩ := mem_of_parameter? hp
                refine ⟨q, hq, hid, ?_⟩
                cases hr : q.isRequired with
                | false => exact Or.inl rfl
                | true => exact Or.inr (by simpa [hp, hr] using h)
          · rintro ⟨q, hq, rfl, h⟩
            rw [parameter?_of_mem hq, Option.bind_some]
            rcases h with h | h
            · simp [h]
            · cases hr : q.isRequired <;> simp [h]

/-- What stands in for an absent parameter settles it, and nothing else does. -/
theorem substitute_eq (supplied : List ParameterId) (p : Parameter) {d : DecodeFailure}
    (hd : d.isAbsence = true) :
    e.substitute supplied p d =
      match e.settled? p.id (supplied.count p.id) (.error d) with
      | some v => .ok (v, List.replicate (e.drawn p.id (.error d)) p.id ++ supplied)
      | none => .error (e.unsettled p d) := by
  simp only [substitute, settled?, unsettled, drawn, default?, hd, ↓reduceIte]
  cases hp : e.parameter? p.id with
  | none => rfl
  | some q =>
      cases hr : q.isRequired with
      | false => simp [hr]
      | true => cases hq : q.default <;> simp [hr, hq]

variable {p : Parameter} {d : DecodeFailure}

theorem unsettled_badInput (h : d.isAbsence = false ∨ ∃ q ∈ e.parameters, q.id = p.id) :
    (e.unsettled p d).kind = .badInput ∧ (e.unsettled p d).decode = some d := by
  unfold unsettled
  cases ha : d.isAbsence with
  | false => exact ⟨rfl, rfl⟩
  | true =>
      rw [ha] at h
      obtain ⟨q, hq, hid⟩ := h.resolve_left (by simp)
      rw [← hid, parameter?_of_mem hq]
      exact ⟨rfl, rfl⟩

theorem unsettled_internal (ha : d.isAbsence = true) (h : ∀ q ∈ e.parameters, q.id ≠ p.id) :
    (e.unsettled p d).kind = .internal ∧ (e.unsettled p d).decode = none := by
  unfold unsettled
  cases hp : e.parameter? p.id with
  | none =>
      rw [ha]
      exact ⟨rfl, rfl⟩
  | some q => exact absurd (mem_of_parameter? hp).2 (h q (mem_of_parameter? hp).1)

/-- The value of an absent parameter. -/
theorem settled?_absence {earlier : Nat} {v : Json} {q : Parameter} (hq : q ∈ e.parameters)
    (h : e.settled? q.id earlier (.error d) = some v) :
    if q.isRequired then ∃ given, q.default = some given ∧ v = given.supply earlier
    else v = .null := by
  simp only [settled?, parameter?_of_mem hq, Option.bind_some] at h
  split at h
  · cases hr : q.isRequired with
    | false => simpa [hr, eq_comm] using h
    | true =>
        rw [hr] at h
        obtain ⟨given, hg, hv⟩ := Option.map_eq_some_iff.mp h
        exact ⟨given, hg, hv.symm⟩
  · cases h

end Endpoint

/-! ## Single retrievals -/

theorem Cached.decode_of_error {c : Cached} {p : Parameter} {d : DecodeFailure}
    (hv : c.values.get? p.id = none)
    (ho : c.exchange.request.answer c.exchange.asked p = .error d) :
    c.decode p = (.error d, ⟨(c.exchange.decode p).2, c.values⟩) := by
  simp only [decode, hv, Exchange.decode, ho]

theorem Cached.decode_of_ok {c : Cached} {p : Parameter} {v : Json}
    (hv : c.values.get? p.id = none)
    (ho : c.exchange.request.answer c.exchange.asked p = .ok v) :
    c.decode p = (.ok v, ⟨(c.exchange.decode p).2, c.values.put p.id v⟩) := by
  simp only [decode, hv, Exchange.decode, ho]

namespace Substituted

/-- The value that an id is settled to. -/
def held (s : Substituted Cached) (id : ParameterId) : Option Json :=
  (s.resolved.get? id).or (s.inner.values.get? id)

/-- Retrieves one parameter after the other, whatever fails. -/
def retrieveAll (e : Endpoint) (s : Substituted Cached) :
    List Parameter → List (Except Error Json) × Substituted Cached
  | [] => ([], s)
  | p :: rest =>
      let (result, s) := s.retrieve e p
      let (results, s) := s.retrieveAll e rest
      (result :: results, s)

variable {e : Endpoint} {s : Substituted Cached} {p : Parameter}

/-- A settled id is given again and nothing is asked. -/
theorem retrieve_of_held {v : Json} (h : s.held p.id = some v) : s.retrieve e p = (.ok v, s) := by
  unfold held at h
  cases hr : s.resolved.get? p.id with
  | some w =>
      rw [hr, Option.some_or, Option.some.injEq] at h
      subst h
      simp only [retrieve, hr]
  | none =>
      rw [hr, Option.none_or] at h
      simp only [retrieve, hr, Decoder.decode, Cached.decode, h]

/-- An id that is not settled is asked for once. A failure that does not settle it changes nothing
else. -/
theorem retrieve_of_unsettled (h : s.held p.id = none) {outcome : Except DecodeFailure Json}
    (ho : s.inner.exchange.request.answer s.inner.exchange.asked p = outcome)
    (hn : e.settled? p.id (s.supplied.count p.id) outcome = none) :
    ∃ d, outcome = .error d ∧ s.retrieve e p = (.error (e.unsettled p d),
      { s with inner := ⟨(s.inner.exchange.decode p).2, s.inner.values⟩ }) := by
  obtain ⟨hr, hv⟩ := Option.or_eq_none_iff.mp h
  cases outcome with
  | ok v => cases hn
  | error d =>
      refine ⟨d, rfl, ?_⟩
      simp only [retrieve, hr, Decoder.decode, Cached.decode_of_error hv ho]
      cases ha : d.isAbsence with
      | true => simp [Endpoint.substitute_eq _ p ha, hn]
      | false => simp [Endpoint.unsettled, ha]

/-- An outcome that settles an id is given, and kept. -/
theorem retrieve_of_settled (h : s.held p.id = none) {outcome : Except DecodeFailure Json}
    (ho : s.inner.exchange.request.answer s.inner.exchange.asked p = outcome) {v : Json}
    (hs : e.settled? p.id (s.supplied.count p.id) outcome = some v) :
    ∃ t, s.retrieve e p = (.ok v, t) ∧ t.inner.exchange = (s.inner.exchange.decode p).2 ∧
      t.supplied = List.replicate (e.drawn p.id outcome) p.id ++ s.supplied ∧
      ∀ id, t.held id = if id = p.id then some v else s.held id := by
  obtain ⟨hr, hv⟩ := Option.or_eq_none_iff.mp h
  cases outcome with
  | ok w =>
      obtain rfl : w = v := by simpa [Endpoint.settled?] using hs
      refine ⟨{ s with inner := ⟨(s.inner.exchange.decode p).2, s.inner.values.put p.id w⟩ }, ?_,
        rfl, rfl, fun id => ?_⟩
      · simp only [retrieve, hr, Decoder.decode, Cached.decode_of_ok hv ho]
      by_cases hid : id = p.id
      · simp [held, hid, hr, Table.get?_put]
      · simp [held, hid, Table.get?_put]
  | error d =>
      have ha : d.isAbsence = true := by
        cases ha : d.isAbsence with
        | true => rfl
        | false => simp [Endpoint.settled?, ha] at hs
      refine ⟨⟨⟨(s.inner.exchange.decode p).2, s.inner.values⟩, s.resolved.put p.id v,
          List.replicate (e.drawn p.id (.error d)) p.id ++ s.supplied⟩, ?_, rfl, rfl, fun id => ?_⟩
      · simp only [retrieve, hr, Decoder.decode, Cached.decode_of_error hv ho, ha, ↓reduceIte,
          Endpoint.substitute_eq _ p ha, hs]
      by_cases hid : id = p.id
      · simp [held, hid, Table.get?_put]
      · simp [held, hid, Table.get?_put]

end Substituted

end Intake
