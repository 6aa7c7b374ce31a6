import Intake.Proofs.Request.Settlement
import Intake.Proofs.Stream.Reachable

/-!
# Requests that follow a script

A raw request may come to something else at every attempt. Every outcome before the first that
settles a parameter fails the retrieval that met it. Main statement: what any sequence of retrievals
comes to, and how often it asks the raw request and the defaults.
-/

namespace Intake

/-- What a raw request comes to for each id, attempt by attempt. -/
abbrev Script := ParameterId → Nat → Except DecodeFailure Json

def Script.raw (script : Script) (metadata : Metadata) : RawRequest :=
  .ofScript metadata fun p n => script p.id n

/-! ## Sequences of retrievals -/

namespace Script

variable (e : Endpoint) (script : Script) (earlier : ParameterId → Nat)

/-- The first of `n` attempts that settles an id. -/
def settling? (id : ParameterId) (n : Nat) : Option Nat :=
  (List.range n).find? fun i => (e.settled? id (earlier id) (script id i)).isSome

/-- The value that an id is settled to within `n` attempts. -/
def value? (id : ParameterId) (n : Nat) : Option Json :=
  (script.settling? e earlier id n).bind fun i => e.settled? id (earlier id) (script id i)

/-- What a retrieval comes to before which there were `n` of the same id. -/
def reply (p : Parameter) (n : Nat) : Except Error Json :=
  match script.value? e earlier p.id (n + 1), script p.id n with
  | some v, _ => .ok v
  | none, .error d => .error (e.unsettled p d)
  | none, .ok v => .ok v

/-- Where a request stands after so many retrievals of each id. -/
structure Follows (counts : ParameterId → Nat) (s : Substituted Cached) : Prop where
  answer_eq : ∀ asked p, s.inner.exchange.request.answer asked p =
    script p.id (asked.countP (·.id = p.id))
  held_eq : ∀ id, s.held id = script.value? e earlier id (counts id)
  asked_eq : ∀ id, s.inner.exchange.asked.countP (·.id = id) =
    (script.settling? e earlier id (counts id)).elim (counts id) (· + 1)
  supplied_eq : ∀ id, s.supplied.count id = earlier id +
    (script.settling? e earlier id (counts id)).elim 0 fun i => e.drawn id (script id i)

/-- The counts after one more retrieval. -/
def count (counts : ParameterId → Nat) (p : Parameter) (id : ParameterId) : Nat :=
  counts id + if p.id = id then 1 else 0

variable {e script earlier} {counts : ParameterId → Nat} {s : Substituted Cached}
  {id : ParameterId} {n i : Nat}

theorem settling?_eq_some_iff :
    script.settling? e earlier id n = some i ↔
      i < n ∧ e.Settles id (script id i) ∧ ∀ j < i, ¬e.Settles id (script id j) := by
  unfold settling?
  rw [List.find?_range_eq_some]
  simp only [Bool.not_eq_true', ← Bool.not_eq_true, Endpoint.settled?_isSome_iff, List.mem_range]
  exact and_left_comm

theorem settling?_eq_none_iff :
    script.settling? e earlier id n = none ↔ ∀ j < n, ¬e.Settles id (script id j) := by
  simp [settling?, ← Endpoint.settled?_isSome_iff (earlier id)]

theorem settling?_succ :
    script.settling? e earlier id (n + 1) =
      (script.settling? e earlier id n).or
        (if (e.settled? id (earlier id) (script id n)).isSome then some n else none) := by
  simp only [settling?, List.range_succ, List.find?_append, List.find?_singleton]

/-- A state that differs from one before only in what is known of one id. -/
theorem Follows.advance (h : Follows e script earlier counts s) (p : Parameter)
    {t : Substituted Cached}
    (hrequest : t.inner.exchange.request = s.inner.exchange.request)
    (hheld : t.held p.id = script.value? e earlier p.id (counts p.id + 1))
    (hasked : t.inner.exchange.asked.countP (·.id = p.id) =
      (script.settling? e earlier p.id (counts p.id + 1)).elim (counts p.id + 1) (· + 1))
    (hsupplied : t.supplied.count p.id = earlier p.id +
      (script.settling? e earlier p.id (counts p.id + 1)).elim 0 fun i =>
        e.drawn p.id (script p.id i))
    (hother : ∀ id, id ≠ p.id → t.held id = s.held id ∧
      t.inner.exchange.asked.countP (·.id = id) = s.inner.exchange.asked.countP (·.id = id) ∧
      t.supplied.count id = s.supplied.count id) :
    Follows e script earlier (count counts p) t := by
  have hsame : count counts p p.id = counts p.id + 1 := by simp [count]
  have hkept : ∀ id, id ≠ p.id → count counts p id = counts id := by
    intro id hid
    simp [count, Ne.symm hid]
  refine ⟨fun asked q => by rw [hrequest, h.answer_eq], fun id => ?_, fun id => ?_, fun id => ?_⟩
  · by_cases hid : id = p.id
    · rw [hid, hsame, hheld]
    · rw [hkept id hid, (hother id hid).1, h.held_eq]
  · by_cases hid : id = p.id
    · rw [hid, hsame, hasked]
    · rw [hkept id hid, (hother id hid).2.1, h.asked_eq]
  · by_cases hid : id = p.id
    · rw [hid, hsame, hsupplied]
    · rw [hkept id hid, (hother id hid).2.2, h.supplied_eq]

/-- The step lemma: one more retrieval of an id comes to its reply, and leaves the other ids where
they were. -/
theorem Follows.retrieve (h : Follows e script earlier counts s) (p : Parameter) :
    (s.retrieve e p).1 = script.reply e earlier p (counts p.id) ∧
      Follows e script earlier (count counts p) (s.retrieve e p).2 := by
  have hheld := h.held_eq p.id
  have hasked := h.asked_eq p.id
  have hsupplied := h.supplied_eq p.id
  have hsucc : script.settling? e earlier p.id (counts p.id + 1) =
      (script.settling? e earlier p.id (counts p.id)).or
        (if (e.settled? p.id (earlier p.id) (script p.id (counts p.id))).isSome
          then some (counts p.id) else none) := settling?_succ
  cases hset : script.settling? e earlier p.id (counts p.id) with
  | some i =>
      -- the id is settled already, so nothing is asked
      rw [hset, Option.some_or] at hsucc
      have hvalue : script.value? e earlier p.id (counts p.id + 1) =
          script.value? e earlier p.id (counts p.id) := by
        unfold value?
        rw [hsucc, hset]
      obtain ⟨v, hv⟩ : ∃ v, script.value? e earlier p.id (counts p.id) = some v := by
        have hs := (settling?_eq_some_iff.mp hset).2.1
        rw [← Endpoint.settled?_isSome_iff (earlier p.id), Option.isSome_iff_exists] at hs
        simpa [value?, hset] using hs
      rw [Substituted.retrieve_of_held (hheld.trans hv)]
      refine ⟨by simp [reply, hvalue, hv], h.advance p rfl ?_ ?_ ?_ fun id _ => ⟨rfl, rfl, rfl⟩⟩
      · rw [hvalue, hheld]
      · rw [hasked, hset, hsucc]
        rfl
      · rw [hsupplied, hset, hsucc]
  | none =>
      rw [hset, Option.none_or] at hsucc
      have hfree : s.held p.id = none := by rw [hheld, value?, hset, Option.bind_none]
      rw [hset, Option.elim_none] at hasked hsupplied
      have hout := h.answer_eq s.inner.exchange.asked p
      rw [hasked] at hout
      cases hs : e.settled? p.id (earlier p.id) (script p.id (counts p.id)) with
      | none =>
          simp only [hs, Option.isSome_none, Bool.false_eq_true, ↓reduceIte] at hsucc
          have hvalue : script.value? e earlier p.id (counts p.id + 1) = none := by
            rw [value?, hsucc, Option.bind_none]
          obtain ⟨d, hd, hr⟩ :=
            Substituted.retrieve_of_unsettled hfree hout (by rw [hsupplied]; exact hs)
          rw [hr]
          refine ⟨by simp [reply, hvalue, hd],
            h.advance p rfl ?_ ?_ ?_ fun id hid => ⟨rfl, ?_, rfl⟩⟩
          · rw [hvalue]
            exact hfree
          · rw [hsucc]
            simp [Exchange.decode, hasked]
          · rw [hsucc]
            exact hsupplied
          · simp [Exchange.decode, Ne.symm hid]
      | some v =>
          simp only [hs, Option.isSome_some, ↓reduceIte] at hsucc
          have hvalue : script.value? e earlier p.id (counts p.id + 1) = some v := by
            rw [value?, hsucc, Option.bind_some, hs]
          obtain ⟨t, hr, hx, hsup, ht⟩ :=
            Substituted.retrieve_of_settled hfree hout (by rw [hsupplied]; exact hs)
          rw [hr]
          refine ⟨by simp [reply, hvalue],
            h.advance p (by rw [hx]; rfl) ?_ ?_ ?_ fun id hid => ⟨?_, ?_, ?_⟩⟩
          · rw [hvalue, ht, if_pos rfl]
          · rw [hsucc, hx]
            simp [Exchange.decode, hasked]
          · rw [hsucc, hsup]
            simp [hsupplied, Nat.add_comm]
          · rw [ht, if_neg hid]
          · rw [hx]
            simp [Exchange.decode, Ne.symm hid]
          · rw [hsup]
            simp [List.count_replicate, Ne.symm hid]

/-- How many of some retrievals are of an id. -/
def attempts (ps : List Parameter) (id : ParameterId) : Nat := ps.countP (·.id = id)

theorem count_add_attempts (p : Parameter) (rest : List Parameter) (id : ParameterId) :
    count counts p id + attempts rest id = counts id + attempts (p :: rest) id := by
  simp only [count, attempts, List.countP_cons, decide_eq_true_eq]
  omega

/-- The run lemma. -/
theorem Follows.retrieveAll (h : Follows e script earlier counts s) (ps : List Parameter) :
    (∀ k p, ps[k]? = some p → (s.retrieveAll e ps).1[k]? =
      some (script.reply e earlier p (counts p.id + attempts (ps.take k) p.id))) ∧
    Follows e script earlier (fun id => counts id + attempts ps id) (s.retrieveAll e ps).2 := by
  induction ps generalizing s counts with
  | nil => exact ⟨fun k p hk => by simp at hk, h⟩
  | cons q rest ih =>
      obtain ⟨hresult, hnext⟩ := h.retrieve q
      obtain ⟨hrest, hlast⟩ := ih hnext
      constructor
      · intro k p hk
        cases k with
        | zero =>
            obtain rfl : q = p := by simpa using hk
            simp [Substituted.retrieveAll, hresult, attempts]
        | succ k =>
            have hp := hrest k p (by simpa using hk)
            rw [count_add_attempts] at hp
            exact hp
      · have hcounts : (fun id => count counts q id + attempts rest id) =
            fun id => counts id + attempts (q :: rest) id := funext (count_add_attempts q rest)
        rw [hcounts] at hlast
        exact hlast

/-! ## Replies -/

theorem reply_of_unsettled {p : Parameter} (h : ∀ i ≤ n, ¬e.Settles p.id (script p.id i)) :
    ∃ d, script p.id n = .error d ∧ script.reply e earlier p n = .error (e.unsettled p d) := by
  have hset : script.settling? e earlier p.id (n + 1) = none :=
    settling?_eq_none_iff.mpr fun j hj => h j (by omega)
  cases ho : script p.id n with
  | ok v => exact absurd (by rw [ho]; trivial) (h n (Nat.le_refl n))
  | error d => exact ⟨d, rfl, by simp [reply, value?, hset, ho]⟩

theorem reply_of_settled {p : Parameter} {v : Json}
    (hi : e.Settles p.id (script p.id i)) (hj : ∀ j < i, ¬e.Settles p.id (script p.id j))
    (hn : i ≤ n) (hv : e.settled? p.id (earlier p.id) (script p.id i) = some v) :
    script.reply e earlier p n = .ok v := by
  have hset : script.settling? e earlier p.id (n + 1) = some i :=
    settling?_eq_some_iff.mpr ⟨by omega, hi, hj⟩
  simp [reply, value?, hset, hv]

end Script

/-! ## Requests of a stream -/

namespace Stream

open Script

theorem follows_element {s : Stream} {x : Element} {script : Script} {metadata : Metadata}
    (hx : (s.next (script.raw metadata)).1 = .ok x) :
    Follows s.endpoint script (s.supplied.count ·) (fun _ => 0) x.request := by
  rw [(next_ok_iff.mp hx).2]
  exact ⟨fun _ _ => rfl, fun _ => rfl, fun _ => rfl, fun _ => rfl⟩

/-- Any sequence of retrievals from an accepted request. Up to the first outcome that settles an id
each retrieval of the id fails with the next outcome; from then on all of them give the same value.
The raw request is asked once for each retrieval up to that outcome, and a default at most once. -/
theorem retrievals_of_script {s : Stream} {x : Element} {script : Script} {metadata : Metadata}
    (hx : (s.next (script.raw metadata)).1 = .ok x) (ps : List Parameter) :
    (∀ k p, ps[k]? = some p →
      (∀ i ≤ attempts (ps.take k) p.id, ¬s.endpoint.Settles p.id (script p.id i)) →
      ∃ d err, script p.id (attempts (ps.take k) p.id) = .error d ∧
        (x.request.retrieveAll s.endpoint ps).1[k]? = some (.error err) ∧
        ((d.isAbsence = false ∨ ∃ q ∈ s.endpoint.parameters, q.id = p.id) →
          err.kind = .badInput ∧ err.decode = some d) ∧
        (d.isAbsence = true → (∀ q ∈ s.endpoint.parameters, q.id ≠ p.id) →
          err.kind = .internal ∧ err.decode = none)) ∧
    (∀ id i, s.endpoint.Settles id (script id i) →
      (∀ j < i, ¬s.endpoint.Settles id (script id j)) →
      ∃ v, (∀ w, script id i = .ok w → v = w) ∧
        (∀ d q, script id i = .error d → q ∈ s.endpoint.parameters → q.id = id →
          if q.isRequired then
            ∃ given, q.default = some given ∧ v = given.supply (s.supplied.count id)
          else v = .null) ∧
        (∀ k p, ps[k]? = some p → p.id = id → i ≤ attempts (ps.take k) id →
          (x.request.retrieveAll s.endpoint ps).1[k]? = some (.ok v)) ∧
        (x.request.retrieveAll s.endpoint ps).2.inner.exchange.asked.countP (·.id = id) =
          min (attempts ps id) (i + 1) ∧
        (x.request.retrieveAll s.endpoint ps).2.supplied.count id = s.supplied.count id +
          if i < attempts ps id then s.endpoint.drawn id (script id i) else 0) ∧
    ∀ id, (∀ i, ¬s.endpoint.Settles id (script id i)) →
      (x.request.retrieveAll s.endpoint ps).2.inner.exchange.asked.countP (·.id = id) =
        attempts ps id ∧
      (x.request.retrieveAll s.endpoint ps).2.supplied.count id = s.supplied.count id := by
  obtain ⟨hresults, hlast⟩ := (follows_element hx).retrieveAll ps
  simp only [Nat.zero_add] at hresults hlast
  refine ⟨fun k p hk hn => ?_, fun id i hi hj => ?_, fun id hn => ?_⟩
  · obtain ⟨d, hd, hreply⟩ := reply_of_unsettled hn
    refine ⟨d, _, hd, (hresults k p hk).trans (congrArg some hreply), ?_, ?_⟩
    · exact Endpoint.unsettled_badInput
    · exact Endpoint.unsettled_internal
  · obtain ⟨v, hv⟩ := Option.isSome_iff_exists.mp
      ((Endpoint.settled?_isSome_iff (s.supplied.count id) _).mpr hi)
    refine ⟨v, ?_, ?_, ?_, ?_⟩
    · intro w hw
      rw [hw] at hv
      exact (Option.some.inj hv).symm
    · rintro d q hd hq rfl
      rw [hd] at hv
      exact Endpoint.settled?_absence hq hv
    · rintro k p hk rfl hle
      exact (hresults k p hk).trans (congrArg some (reply_of_settled hi hj hle hv))
    · rw [hlast.asked_eq, hlast.supplied_eq]
      by_cases hlt : i < attempts ps id
      · rw [settling?_eq_some_iff.mpr ⟨hlt, hi, hj⟩, if_pos hlt]
        exact ⟨by simp only [Option.elim_some]; omega, rfl⟩
      · rw [settling?_eq_none_iff.mpr fun j h => hj j (by omega), if_neg hlt]
        exact ⟨by simp only [Option.elim_none]; omega, rfl⟩
  · rw [hlast.asked_eq, hlast.supplied_eq, settling?_eq_none_iff.mpr fun j _ => hn j]
    exact ⟨rfl, rfl⟩

/-- Every id is malformed first, then absent, then a number. -/
def unsteady : Script := fun _ n =>
  match n with
  | 0 => .error (.malformed "" "unreadable")
  | 1 => .error (.noEntry "")
  | n => .ok (.integer n)

/-- Absence settles the order, which has a default, but not the limit. -/
theorem unsteady_settles :
    ∃ x : Element, (({ endpoint := .search } : Stream).next (unsteady.raw {})).1 = .ok x ∧
      let ps : List Parameter := [.limit, .order, .limit, .order, .limit, .order, .limit]
      (∃ err, (x.request.retrieveAll .search ps).1[2]? = some (.error err) ∧
        err.decode = some (.noEntry "")) ∧
      (x.request.retrieveAll .search ps).1[5]? = some (.ok (.string "rising")) ∧
      (x.request.retrieveAll .search ps).2.inner.exchange.asked.countP
        (·.id = Parameter.order.id) = 2 := by
  have hx : (({ endpoint := .search } : Stream).next (unsteady.raw {})).1 =
    .ok (({ endpoint := .search } : Stream).element (unsteady.raw {})) := rfl
  refine ⟨_, hx, ?_⟩
  obtain ⟨hfail, hsettle, _⟩ := retrievals_of_script hx
    [.limit, .order, .limit, .order, .limit, .order, .limit]
  constructor
  · obtain ⟨d, err, hd, hr, hbad, _⟩ := hfail 2 .limit rfl (by decide)
    cases hd
    exact ⟨err, hr, (hbad (Or.inr ⟨.limit, .head _, rfl⟩)).2⟩
  · obtain ⟨v, _, hdefault, hall, hasked, _⟩ :=
      hsettle Parameter.order.id 1 (by decide) (by decide)
    obtain ⟨given, hg, rfl⟩ := hdefault (.noEntry "") .order rfl (.tail _ (.head _)) rfl
    cases hg
    exact ⟨hall 5 .order rfl rfl (by decide), hasked⟩

end Stream

end Intake
