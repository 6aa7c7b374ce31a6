import Intake.Proofs.Stream.Refinement

/-!
# Streams under other orders of declaration

Endpoints may declare the same parameters in different orders. Main statement: objects come to the
same over both but for the parameter that a rejection is about, and fix the same values.
-/

namespace Intake

open Reference

/-- Two endpoints that differ in the order of their parameters at most. -/
structure Endpoint.Reordered (e f : Endpoint) : Prop where
  name_eq : e.name = f.name
  pattern_eq : e.pattern = f.pattern
  parameters_perm : e.parameters.Perm f.parameters

namespace Endpoint.Reordered

variable {e f : Endpoint}

theorem mem_iff (h : e.Reordered f) {p : Parameter} : p ∈ e.parameters ↔ p ∈ f.parameters :=
  h.parameters_perm.mem_iff

theorem constantDefaults (h : e.Reordered f) (hd : e.ConstantDefaults) : f.ConstantDefaults :=
  fun p hp => hd p (h.mem_iff.mpr hp)

theorem parameter?_eq (h : e.Reordered f) : e.parameter? = f.parameter? := by
  funext id
  exact find?_eq_of_perm Parameter.id h.parameters_perm e.wellFormed.ids_distinct id

theorem named?_eq (h : e.Reordered f) : e.named? = f.named? := by
  funext name
  exact find?_eq_of_perm Parameter.name h.parameters_perm e.wellFormed.names_distinct name

end Endpoint.Reordered

namespace Reference

variable {e f : Endpoint} {known : Fixed} {body : Dictionary Json}

/-! ## Under another order -/

/-- What an object comes to at a place of two streams: the same but for the parameter that a
rejection is about. -/
inductive Agree (e : Endpoint) (known : Fixed) (body : Dictionary Json) (index : Nat) :
    Except Error (Dictionary Json) → Except Error (Dictionary Json) → Prop where
  | accepted (values : Dictionary Json) : Agree e known body index (.ok values) (.ok values)
  | violated {err err' : Error} : Violation e known body err → Violation e known body err' →
      Agree e known body index (.error (err.withIndex index)) (.error (err'.withIndex index))
  | lacking {err err' : Error} : Shortfall e body err → Shortfall e body err' →
      Agree e known body index (.error (err.withIndex index)) (.error (err'.withIndex index))

variable (h : e.Reordered f)

include h

theorem violation_reordered {err : Error} :
    Violation f known body err ↔ Violation e known body err := by
  simp only [violation_iff, h.mem_iff]

theorem Shortfall.reordered {err : Error} (hs : Shortfall f body err) : Shortfall e body err := by
  cases hs with
  | missing hp hrequired hnone hl ha => exact .missing (h.mem_iff.mpr hp) hrequired hnone hl ha
  | malformed hp hl ha => exact .malformed (h.mem_iff.mpr hp) hl ha

theorem rejection?_reordered :
    rejection? e known body = none ↔ rejection? f known body = none := by
  simp only [rejection?_eq_none_iff, h.mem_iff]

theorem values_reordered (body : Dictionary Json) : values e body = values f body := by
  refine Dictionary.Sorted.ext (Dictionary.sorted_ofList _) (Dictionary.sorted_ofList _)
    fun name => ?_
  rw [get?_values, get?_values, h.named?_eq]

theorem extend_reordered (known : Fixed) (body : Dictionary Json) :
    extend e known body = extend f known body := by
  unfold extend
  rw [h.parameter?_eq]

theorem after_reordered (known : Fixed) (body : Dictionary Json) :
    after e known body = after f known body := by
  have hsome : (rejection? e known body).isSome = (rejection? f known body).isSome := by
    rw [Bool.eq_iff_iff, Option.isSome_iff_ne_none, Option.isSome_iff_ne_none, ne_eq, ne_eq,
      rejection?_reordered h]
  unfold after
  rw [hsome, extend_reordered h]

theorem agree_reordered (known : Fixed) (index : Nat) (body : Dictionary Json) :
    Agree e known body index (outcome e known index body) (outcome f known index body) := by
  unfold outcome
  cases he : rejection? e known body with
  | none =>
      rw [(rejection?_reordered h).mp he, values_reordered h]
      exact .accepted _
  | some err =>
      cases hf : rejection? f known body with
      | none =>
          rw [(rejection?_reordered h).mpr hf] at he
          cases he
      | some err' =>
          obtain hv | ⟨hnone, hs⟩ := cases_of_rejection? he
          · obtain hv' | ⟨hnone', _⟩ := cases_of_rejection? hf
            · exact .violated hv ((violation_reordered h).mp hv')
            · exact absurd ((violation_reordered h).mpr hv) (hnone' err)
          · obtain hv' | ⟨_, hs'⟩ := cases_of_rejection? hf
            · exact absurd ((violation_reordered h).mp hv') (hnone err')
            · exact .lacking hs (hs'.reordered h)

end Reference

/-- Searches that declare their parameters the other way round. -/
def Endpoint.reversed : Endpoint :=
  ⟨"search", .clientStream, [.label, .order, .limit], (fault?_eq_none_iff _ _).mp (by decide)⟩

namespace Stream

variable {e f : Endpoint} {known : Fixed} {index : Nat} {s t : Stream}

/-- Streams that know the same come to the same at each place and know the same after it. -/
theorem Tracks.evaluateAll_reordered (hs : Tracks e known index s) (ht : Tracks f known index t)
    (h : e.Reordered f) (hm : e.pattern.acceptsMany = true) (hd : e.ConstantDefaults)
    {requests : List JsonRequest} {k : Nat} {r : JsonRequest} (hr : requests[k]? = some r) :
    ∃ v w, (s.evaluateAll Element.resolveAll (requests.map JsonRequest.raw))[k]? = some v ∧
      (t.evaluateAll Element.resolveAll (requests.map JsonRequest.raw))[k]? = some w ∧
      Agree e (fun id => (v.stream.constancy.record id).backup) r.body (index + k)
        v.result w.result ∧
      ∀ id, v.stream.constancy.record id = w.stream.constancy.record id := by
  induction requests generalizing s t known index k with
  | nil => cases hr
  | cons first rest ih =>
      have hopen : s.isOpen = true := by simp [isOpen, hs.endpoint_eq, hm]
      have hopen' : t.isOpen = true := by simp [isOpen, ht.endpoint_eq, ← h.pattern_eq, hm]
      have hd' := h.constantDefaults hd
      obtain ⟨hres, hs'⟩ := hs.evaluate hopen hd first
      obtain ⟨hres', ht'⟩ := ht.evaluate hopen' hd' first
      cases k with
      | zero =>
          cases hr
          refine ⟨_, _, rfl, rfl, ?_, fun id => ?_⟩
          · simp only [hs.record_evaluate hopen hd r]
            rw [hres, hres']
            exact agree_reordered h known index r.body
          · rw [hs.record_evaluate hopen hd, ht.record_evaluate hopen' hd', extend_reordered h]
      | succ k =>
          rw [← after_reordered h] at ht'
          have hrest := ih hs' ht' hr
          rw [Nat.add_right_comm, Nat.add_assoc] at hrest
          exact hrest

/-- The order in which an endpoint declares its parameters decides at most which of them a rejection
is about. -/
theorem evaluateAll_of_reordered {e f : Endpoint} (h : e.Reordered f)
    (hm : e.pattern.acceptsMany = true) (hd : e.ConstantDefaults) (requests : List JsonRequest)
    (k : Nat) (r : JsonRequest) (hr : requests[k]? = some r) :
    ∃ v w,
      (Stream.evaluateAll { endpoint := e } Element.resolveAll
        (requests.map JsonRequest.raw))[k]? = some v ∧
      (Stream.evaluateAll { endpoint := f } Element.resolveAll
        (requests.map JsonRequest.raw))[k]? = some w ∧
      Agree e (fun id => (v.stream.constancy.record id).backup) r.body k v.result w.result ∧
      ∀ id, v.stream.constancy.record id = w.stream.constancy.record id := by
  have h := (Tracks.new e).evaluateAll_reordered (Tracks.new f) h hm hd hr
  rw [Nat.zero_add] at h
  exact h

/-- The second object has no limit and a malformed order. -/
def flawed : List JsonRequest :=
  [{ body := [("limit", .integer 5)] }, { body := [("order", .bool true)] }]

/-- Of the two flaws of an object the one counts that is read first. -/
theorem evaluateAll_flawed :
    Endpoint.search.Reordered .reversed ∧ Endpoint.search.pattern.acceptsMany = true ∧
      Endpoint.search.ConstantDefaults ∧ flawed[1]? = some { body := [("order", .bool true)] } ∧
      ∃ v w,
        (Stream.evaluateAll { endpoint := .search } Element.resolveAll
          (flawed.map JsonRequest.raw))[1]? = some v ∧
        (Stream.evaluateAll { endpoint := .reversed } Element.resolveAll
          (flawed.map JsonRequest.raw))[1]? = some w ∧
        v.result = .error ((Parameter.limit.missing (.noEntry "limit")).withIndex 1) ∧
        w.result = .error ((Error.ofDecode
          (.malformed "order" "expected string, found boolean")).withIndex 1) ∧
        v.stream.constancy.record ⟨1⟩ = ⟨some (.integer 5), some (.integer 5)⟩ ∧
        ∀ id, v.stream.constancy.record id = w.stream.constancy.record id := by
  have hreversed : Endpoint.search.Reordered .reversed := ⟨rfl, rfl, (List.reverse_perm _).symm⟩
  obtain ⟨v, w, hv, hw, -, hrecord⟩ := evaluateAll_of_reordered hreversed rfl
    Endpoint.search_constantDefaults flawed 1 _ rfl
  refine ⟨hreversed, rfl, Endpoint.search_constantDefaults, rfl, v, w, hv, hw, ?_, ?_, ?_, hrecord⟩
  · cases hv
    rfl
  · cases hw
    rfl
  · cases hv
    rfl

end Stream

end Intake
