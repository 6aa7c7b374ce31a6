import Intake.Description
import Intake.Proofs.Endpoint.Registration
import Intake.Proofs.Inversion
import Intake.Proofs.Stream.Refinement

/-!
# Streams under other ids

Endpoints of one description differ in the ids of their parameters at most. Main statement: objects
come to the same results over both, whatever the pattern is and wherever the objects come from.
-/

namespace Intake

/-! ## Endpoints of one description -/

/-- A parameter without an id of its own. -/
def Parameter.anonymous (p : Parameter) : Parameter := { p with id := ⟨0⟩ }

/-- Two endpoints that differ in the ids of their parameters at most. -/
structure Endpoint.Alike (e f : Endpoint) : Prop where
  name_eq : e.name = f.name
  pattern_eq : e.pattern = f.pattern
  parameters_eq : e.parameters.map Parameter.anonymous = f.parameters.map Parameter.anonymous

namespace Description

/-- The parameter that a description describes but for its id. -/
def anonymous (d : ParameterDescription) : Parameter :=
  ⟨⟨0⟩, d.name, d.kind, d.necessity, d.mutability, d.default.map .fixed⟩

variable {ids : Nat → ParameterId} {d : Description} {e : Endpoint}

theorem parameter_ok {id : ParameterId} {d : ParameterDescription} {p : Parameter}
    (h : parameter id d = .ok p) : p.anonymous = anonymous d := by
  unfold anonymous
  unfold parameter at h
  cases hd : d.default with
  | none =>
      rw [hd] at h
      cases h
      rfl
  | some v =>
      simp only [hd] at h
      split at h
      · cases h
        rfl
      · cases h

theorem parameterList_ok {place : Nat} {ds : List ParameterDescription} {ps : List Parameter}
    (h : parameterList ids place ds = .ok ps) : ps.map Parameter.anonymous = ds.map anonymous := by
  induction ds generalizing place ps with
  | nil =>
      cases h
      rfl
  | cons d rest ih =>
      rw [parameterList, bind_eq_ok_iff] at h
      obtain ⟨p, hp, h⟩ := h
      obtain ⟨others, hr, h⟩ := bind_eq_ok_iff.mp h
      cases h
      rw [List.map_cons, List.map_cons, parameter_ok hp, ih hr]

theorem toEndpoint_ok (h : d.toEndpoint ids = .ok e) :
    e.name = d.name ∧ e.pattern = d.pattern ∧
      e.parameters.map Parameter.anonymous = d.parameters.map anonymous := by
  rw [toEndpoint, bind_eq_ok_iff] at h
  obtain ⟨ps, hp, h⟩ := h
  split at h
  · rename_i made hmade
    obtain ⟨hname, hpattern, rfl⟩ := Endpoint.make_eq_ok_iff.mp hmade
    cases h
    exact ⟨hname, hpattern, parameterList_ok hp⟩
  · cases h

theorem toEndpoint_constantDefaults (h : d.toEndpoint ids = .ok e) : e.ConstantDefaults := by
  intro p hp given hg
  have hmem := List.mem_map_of_mem (f := Parameter.anonymous) hp
  rw [(toEndpoint_ok h).2.2] at hmem
  obtain ⟨described, _, hd⟩ := List.mem_map.mp hmem
  have hdefault : described.default.map .fixed = p.default := congrArg Parameter.default hd
  rw [hg] at hdefault
  obtain ⟨v, _, rfl⟩ := Option.map_eq_some_iff.mp hdefault
  exact ⟨v, rfl⟩

end Description

namespace Reference

variable {e f : Endpoint} {fixed fixed' : Fixed}

/-! ## What the reference semantics knows -/

/-- The parameters without their ids, each with the value that it is fixed to. -/
def view (e : Endpoint) (fixed : Fixed) : List (Parameter × Option Json) :=
  e.parameters.map fun p => (p.anonymous, fixed p.id)

/-- The report of a body at a place where the endpoint takes none. -/
def refusal (e : Endpoint) (index : Nat) : Error :=
  ({ endpoint := e, received := index } : Stream).refusal

/-- What the bodies from a place of the stream on come to where the pattern may refuse them. A
refused body fixes nothing. -/
def replies (e : Endpoint) (fixed : Fixed) (index : Nat) : List (Dictionary Json) →
    List (Except Error (Dictionary Json))
  | [] => []
  | body :: rest =>
      if index = 0 ∨ e.pattern.acceptsMany = true then
        outcome e fixed index body :: replies e (after e fixed body) (index + 1) rest
      else .error (refusal e index) :: replies e fixed (index + 1) rest

end Reference

namespace Stream

open Reference

variable {e f : Endpoint} {known : Fixed} {index : Nat} {s : Stream}

/-- A refused request leaves everything as it is, but it is counted. -/
theorem Tracks.refuse (h : Tracks e known index s) (ho : s.isOpen = false) (raw : RawRequest) :
    (s.evaluate raw Element.resolveAll).result = .error (Reference.refusal e index) ∧
      Tracks e known (index + 1) (s.evaluate raw Element.resolveAll).stream := by
  unfold Stream.evaluate
  rw [visit_of_closed ho]
  obtain ⟨rfl, rfl, horder, hstand⟩ := h
  exact ⟨rfl, rfl, rfl, horder, hstand⟩

/-- A stream of objects comes to what the reference semantics says, also where it refuses some. -/
theorem Tracks.replies (h : Tracks e known index s) (hd : e.ConstantDefaults)
    (requests : List JsonRequest) :
    (s.evaluateAll Element.resolveAll (requests.map JsonRequest.raw)).map Evaluation.result =
      Reference.replies e known index (requests.map JsonRequest.body) := by
  induction requests generalizing s known index with
  | nil => rfl
  | cons r rest ih =>
      simp only [List.map_cons, Stream.evaluateAll, Reference.replies]
      split
      · rename_i hopen
        obtain ⟨hres, hnext⟩ := h.evaluate
          (by simpa [isOpen, h.endpoint_eq, h.received_eq] using hopen) hd r
        rw [hres, ih hnext]
      · rename_i hclosed
        obtain ⟨hres, hnext⟩ := h.refuse
          (by simpa [isOpen, h.endpoint_eq, h.received_eq] using hclosed) r.raw
        rw [hres, ih hnext]

end Stream

end Intake
