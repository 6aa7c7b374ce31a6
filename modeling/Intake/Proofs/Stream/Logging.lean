import Intake.Proofs.Element.Plan
import Intake.Proofs.Endpoint.Registry
import Intake.Proofs.Stream.Reachable

/-!
# What is logged

Every retrieval that comes to a value is logged under the name of its parameter, whatever becomes of
the value afterwards. Main statement: after every action of a handler, the log of an element has the
names under which something was read from this element so far, each with what was read last.
-/

namespace Intake

/-! ## What was read last -/

namespace Occurrence

variable {o : Occurrence} {history : List Occurrence} {name : String} {v : Json}

/-- The value that was read under a name. -/
def value? (name : String) : Occurrence → Option Json
  | .retrieved p (.ok v) => if p.name = name then some v else none
  | .retrieved _ (.error _) => none
  | .misconverted _ _ => none
  | .noted => none

/-- The value that was read last under a name. -/
def latest (history : List Occurrence) (name : String) : Option Json :=
  history.reverse.findSome? (value? name)

/-- A value was read under a name, and nothing was read under it afterwards. -/
def ReadLast (history : List Occurrence) (name : String) (v : Json) : Prop :=
  ∃ earlier p later, history = earlier ++ .retrieved p (.ok v) :: later ∧ p.name = name ∧
    ∀ q w, .retrieved q (.ok w) ∈ later → q.name ≠ name

theorem value?_eq_some_iff :
    o.value? name = some v ↔ ∃ p, o = .retrieved p (.ok v) ∧ p.name = name := by
  cases o with
  | retrieved p result =>
      cases result with
      | ok w => simp [value?, and_comm]
      | error e => simp [value?]
  | misconverted p reason => simp [value?]
  | noted => simp [value?]

theorem latest_cons (o : Occurrence) (history : List Occurrence) (name : String) :
    latest (o :: history) name = (latest history name).or (o.value? name) := by
  simp only [latest, List.reverse_cons, List.findSome?_append, List.findSome?_singleton]

theorem latest_isSome_iff :
    (latest history name).isSome = true ↔ ∃ p v, .retrieved p (.ok v) ∈ history ∧ p.name = name := by
  rw [latest, List.findSome?_isSome_iff]
  simp only [List.mem_reverse, Option.isSome_iff_exists, value?_eq_some_iff]
  constructor
  · rintro ⟨_, ho, v, p, rfl, hp⟩
    exact ⟨p, v, ho, hp⟩
  · rintro ⟨p, v, ho, hp⟩
    exact ⟨_, ho, v, p, rfl, hp⟩

theorem latest_eq_some_iff : latest history name = some v ↔ ReadLast history name v := by
  rw [latest, List.findSome?_eq_some_iff]
  constructor
  · rintro ⟨later, o, earlier, hsplit, ho, hlater⟩
    obtain ⟨p, rfl, hp⟩ := value?_eq_some_iff.mp ho
    refine ⟨earlier.reverse, p, later.reverse, ?_, hp, fun q w hq hname => ?_⟩
    · rw [← List.reverse_reverse history, hsplit]
      simp
    · have hnone := hlater _ (List.mem_reverse.mp hq)
      simp [value?, hname] at hnone
  · rintro ⟨earlier, p, later, rfl, hp, hlater⟩
    refine ⟨later.reverse, _, earlier.reverse, by simp, value?_eq_some_iff.mpr ⟨p, rfl, hp⟩, ?_⟩
    intro o ho
    rw [Option.eq_none_iff_forall_ne_some]
    intro w hw
    obtain ⟨q, rfl, hq⟩ := value?_eq_some_iff.mp hw
    exact hlater q w (List.mem_reverse.mp ho) hq

end Occurrence

/-! ## The log under a history -/

namespace AccessLog

open Occurrence

/-- The log after something has happened. -/
def note (log : AccessLog) : Occurrence → AccessLog
  | .retrieved p (.ok v) => log.record p.name v
  | .retrieved _ (.error _) => log
  | .misconverted _ _ => log
  | .noted => log

variable (log : AccessLog) (history : List Occurrence)

theorem get?_note (o : Occurrence) (name : String) :
    Dictionary.get? (log.note o) name =
      ((o.value? name).map entry).or (Dictionary.get? log name) := by
  cases o with
  | retrieved p result =>
      cases result with
      | ok v =>
          rw [note, record, Dictionary.get?_insert, value?]
          by_cases hp : p.name = name
          · simp [hp]
          · simp [hp, Ne.symm hp]
      | error e => rfl
  | misconverted p reason => rfl
  | noted => rfl

theorem sorted_note (h : Dictionary.Sorted log) (o : Occurrence) :
    Dictionary.Sorted (log.note o) := by
  cases o with
  | retrieved p result =>
      cases result with
      | ok v => exact h.insert p.name (entry v)
      | error e => exact h
  | misconverted p reason => exact h
  | noted => exact h

theorem get?_foldl_note (name : String) :
    Dictionary.get? (history.foldl note log) name =
      ((latest history name).map entry).or (Dictionary.get? log name) := by
  induction history generalizing log with
  | nil => rfl
  | cons o rest ih =>
      rw [List.foldl_cons, ih, get?_note, latest_cons]
      cases latest rest name with
      | some v => rfl
      | none => rfl

theorem sorted_foldl_note (h : Dictionary.Sorted log) :
    Dictionary.Sorted (history.foldl note log) := by
  induction history generalizing log with
  | nil => exact h
  | cons o rest ih => exact ih _ (log.sorted_note h o)

variable {history}

theorem foldl_note_of_unread (h : ∀ p v, .retrieved p (.ok v) ∉ history) :
    history.foldl note log = log := by
  induction history with
  | nil => rfl
  | cons o rest ih =>
      have hrest := ih fun p v hmem => h p v (List.mem_cons_of_mem o hmem)
      cases o with
      | retrieved p result =>
          cases result with
          | ok v => exact absurd List.mem_cons_self (h p v)
          | error e => exact hrest
      | misconverted p reason => exact hrest
      | noted => exact hrest

end AccessLog

/-- A log develops as the history of its element says. -/
theorem Passes.log_eq {x y : Element} {history : List Occurrence} (h : Passes x history y) :
    y.log = history.foldl AccessLog.note x.log := by
  induction h with
  | nil x => rfl
  | @retrieved x y history p _ ih =>
      rw [ih, List.foldl_cons, Element.fetch_log]
      cases (x.fetch p).1 with
      | ok v => rfl
      | error e => rfl
  | misconverted p reason _ ih => exact ih
  | noted _ ih => exact ih
  | reported e _ ih => exact ih

/-! ## Documents -/

/-- What a document shows as read: the names, and under each the value that was read last, unless its
encoding is too large. -/
structure AccessLog.Shows (document : Json) (history : List Occurrence) : Prop where
  names : ∃ members, document.find? ["parameters"] = some (.object members) ∧
    Dictionary.Sorted members ∧
    ∀ name, name ∈ members.map Prod.fst ↔ ∃ p v, .retrieved p (.ok v) ∈ history ∧ p.name = name
  entries : ∀ name text, document.find? ["parameters", name] = some text ↔
    ∃ v, Occurrence.ReadLast history name v ∧
      text = .string (if maxBytes ≤ v.compact.utf8ByteSize then placeholder else v.compact)

theorem Element.find?_logMetadata (x : Element) (path : List String) :
    x.logMetadata.find? ("parameters" :: path) = (AccessLog.textObject x.log).find? path := by
  simp [logMetadata, AccessLog.metadata, Json.find?_ofMembers]

theorem Element.parameters_logMetadata (x : Element) :
    x.logMetadata.find? ["parameters"] = some (AccessLog.textObject x.log) := by
  rw [find?_logMetadata, Json.find?_nil]

theorem AccessLog.shows_of_passes {x y : Element} {history : List Occurrence}
    (hx : x.log = []) (h : Passes x history y) : Shows y.logMetadata history := by
  have hlog := h.log_eq
  rw [hx] at hlog
  have hget : ∀ name, Dictionary.get? y.log name =
      (Occurrence.latest history name).map AccessLog.entry := by
    intro name
    rw [hlog, get?_foldl_note]
    exact Option.or_none
  constructor
  · refine ⟨_, y.parameters_logMetadata, ?_, fun name => ?_⟩
    · have hsorted : Dictionary.Sorted y.log := by
        rw [hlog]
        exact sorted_foldl_note [] history .nil
      exact List.pairwise_map.mpr hsorted
    · rw [Dictionary.mem_map_fst_iff, ← Option.isSome_iff_exists, Dictionary.get?_map, hget,
        Option.isSome_map, Option.isSome_map, Occurrence.latest_isSome_iff]
  · intro name text
    rw [Element.find?_logMetadata, textObject, Json.find?, Dictionary.get?_map, hget]
    simp only [← Occurrence.latest_eq_some_iff]
    cases Occurrence.latest history name with
    | some v => simp [entry, eq_comm]
    | none => simp

/-! ## Calls -/

def Call.occurrences (c : Call) : List Occurrence := c.element.occurrences c.action

/-- The element after a call has passed through what happened in this call and those before it. -/
theorem Plan.passes_calls {α : Type} {plan : Plan α} {x : Element} {earlier later : List Call}
    {c : Call} (h : plan.calls x = earlier ++ c :: later) :
    Passes x ((earlier ++ [c]).flatMap Call.occurrences) (c.element.perform c.action).2 := by
  induction plan generalizing x earlier with
  | stop result =>
      rw [calls] at h
      simp at h
  | perform action next ih =>
      have hfirst := x.passes_perform action
      rw [calls] at h
      cases earlier with
      | nil =>
          obtain ⟨rfl, _⟩ := List.cons.inj h
          simpa [Call.occurrences] using hfirst
      | cons first rest =>
          obtain ⟨rfl, hrest⟩ := List.cons.inj h
          exact hfirst.append (ih _ hrest)

namespace Stream

/-- The log of an element begins empty, whatever was read before from others. After every action of a
handler it has the names under which a retrieval of this element came to a value, also one within a
reading of all parameters or under a failed conversion, and for each the latest such value. Where no
retrieval comes to a value, the log stays as it is. -/
theorem log_of_calls {α : Type} {s : Stream} {raw : RawRequest} {x : Element}
    (hx : (s.next raw).1 = .ok x) (plan : Plan α) :
    x.logMetadata.find? ["parameters"] = some (.object []) ∧
    (∀ earlier c later, plan.calls x = earlier ++ c :: later →
      AccessLog.Shows (c.element.perform c.action).2.logMetadata
        ((earlier ++ [c]).flatMap Call.occurrences)) ∧
    (∀ c ∈ plan.calls x, (∀ p v, .retrieved p (.ok v) ∉ c.occurrences) →
      (c.element.perform c.action).2.logMetadata.find? ["parameters"] =
        c.element.logMetadata.find? ["parameters"]) ∧
    ∀ (y : Element) (p : Parameter) (e : Error), (y.fetch p).1 = .error e →
      (y.fetch p).2.logMetadata.find? ["parameters"] = y.logMetadata.find? ["parameters"] := by
  have hstart : x.log = [] := by
    rw [(next_ok_iff.mp hx).2]
    rfl
  refine ⟨?_, ?_, ?_, ?_⟩
  · rw [x.parameters_logMetadata, hstart]
    rfl
  · intro earlier c later hcalls
    exact AccessLog.shows_of_passes hstart (Plan.passes_calls hcalls)
  · intro c _ hunread
    rw [Element.parameters_logMetadata, Element.parameters_logMetadata,
      (c.element.passes_perform c.action).log_eq]
    exact congrArg (fun log => some (AccessLog.textObject log))
      (AccessLog.foldl_note_of_unread _ hunread)
  · intro y p e he
    rw [Element.parameters_logMetadata, Element.parameters_logMetadata, Element.fetch_log, he]
    rfl

def wide : RawRequest := JsonRequest.raw { body := [("label", .string "wide")] }

/-- Takes the label for a truth value, which it is not, and reads on, although the limit is missing. -/
def careless : Plan Unit :=
  .perform (.typed "label" .truth) fun _ =>
    .perform .resolveAll fun result => .stop (result.map fun _ => ())

/-- Both readings fail, and what was read in them is logged. -/
theorem careless_logged :
    (({ endpoint := .search } : Stream).next wide).1 =
        .ok (({ endpoint := .search } : Stream).element wide) ∧
      ∃ first second, careless.calls (({ endpoint := .search } : Stream).element wide) =
          [first, second] ∧
        first.result.isOk = false ∧ second.result.isOk = false ∧
        (second.element.perform second.action).2.logMetadata.find? ["parameters", "order"] =
          some (.string "\"rising\"") ∧
        (second.element.perform second.action).2.logMetadata.find? ["parameters", "label"] =
          some (.string "\"wide\"") := by
  have hx : (({ endpoint := .search } : Stream).next wide).1 =
      .ok (({ endpoint := .search } : Stream).element wide) := rfl
  refine ⟨hx, _, _, rfl, rfl, rfl, ?_⟩
  obtain ⟨reason, e, h⟩ : ∃ reason e, AccessLog.Shows _
      [.retrieved .label (.ok (.string "wide")), .misconverted .label reason,
        .retrieved .limit (.error e), .retrieved .order (.ok (.string "rising")),
        .retrieved .label (.ok (.string "wide"))] :=
    ⟨_, _, (log_of_calls hx careless).2.1 [_] _ [] rfl⟩
  constructor
  · refine (h.entries _ _).mpr ⟨.string "rising", ⟨[_, _, _], .order, [_], rfl, rfl, ?_⟩, rfl⟩
    intro q w hq
    cases List.mem_singleton.mp hq
    decide
  · exact (h.entries _ _).mpr ⟨.string "wide", ⟨[_, _, _, _], .label, [], rfl, rfl, nofun⟩, rfl⟩

end Stream

end Intake
