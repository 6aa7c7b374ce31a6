import Intake.Proofs.Server.Agreement

/-!
# What a check tells

A check takes the place on a line from its own count, the place in a notice from the rejection, and
its exit code from another count. Main statement: lines, notices and exit code tell the same, over
endpoints of every pattern.
-/

namespace Intake

/-! ## Lines and notices -/

/-- What a result line says of its request: accepted or rejected. -/
def ResultLine.ok? (line : Json) : Option Bool :=
  match line.find? ["ok"] with
  | some (.bool b) => some b
  | _ => none

/-- A notice, as the document that is printed, is about the request that a line rejects. -/
structure Notice.About (n : Notice) (line : Json) : Prop where
  rejected : ResultLine.ok? line = some false
  index_eq : ∃ index : Nat, line.find? ["index"] = some (.integer index) ∧
    n.toJson.find? ["notice", "details", "index"] = some (.integer index)
  message_eq : ∃ message, line.find? ["error", "message"] = some (.string message) ∧
    n.toJson.find? ["notice", "message"] = some (.string message)
  parameter_eq : n.toJson.find? ["notice", "details", "parameter"] =
    line.find? ["error", "parameter"]

/-- The outputs of a check of some number of requests tell the same. -/
structure Check.Consistent (c : Check) (count : Nat) : Prop where
  length_eq : c.lines.length = count
  index_eq : ∀ (k : Nat) (line : Json), c.lines[k]? = some line →
    line.find? ["index"] = some (.integer k) ∧ (ResultLine.ok? line).isSome = true
  about : List.Forall₂ Notice.About c.notices (c.lines.filter (ResultLine.ok? · = some false))
  exitCode_eq_zero_iff : c.exitCode = 0 ↔ ∀ line ∈ c.lines, ResultLine.ok? line = some true
  exitCode_eq_four_iff : c.exitCode = 4 ↔ ∃ line ∈ c.lines, ResultLine.ok? line = some false

theorem ResultLine.ok?_ofResult (index : Nat) (result : Except Error (Dictionary Json)) :
    ok? (ofResult index result) = some result.isOk := by
  cases result with
  | ok values => simp [ok?, ofResult, accepted, Json.find?_ofMembers]; rfl
  | error e => simp [ok?, ofResult, rejected, Json.find?_ofMembers]; rfl

theorem ResultLine.find?_index (index : Nat) (result : Except Error (Dictionary Json)) :
    (ofResult index result).find? ["index"] = some (.integer index) := by
  cases result with
  | ok values => simp [ofResult, accepted, Json.find?_ofMembers]
  | error e => simp [ofResult, rejected, Json.find?_ofMembers]

theorem Error.find?_body (e : Error) :
    e.body.find? ["message"] = some (.string e.messageText) ∧
      e.body.find? ["parameter"] = e.parameter.map .string := by
  constructor
  · simp [body, Json.find?_ofPresent]
  · simp [body, Json.find?_ofPresent]

theorem Notice.find?_toJson (n : Notice) :
    n.toJson.find? ["notice", "message"] = some (.string n.message) ∧
      ∀ key, n.toJson.find? ["notice", "details", key] = n.details.get? key := by
  constructor
  · simp [toJson, Json.find?_ofMembers]
  · simp [toJson, Json.find?_ofMembers, Json.find?]

theorem Check.get?_details (e : Endpoint) (time : String) (rejection : Error) :
    (notice e time rejection).details.get? "index" = rejection.index.map (fun i => .integer i) ∧
      (notice e time rejection).details.get? "parameter" = rejection.parameter.map .string := by
  unfold notice
  cases rejection.index <;> cases rejection.parameter <;>
    simp [Dictionary.ofList, Dictionary.get?_insert, Dictionary.get?]

/-- The notice of a rejection that is about a place is one about the line of this place. -/
theorem Check.about_notice (e : Endpoint) (time : String) {rejection : Error} {index : Nat}
    (h : rejection.index = some index) :
    (notice e time rejection).About (ResultLine.ofResult index (.error rejection)) := by
  have herror : ∀ key, (ResultLine.ofResult index (.error rejection)).find? ["error", key] =
      rejection.body.find? [key] := by
    intro key
    simp [ResultLine.ofResult, ResultLine.rejected, Json.find?_ofMembers]
  obtain ⟨hmessage, hparameter⟩ := rejection.find?_body
  obtain ⟨hprinted, hdetails⟩ := (notice e time rejection).find?_toJson
  refine ⟨ResultLine.ok?_ofResult index (.error rejection), ⟨index, ?_, ?_⟩,
    ⟨rejection.messageText, ?_, hprinted⟩, ?_⟩
  · exact ResultLine.find?_index index (.error rejection)
  · rw [hdetails, (get?_details e time rejection).1, h]
    rfl
  · rw [herror, hmessage]
  · rw [hdetails, (get?_details e time rejection).2, herror, hparameter]

/-! ## Places of rejections -/

/-- A rejection is about the place at which its request came. -/
theorem Stream.index_of_evaluate {s : Stream} {raw : RawRequest} {err : Error}
    (h : (s.evaluate raw Element.resolveAll).result = .error err) :
    err.index = some s.received := by
  cases hn : (s.next raw).1 with
  | error refused =>
      rw [Stream.evaluate, visit_of_error hn] at h
      cases h
      rw [next_error hn]
      rfl
  | ok x =>
      obtain ⟨e, he, rfl⟩ := evaluate_eq_error hn h
      have hindex := Element.index_of_resolveAll he
      rw [(next_ok_iff.mp hn).2] at hindex
      unfold Error.withIndexIfNone
      rw [hindex]
      exact hindex

theorem Stream.index_of_evaluateAll {s : Stream} {raws : List RawRequest} {k : Nat} {err : Error}
    (h : ((s.evaluateAll Element.resolveAll raws).map Evaluation.result)[k]? = some (.error err)) :
    err.index = some (s.received + k) := by
  induction raws generalizing s k with
  | nil => cases h
  | cons raw rest ih =>
      cases k with
      | zero => exact index_of_evaluate (Option.some.inj h)
      | succ k =>
          have hrest := ih (s := (s.evaluate raw Element.resolveAll).stream) h
          rw [received_evaluate, Nat.add_right_comm] at hrest
          exact hrest

namespace Check

variable {e : Endpoint} {time : String} {index : Nat}
  {results : List (Except Error (Dictionary Json))}

/-- The notices of results of which each rejection is about its place. -/
theorem about_ofResults
    (h : ∀ (k : Nat) err, results[k]? = some (.error err) → err.index = some (index + k)) :
    List.Forall₂ Notice.About (ofResults e time index results).notices
      ((ofResults e time index results).lines.filter (ResultLine.ok? · = some false)) := by
  induction results generalizing index with
  | nil => exact .nil
  | cons result rest ih =>
      have hrest := @ih (index + 1) fun k err hk => by
        rw [Nat.add_right_comm]
        exact h (k + 1) err hk
      have hok := ResultLine.ok?_ofResult index result
      cases result with
      | ok values =>
          show List.Forall₂ Notice.About (ofResults e time (index + 1) rest).notices
            (List.filter _ (ResultLine.ofResult index (.ok values) ::
              (ofResults e time (index + 1) rest).lines))
          rw [List.filter_cons_of_neg (by rw [hok]; exact Bool.false_ne_true)]
          exact hrest
      | error rejection =>
          show List.Forall₂ Notice.About (notice e time rejection ::
              (ofResults e time (index + 1) rest).notices)
            (List.filter _ (ResultLine.ofResult index (.error rejection) ::
              (ofResults e time (index + 1) rest).lines))
          rw [List.filter_cons_of_pos (by rw [hok]; rfl)]
          exact .cons (about_notice e time (h 0 rejection rfl)) hrest

theorem getElem?_lines_run (requests : List JsonRequest) (k : Nat) :
    (run e time requests).lines[k]? =
      (Check.results e requests)[k]?.map (ResultLine.ofResult k) := by
  rw [lines_run, List.getElem?_map, List.getElem?_zipIdx, Option.map_map, Nat.zero_add]
  rfl

theorem ok?_of_mem_lines {requests : List JsonRequest} {line : Json}
    (h : line ∈ (run e time requests).lines) :
    ResultLine.ok? line = some true ∨ ResultLine.ok? line = some false := by
  obtain ⟨k, hk⟩ := List.mem_iff_getElem?.mp h
  rw [getElem?_lines_run] at hk
  obtain ⟨result, _, rfl⟩ := Option.map_eq_some_iff.mp hk
  rw [ResultLine.ok?_ofResult]
  cases result.isOk with
  | true => exact .inl rfl
  | false => exact .inr rfl

/-- The count of rejected requests is that of the notices. -/
theorem rejected_ofResults (e : Endpoint) (time : String) (index : Nat)
    (results : List (Except Error (Dictionary Json))) :
    (ofResults e time index results).rejected =
      (ofResults e time index results).notices.length := by
  induction results generalizing index with
  | nil => rfl
  | cons result rest ih =>
      cases result with
      | ok values => exact ih (index + 1)
      | error rejection => exact congrArg (· + 1) (ih (index + 1))

theorem exitCode_iff (c : Check) :
    (c.exitCode = 0 ↔ c.rejected = 0) ∧ (c.exitCode = 4 ↔ c.rejected ≠ 0) := by
  unfold exitCode
  split
  · rename_i h
    simp [h]
  · rename_i h
    simp [h, ErrorKind.exitCode]

theorem consistent_run (e : Endpoint) (time : String) (requests : List JsonRequest) :
    (run e time requests).Consistent requests.length := by
  have habout : List.Forall₂ Notice.About (run e time requests).notices
      ((run e time requests).lines.filter (ResultLine.ok? · = some false)) :=
    about_ofResults fun k err hk => Stream.index_of_evaluateAll hk
  -- the count is that of the notices, of which there is one for each rejected line
  have hrejected : (run e time requests).rejected = 0 ↔
      ∀ line ∈ (run e time requests).lines, ¬ ResultLine.ok? line = some false := by
    have hcount : (run e time requests).rejected = (run e time requests).notices.length :=
      rejected_ofResults e time 0 (results e requests)
    rw [hcount, habout.length_eq, List.length_eq_zero_iff, List.filter_eq_nil_iff]
    simp only [decide_eq_true_eq]
  obtain ⟨hzero, hfour⟩ := (run e time requests).exitCode_iff
  refine ⟨length_run e time requests, fun k line hline => ⟨?_, ?_⟩, habout, ?_, ?_⟩
  · rw [getElem?_lines_run] at hline
    obtain ⟨result, _, rfl⟩ := Option.map_eq_some_iff.mp hline
    exact ResultLine.find?_index k result
  · rcases ok?_of_mem_lines (List.mem_of_getElem? hline) with h | h <;> rw [h] <;> rfl
  · rw [hzero, hrejected]
    refine forall₂_congr fun line hline => ?_
    rcases ok?_of_mem_lines hline with h | h <;> simp [h]
  · rw [hfour, ne_eq, hrejected]
    simp only [not_forall, not_not, exists_prop]

end Check

/-! ## The command -/

/-- Over every endpoint, what a check of the requests of a batch comes to tells the same in its
lines, its notices and its exit code, and the command to check prints just this. -/
theorem Command.check_consistent {source : String} {bytes : List UInt8}
    {requests : List JsonRequest}
    (hread : RequestLines.read source (({} : Metadata).withInformation "source" source) bytes =
      .ok requests) :
    (∀ (e : Endpoint) (time : String),
      (Check.run e time requests).Consistent requests.length) ∧
    ∀ (w : Surroundings) (path : String) (input : Option String) (color : ColorMode)
      (e : Endpoint), w.endpoint path = .ok e → w.batch input = .ok (source, bytes) →
      runInvocation w { color, command := .check path input } = .done
        { exitCode := (Check.run e w.time requests).exitCode
          output := (Check.run e w.time requests).lines.map Json.compact
          errors := (Check.run e w.time requests).notices.map
            (Outcome.noticeText (w.setting color)) } := by
  refine ⟨fun e time => Check.consistent_run e time requests, ?_⟩
  intro w path input color e he hinput
  rw [runInvocation_check he hinput, hread]

/-- Describes an endpoint that takes one request, with records written as arrays. -/
def lookupText : String := "[\"lookup\",\"request-response\",[[\"limit\",\"integer\"]]]"

/-- Surroundings that hold the description and the batch of searches. -/
def lookupSurroundings : Surroundings :=
  { searchSurroundings 1 with description := fun _ => .ok (Text.Utf8.encode lookupText) }

def lookup : Endpoint :=
  ⟨"lookup", .requestResponse, [{ Parameter.limit with mutability := .variable }],
    (Endpoint.fault?_eq_none_iff _ _).mp (by decide)⟩

theorem parse_lookupText : Description.parse lookupText =
    .ok ⟨"lookup", .requestResponse, [{ name := "limit", kind := .integer }]⟩ := by
  cbv

theorem endpoint_lookupSurroundings : lookupSurroundings.endpoint "lookup.json" = .ok lookup :=
  Surroundings.endpoint_of_parse rfl parse_lookupText

/-- The requests of the batch: a limit on the first line, nothing on the third. -/
def lookups : List JsonRequest :=
  let base := ({} : Metadata).withInformation "source" "stdin"
  [⟨[("limit", .integer 5)], RequestLines.metadata "stdin" base 1⟩,
    ⟨[], RequestLines.metadata "stdin" base 3⟩]

/-- The second request is refused because it is the second. -/
theorem Command.check_lookup :
    RequestLines.read "stdin" (({} : Metadata).withInformation "source" "stdin") searchBatch =
        .ok lookups ∧
      lookupSurroundings.endpoint "lookup.json" = .ok lookup ∧
      lookupSurroundings.batch none = .ok ("stdin", searchBatch) ∧
      ∃ (refused : Json) (notice : Notice), refused.find? ["index"] = some (.integer 1) ∧
        notice.About refused ∧
        runInvocation lookupSurroundings { command := .check "lookup.json" none } = .done
          { exitCode := 4
            output :=
              [(ResultLine.accepted 0 [("limit", .integer 5)]).compact, refused.compact]
            errors := [notice.toJson.compact] } := by
  have hread : RequestLines.read "stdin" (({} : Metadata).withInformation "source" "stdin")
      searchBatch = .ok lookups := read_searchBatch "stdin" _
  have hinput : lookupSurroundings.batch none = .ok ("stdin", searchBatch) := rfl
  obtain ⟨hconsistent, hcommand⟩ := check_consistent hread
  have hcheck := hconsistent lookup ""
  have hprinted := hcommand lookupSurroundings "lookup.json" none .auto lookup
    endpoint_lookupSurroundings hinput
  have hlines : (Check.run lookup "" lookups).lines =
      [ResultLine.ofResult 0 (.ok [("limit", .integer 5)]),
        ResultLine.ofResult 1 (.error ({ endpoint := lookup, received := 1 } : Stream).refusal)] :=
    rfl
  have habout := hcheck.about
  rw [hlines, List.filter_cons_of_neg (by rw [ResultLine.ok?_ofResult]; exact Bool.false_ne_true),
    List.filter_cons_of_pos (by rw [ResultLine.ok?_ofResult]; rfl), List.filter_nil] at habout
  obtain ⟨notice, rest, hnotice, hrest, hnotices⟩ := List.forall₂_cons_right_iff.mp habout
  obtain rfl := List.forall₂_nil_right_iff.mp hrest
  have hcode : (Check.run lookup "" lookups).exitCode = 4 := by
    rw [hcheck.exitCode_eq_four_iff, hlines]
    exact ⟨_, List.mem_cons_of_mem _ List.mem_cons_self, hnotice.rejected⟩
  refine ⟨hread, endpoint_lookupSurroundings, hinput, _, notice, ResultLine.find?_index 1 _,
    hnotice, hprinted.trans ?_⟩
  show Command.Result.done
    ⟨(Check.run lookup "" lookups).exitCode, (Check.run lookup "" lookups).lines.map Json.compact,
      (Check.run lookup "" lookups).notices.map (Outcome.noticeText _)⟩ = _
  rw [hcode, hlines, hnotices]
  rfl

end Intake
