import Intake.Request
import Intake.Text.Blank
import Intake.Text.Utf8

/-!
# Requests on lines

A batch of requests holds one JSON object a line. A line ends at a line feed, and a carriage return
right before it belongs to the end; what follows the last line feed is a line too unless it is
empty. Lines of white space are skipped but counted. The first line that is no request refuses the
whole batch. Main statements: whichever of the two ends follows a line, it is split off and the rest
is split as before.
-/

namespace Intake.RequestLines

/-! ## Lines -/

/-- A finished line, whose bytes stand latest first, without the carriage return at its end. -/
def finish : List UInt8 → List UInt8
  | [] => []
  | b :: rest => if b = 13 then rest.reverse else (b :: rest).reverse

/-- The lines of the bytes to come, after those of the current line, latest first. -/
def splitFrom (current : List UInt8) : List UInt8 → List (List UInt8)
  | [] => if current.isEmpty then [] else [current.reverse]
  | b :: rest =>
      if b = 10 then finish current :: splitFrom [] rest else splitFrom (b :: current) rest

def split (bytes : List UInt8) : List (List UInt8) := splitFrom [] bytes

/-! ## Reading -/

/-- Why a line is no request. -/
inductive Flaw where
  /-- No text starts after this many bytes. -/
  | notText (offset : Nat)
  /-- The text is no JSON object. -/
  | notRequest (e : Error)

/-- The report of a flaw in the line with a number. -/
def Flaw.error (number : Nat) : Flaw → Error
  | .notText offset =>
      { Error.badInput ("line " ++ toString number ++ " is not valid UTF-8") with
        origin := ["invalid UTF-8 found at byte offset " ++ toString offset] }
  | .notRequest e =>
      e.withHint ("Line " ++ toString number ++ " must hold one JSON object; fix it and re-run.")

/-- The request of a line; a blank line has none. -/
def readLine (line : List UInt8) : Except Flaw (Option JsonRequest) :=
  match Text.Utf8.decode line with
  | .error offset => .error (.notText offset)
  | .ok text =>
      if Text.isBlank text then .ok none
      else match JsonRequest.parse text with
        | .ok r => .ok (some r)
        | .error e => .error (.notRequest e)

/-- What is known about the request on the line with a number. -/
def metadata (source : String) (base : Metadata) (number : Nat) : Metadata :=
  { base.withInformation "line" (toString number) with
    description := source ++ ":" ++ toString number }

/-- The requests of lines of which the first has the given number. -/
def readFrom (source : String) (base : Metadata) (number : Nat) :
    List (List UInt8) → Except Error (List JsonRequest)
  | [] => .ok []
  | line :: rest =>
      match readLine line with
      | .error flaw => .error (flaw.error number)
      | .ok none => readFrom source base (number + 1) rest
      | .ok (some r) => do
          let others ← readFrom source base (number + 1) rest
          .ok ({ r with metadata := metadata source base number } :: others)

/-- The requests of a batch, each with the metadata of its line. Lines are numbered from 1. -/
def read (source : String) (base : Metadata) (bytes : List UInt8) :
    Except Error (List JsonRequest) :=
  readFrom source base 1 (split bytes)

/-! ## Lemmas -/

theorem splitFrom_append_of_not_mem {line : List UInt8} (h : 10 ∉ line)
    (current rest : List UInt8) :
    splitFrom current (line ++ rest) = splitFrom (line.reverse ++ current) rest := by
  induction line generalizing current with
  | nil => rfl
  | cons b line ih =>
      have hb : b ≠ 10 := fun e => h (e ▸ List.mem_cons_self)
      simp [splitFrom, hb, ih fun m => h (List.mem_cons_of_mem _ m)]

theorem finish_return (line : List UInt8) : finish (13 :: line.reverse) = line := by
  simp [finish]

theorem finish_reverse {line : List UInt8} (h : line.getLast? ≠ some 13) :
    finish line.reverse = line := by
  cases hr : line.reverse with
  | nil => simpa [finish] using hr
  | cons b rest =>
      have hl : line = rest.reverse ++ [b] := by
        rw [← List.reverse_reverse line, hr, List.reverse_cons]
      have hb : b ≠ 13 := by
        intro e
        apply h
        simp [hl, e]
      simp [finish, hb, hl]

theorem split_line_append {line : List UInt8} (h : 10 ∉ line) (hr : line.getLast? ≠ some 13)
    (rest : List UInt8) : split (line ++ 10 :: rest) = line :: split rest := by
  simp [split, splitFrom_append_of_not_mem h, splitFrom, finish_reverse hr]

theorem split_return_append {line : List UInt8} (h : 10 ∉ line) (rest : List UInt8) :
    split (line ++ 13 :: 10 :: rest) = line :: split rest := by
  rw [split, splitFrom_append_of_not_mem h]
  simp [splitFrom, split, finish_return]

end Intake.RequestLines
