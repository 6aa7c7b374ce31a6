import Intake.Proofs.Text.Utf8
import Intake.Request.Lines
import Mathlib.Data.List.Forall2

/-!
# Batches

What is read from a batch depends on its bytes alone, but for the metadata of the requests. Main
statement: a batch comes to the bodies on those of its lines that are not blank, or it is refused
for the first line that is no request, whatever is known about where it came from.
-/

namespace Intake

theorem JsonRequest.parse_error_kind {text : String} {e : Error} (h : parse text = .error e) :
    e.kind = .badInput := by
  unfold parse at h
  split at h
  · cases h
    rfl
  · rename_i document _
    cases document <;> cases h <;> rfl

namespace RequestLines

/-- A line of white space. -/
def isBlankLine (line : List UInt8) : Bool :=
  match Text.Utf8.decode line with
  | .error _ => false
  | .ok text => Text.isBlank text

/-- The lines of a batch that are not blank. -/
def filled (bytes : List UInt8) : List (List UInt8) :=
  (split bytes).filter fun line => !isBlankLine line

/-- A line holds a request with a body. -/
def Holds (line : List UInt8) (body : Dictionary Json) : Prop :=
  ∃ r, readLine line = .ok (some r) ∧ r.body = body

theorem isBlankLine_iff {line : List UInt8} :
    isBlankLine line = true ↔ readLine line = .ok none := by
  unfold isBlankLine readLine
  cases Text.Utf8.decode line with
  | error offset => simp
  | ok text =>
      cases hb : Text.isBlank text with
      | true => simp [hb]
      | false => cases hp : JsonRequest.parse text <;> simp [hb, hp]

theorem readLine_of_isBlank {text : String} (h : Text.isBlank text = true) :
    readLine (Text.Utf8.encode text) = .ok none := by
  simp only [readLine, Text.Utf8.decode_encode, h, if_true]

theorem readLine_of_parse {text : String} {r : JsonRequest} (hb : Text.isBlank text = false)
    (h : JsonRequest.parse text = .ok r) :
    readLine (Text.Utf8.encode text) = .ok (some r) := by
  simp only [readLine, Text.Utf8.decode_encode, hb, h, Bool.false_eq_true, if_false]

theorem Flaw.kind_error {line : List UInt8} {flaw : Flaw} (h : readLine line = .error flaw)
    (number : Nat) : (flaw.error number).kind = .badInput := by
  unfold readLine at h
  split at h
  · cases h
    rfl
  · split at h
    · cases h
    · split at h
      · cases h
      · rename_i e he
        cases h
        exact (JsonRequest.parse_error_kind he : e.kind = .badInput)

/-- The first line that is no request, and its number if the first line has the given one. -/
def FirstFlaw (number : Nat) (lines : List (List UInt8)) (err : Error) : Prop :=
  ∃ earlier line later flaw, lines = earlier ++ line :: later ∧
    (∀ l ∈ earlier, ∃ r, readLine l = .ok r) ∧ readLine line = .error flaw ∧
    err = flaw.error (number + earlier.length)

variable {number : Nat} {lines : List (List UInt8)} {err : Error}

theorem FirstFlaw.cons (h : FirstFlaw (number + 1) lines err) {line : List UInt8}
    {r : Option JsonRequest} (hl : readLine line = .ok r) :
    FirstFlaw number (line :: lines) err := by
  obtain ⟨earlier, flawed, later, flaw, rfl, he, hf, rfl⟩ := h
  refine ⟨line :: earlier, flawed, later, flaw, rfl, ?_, hf, ?_⟩
  · rw [List.forall_mem_cons]
    exact ⟨⟨r, hl⟩, he⟩
  · rw [List.length_cons, Nat.add_right_comm, Nat.add_assoc]

/-- What the lines from a number on come to, whatever is known about the batch. -/
theorem readFrom_cases (number : Nat) (lines : List (List UInt8)) :
    (∃ err, FirstFlaw number lines err ∧
      ∀ source base, readFrom source base number lines = .error err) ∨
    (∃ bodies, List.Forall₂ Holds (lines.filter fun line => !isBlankLine line) bodies ∧
      ∀ source base, ∃ requests, readFrom source base number lines = .ok requests ∧
        requests.map JsonRequest.body = bodies) := by
  induction lines generalizing number with
  | nil => exact .inr ⟨[], .nil, fun _ _ => ⟨[], rfl, rfl⟩⟩
  | cons line rest ih =>
      cases hl : readLine line with
      | error flaw =>
          refine .inl ⟨flaw.error number, ⟨[], line, rest, flaw, rfl, nofun, hl, rfl⟩, ?_⟩
          intro source base
          simp only [readFrom, hl]
      | ok read? =>
          rcases ih (number + 1) with ⟨err, hflaw, hread⟩ | ⟨bodies, hbodies, hread⟩
          · refine .inl ⟨err, hflaw.cons hl, fun source base => ?_⟩
            cases read? with
            | none => simp only [readFrom, hl, hread]
            | some r =>
                simp only [readFrom, hl, hread]
                rfl
          · cases read? with
            | none =>
                refine .inr ⟨bodies, ?_, fun source base => ?_⟩
                · simpa [List.filter_cons, isBlankLine_iff.mpr hl] using hbodies
                · simp only [readFrom, hl]
                  exact hread source base
            | some r =>
                have hline : isBlankLine line = false := by
                  rw [← Bool.not_eq_true, isBlankLine_iff, hl]
                  nofun
                refine .inr ⟨r.body :: bodies, ?_, fun source base => ?_⟩
                · simpa [List.filter_cons, hline] using ⟨⟨r, hl, rfl⟩, hbodies⟩
                · obtain ⟨requests, hok, rfl⟩ := hread source base
                  simp only [readFrom, hl, hok]
                  exact ⟨_, rfl, rfl⟩

end RequestLines

end Intake
