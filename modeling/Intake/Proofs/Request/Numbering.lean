import Intake.Proofs.Inversion
import Intake.Proofs.Request.Batches
import Intake.Proofs.Text.Utf8

/-!
# Lines and their numbers

Main statement: a batch comes to one request for each line that is not blank, with the number of the
line in its metadata, or to the report of the first line that spells no object, with the number of
this line. After a line feed, reading goes on as at the beginning but for the numbers.
-/

namespace Intake.RequestLines

/-! ## Physical lines -/

/-- How bytes fall into lines. -/
inductive Lines : List UInt8 → List (List UInt8) → Prop where
  | empty : Lines [] []
  /-- What follows the last line feed is a line unless it is empty. -/
  | unended {line : List UInt8} : line ≠ [] → 10 ∉ line → Lines line [line]
  | feed {line rest : List UInt8} {lines : List (List UInt8)} : 10 ∉ line →
      line.getLast? ≠ some 13 → Lines rest lines → Lines (line ++ 10 :: rest) (line :: lines)
  /-- A carriage return right before a line feed belongs to the end. -/
  | returnFeed {line rest : List UInt8} {lines : List (List UInt8)} : 10 ∉ line →
      Lines rest lines → Lines (line ++ 13 :: 10 :: rest) (line :: lines)

theorem split_of_not_mem {line : List UInt8} (hne : line ≠ []) (h : 10 ∉ line) :
    split line = [line] := by
  have hsplit := splitFrom_append_of_not_mem h [] []
  rw [List.append_nil, List.append_nil, splitFrom] at hsplit
  rw [split, hsplit]
  simp [hne]

theorem lines_split (bytes : List UInt8) : Lines bytes (split bytes) := by
  by_cases h : 10 ∈ bytes
  · obtain ⟨line, rest, rfl, hline⟩ := List.eq_append_cons_of_mem h
    have hrest := lines_split rest
    by_cases hlast : line.getLast? = some 13
    · obtain ⟨init, rfl⟩ := List.getLast?_eq_some_iff.mp hlast
      have hinit : 10 ∉ init := fun hm => hline (List.mem_append_left _ hm)
      rw [List.append_assoc, List.singleton_append, split_return_append hinit]
      exact .returnFeed hinit hrest
    · rw [split_line_append hline hlast]
      exact .feed hline hlast hrest
  · by_cases hne : bytes = []
    · subst hne
      exact .empty
    · rw [split_of_not_mem hne h]
      exact .unended hne h
termination_by bytes.length

theorem lines_iff {bytes : List UInt8} {lines : List (List UInt8)} :
    Lines bytes lines ↔ split bytes = lines := by
  constructor
  · intro h
    induction h with
    | empty => rfl
    | unended hne hline => exact split_of_not_mem hne hline
    | feed hline hlast _ ih => rw [split_line_append hline hlast, ih]
    | returnFeed hline _ ih => rw [split_return_append hline, ih]
  · rintro rfl
    exact lines_split bytes

/-! ## Single lines -/

/-- A line of white space, of which there may be none. -/
def Blank (line : List UInt8) : Prop :=
  ∃ text, line = Text.Utf8.encode text ∧ ∀ c ∈ text.toList, Text.isSpace c = true

/-- A line is the text of a JSON object. -/
def Spells (line : List UInt8) (body : Dictionary Json) : Prop :=
  ∃ text, line = Text.Utf8.encode text ∧ Json.parse text = .ok (.object body)

/-- The report of a line that is no text, or the text of no object. -/
inductive Offends (number : Nat) (line : List UInt8) : Error → Prop where
  | notText {offset : Nat} (h : Text.Utf8.decode line = .error offset) :
      Offends number line
        { kind := .badInput
          message := some ("line " ++ toString number ++ " is not valid UTF-8")
          origin := ["invalid UTF-8 found at byte offset " ++ toString offset] }
  | notRequest {text : String} {e : Error} (h : line = Text.Utf8.encode text)
      (filled : ¬ Blank line) (parse : JsonRequest.parse text = .error e) :
      Offends number line
        { e with
          kind := .badInput
          hint := some
            ("Line " ++ toString number ++ " must hold one JSON object; fix it and re-run.") }

theorem isBlankLine_eq_true_iff {line : List UInt8} : isBlankLine line = true ↔ Blank line := by
  unfold isBlankLine Blank
  constructor
  · intro h
    split at h
    · cases h
    · rename_i text hd
      exact ⟨text, Text.Utf8.decode_eq_ok_iff.mp hd, List.all_eq_true.mp h⟩
  · rintro ⟨text, hline, h⟩
    rw [Text.Utf8.decode_eq_ok_iff.mpr hline]
    exact List.all_eq_true.mpr h

instance (line : List UInt8) : Decidable (Blank line) :=
  decidable_of_iff (isBlankLine line = true) isBlankLine_eq_true_iff

theorem readLine_eq_none_iff {line : List UInt8} : readLine line = .ok none ↔ Blank line := by
  rw [← isBlankLine_iff, isBlankLine_eq_true_iff]

section Lines

variable {line : List UInt8} {number : Nat} {err : Error}

theorem JsonRequest.parse_eq_ok_iff {text : String} {r : JsonRequest} :
    JsonRequest.parse text = .ok r ↔ ∃ body, Json.parse text = .ok (.object body) ∧ r = { body } := by
  unfold JsonRequest.parse
  cases hp : Json.parse text with
  | error flaw => simp
  | ok document => cases document <;> simp [JsonRequest.ofJson, eq_comm]

theorem readLine_of_spells {body : Dictionary Json} (hline : ¬ Blank line) (h : Spells line body) :
    readLine line = .ok (some { body }) := by
  obtain ⟨text, rfl, hp⟩ := h
  have hblank : Text.isBlank text = false :=
    Bool.eq_false_iff.mpr fun hb => hline ⟨text, rfl, List.all_eq_true.mp hb⟩
  exact readLine_of_parse hblank (JsonRequest.parse_eq_ok_iff.mpr ⟨body, hp, rfl⟩)

theorem spells_of_readLine {r : JsonRequest} (h : readLine line = .ok (some r)) :
    ¬ Blank line ∧ Spells line r.body := by
  refine ⟨fun hblank => ?_, ?_⟩
  · rw [readLine_eq_none_iff.mpr hblank] at h
    cases h
  · unfold readLine at h
    split at h
    · cases h
    · rename_i text hd
      split at h
      · cases h
      · split at h
        · rename_i hp
          cases h
          obtain ⟨body, hbody, rfl⟩ := JsonRequest.parse_eq_ok_iff.mp hp
          exact ⟨text, Text.Utf8.decode_eq_ok_iff.mp hd, hbody⟩
        · cases h

theorem exists_readLine_iff :
    (∃ read?, readLine line = .ok read?) ↔ Blank line ∨ ∃ body, Spells line body := by
  constructor
  · rintro ⟨read?, h⟩
    cases read? with
    | none => exact .inl (readLine_eq_none_iff.mp h)
    | some r => exact .inr ⟨r.body, (spells_of_readLine h).2⟩
  · intro h
    by_cases hblank : Blank line
    · exact ⟨none, readLine_eq_none_iff.mpr hblank⟩
    · obtain ⟨body, hbody⟩ := h.resolve_left hblank
      exact ⟨some { body }, readLine_of_spells hblank hbody⟩

theorem offends_iff :
    Offends number line err ↔ ∃ flaw, readLine line = .error flaw ∧ err = flaw.error number := by
  constructor
  · intro h
    cases h with
    | notText h => exact ⟨.notText _, by simp only [readLine, h], rfl⟩
    | @notRequest text e hd hline hp =>
        have hblank : ¬ Text.isBlank text := fun hb => hline ⟨text, hd, List.all_eq_true.mp hb⟩
        refine ⟨.notRequest e, ?_, ?_⟩
        · simp only [readLine, Text.Utf8.decode_eq_ok_iff.mpr hd, if_neg hblank, hp]
        · rw [Flaw.error, ← JsonRequest.parse_error_kind hp]
          rfl
  · rintro ⟨flaw, h, rfl⟩
    have hline : ¬ Blank line := fun hblank => by
      rw [readLine_eq_none_iff.mpr hblank] at h
      cases h
    unfold readLine at h
    split at h
    · rename_i offset hd
      cases h
      exact .notText hd
    · rename_i text hd
      split at h
      · cases h
      · split at h
        · cases h
        · rename_i e hp
          cases h
          have hoffends : Offends number line _ :=
            .notRequest (Text.Utf8.decode_eq_ok_iff.mp hd) hline hp
          rw [← JsonRequest.parse_error_kind hp] at hoffends
          exact hoffends

end Lines

/-! ## Batches -/

section Batches

variable {source : String} {base : Metadata} {number : Nat} {err : Error}

/-- A request is that of a line with a number. -/
def Answers (source : String) (base : Metadata) (line : List UInt8 × Nat) (r : JsonRequest) : Prop :=
  Spells line.1 r.body ∧
    r.metadata =
      { base with
        information := base.information.insert "line" (toString line.2)
        description := source ++ ":" ++ toString line.2 }

section Equations

variable {line : List UInt8} (rest : List (List UInt8))

theorem readFrom_of_error {flaw : Flaw} (h : readLine line = .error flaw) :
    readFrom source base number (line :: rest) = .error (flaw.error number) := by
  simp only [readFrom, h]

theorem readFrom_of_none (h : readLine line = .ok none) :
    readFrom source base number (line :: rest) = readFrom source base (number + 1) rest := by
  simp only [readFrom, h]

theorem readFrom_of_some {r : JsonRequest} (h : readLine line = .ok (some r)) :
    readFrom source base number (line :: rest) =
      (readFrom source base (number + 1) rest).map
        ({ r with metadata := metadata source base number } :: ·) := by
  simp only [readFrom, h]
  cases readFrom source base (number + 1) rest <;> rfl

end Equations

variable {lines : List (List UInt8)}

theorem readFrom_eq_ok_iff {requests : List JsonRequest} :
    readFrom source base number lines = .ok requests ↔
      List.Forall₂ (Answers source base) ((lines.zipIdx number).filter (¬ Blank ·.1)) requests := by
  induction lines generalizing number requests with
  | nil => simp [readFrom, eq_comm]
  | cons line rest ih =>
      rw [List.zipIdx_cons]
      by_cases hblank : Blank line
      · rw [List.filter_cons_of_neg (by simpa using hblank), ← ih,
          readFrom_of_none rest (readLine_eq_none_iff.mpr hblank)]
      · rw [List.filter_cons_of_pos (by simpa using hblank), List.forall₂_cons_left_iff]
        constructor
        · intro h
          cases hl : readLine line with
          | error flaw =>
              rw [readFrom_of_error rest hl] at h
              cases h
          | ok read? =>
              cases read? with
              | none => exact absurd (readLine_eq_none_iff.mp hl) hblank
              | some r =>
                  rw [readFrom_of_some rest hl, map_eq_ok_iff] at h
                  obtain ⟨others, hothers, rfl⟩ := h
                  exact ⟨{ r with metadata := metadata source base number }, others,
                    ⟨(spells_of_readLine hl).2, rfl⟩, ih.mp hothers, rfl⟩
        · rintro ⟨r, others, ⟨hspells, hmetadata⟩, hothers, rfl⟩
          rw [readFrom_of_some rest (readLine_of_spells hblank hspells), map_eq_ok_iff]
          refine ⟨others, ih.mpr hothers, ?_⟩
          cases r
          cases hmetadata
          rfl

theorem exists_readFrom_iff :
    (∃ requests, readFrom source base number lines = .ok requests) ↔
      ∀ line ∈ lines, ∃ read?, readLine line = .ok read? := by
  induction lines generalizing number with
  | nil => simp [readFrom]
  | cons line rest ih =>
      rw [List.forall_mem_cons, ← @ih (number + 1)]
      cases hl : readLine line with
      | error flaw => simp [readFrom_of_error rest hl]
      | ok read? =>
          cases read? with
          | none => simp [readFrom_of_none rest hl]
          | some r => simp [readFrom_of_some rest hl, map_eq_ok_iff]

theorem FirstFlaw.readFrom (h : FirstFlaw number lines err) :
    readFrom source base number lines = .error err := by
  obtain ⟨earlier, line, later, flaw, rfl, hearlier, hline, rfl⟩ := h
  induction earlier generalizing number with
  | nil => exact readFrom_of_error later hline
  | cons first earlier ih =>
      obtain ⟨⟨read?, hfirst⟩, hearlier⟩ := List.forall_mem_cons.mp hearlier
      have hrest := @ih (number + 1) hearlier
      rw [Nat.add_right_comm, Nat.add_assoc, ← List.length_cons (a := first)] at hrest
      rw [List.cons_append]
      cases read? with
      | none => rw [readFrom_of_none _ hfirst, hrest]
      | some r =>
          rw [readFrom_of_some _ hfirst, hrest]
          rfl

theorem readFrom_eq_error_iff :
    readFrom source base number lines = .error err ↔ FirstFlaw number lines err := by
  refine ⟨fun h => ?_, FirstFlaw.readFrom⟩
  obtain ⟨flawed, hflaw, hread⟩ | ⟨_, _, hread⟩ := readFrom_cases number lines
  · rw [hread source base] at h
    cases h
    exact hflaw
  · obtain ⟨requests, hok, _⟩ := hread source base
    rw [hok] at h
    cases h

theorem firstFlaw_iff :
    FirstFlaw number lines err ↔ ∃ earlier line later, lines = earlier ++ line :: later ∧
      (∀ l ∈ earlier, Blank l ∨ ∃ body, Spells l body) ∧
      Offends (number + earlier.length) line err := by
  simp only [FirstFlaw, exists_readLine_iff, offends_iff, exists_and_left]

/-! ## After a line feed -/

theorem splitFrom_feed (current first rest : List UInt8) :
    splitFrom current (first ++ 10 :: rest) =
      splitFrom current (first ++ [10]) ++ split rest := by
  induction first generalizing current with
  | nil => simp [splitFrom, split]
  | cons b first ih =>
      by_cases hb : b = 10
      · simp [splitFrom, hb, ih]
      · simp [splitFrom, hb, ih]

theorem length_splitFrom_feed (current first : List UInt8) :
    (splitFrom current (first ++ [10])).length = (first ++ [10]).count 10 := by
  induction first generalizing current with
  | nil => simp [splitFrom]
  | cons b first ih =>
      by_cases hb : b = 10
      · simp [splitFrom, hb, ih]
      · simp [splitFrom, hb, ih]

theorem readFrom_append (lines rest : List (List UInt8)) :
    readFrom source base number (lines ++ rest) =
      (readFrom source base number lines).bind fun requests =>
        (readFrom source base (number + lines.length) rest).map (requests ++ ·) := by
  induction lines generalizing number with
  | nil => cases h : readFrom source base number rest <;> simp [readFrom, h, Except.bind, Except.map]
  | cons line lines ih =>
      have hrest := @ih (number + 1)
      rw [Nat.add_right_comm, Nat.add_assoc, ← List.length_cons (a := line)] at hrest
      rw [List.cons_append]
      cases hl : readLine line with
      | error flaw =>
          rw [readFrom_of_error _ hl, readFrom_of_error _ hl]
          rfl
      | ok read? =>
          cases read? with
          | none => rw [readFrom_of_none _ hl, readFrom_of_none _ hl, hrest]
          | some r =>
              rw [readFrom_of_some _ hl, readFrom_of_some _ hl, hrest]
              cases readFrom source base (number + 1) lines with
              | error e => rfl
              | ok requests =>
                  cases readFrom source base (number + (line :: lines).length) rest <;> rfl

/-- The same outcome of a batch, with the numbers of its lines raised. -/
inductive Raised (source : String) (base : Metadata) (n : Nat) :
    Except Error (List JsonRequest) → Except Error (List JsonRequest) → Prop where
  | error (flaw : Flaw) (number : Nat) :
      Raised source base n (.error (flaw.error number)) (.error (flaw.error (number + n)))
  | ok {requests raised : List JsonRequest} :
      List.Forall₂
        (fun r r' => ∃ number, r.metadata = metadata source base number ∧
          r' = { r with metadata := metadata source base (number + n) })
        requests raised →
      Raised source base n (.ok requests) (.ok raised)

theorem raised_readFrom (n : Nat) : Raised source base n (readFrom source base number lines)
    (readFrom source base (number + n) lines) := by
  induction lines generalizing number with
  | nil => exact .ok .nil
  | cons line rest ih =>
      have hrest := @ih (number + 1)
      rw [Nat.add_right_comm] at hrest
      cases hl : readLine line with
      | error flaw =>
          rw [readFrom_of_error _ hl, readFrom_of_error _ hl]
          exact .error flaw number
      | ok read? =>
          cases read? with
          | none =>
              rw [readFrom_of_none _ hl, readFrom_of_none _ hl]
              exact hrest
          | some r =>
              rw [readFrom_of_some _ hl, readFrom_of_some _ hl]
              generalize readFrom source base (number + 1) rest = outcome at hrest ⊢
              generalize readFrom source base (number + n + 1) rest = raised at hrest ⊢
              cases hrest with
              | error flaw k => exact .error flaw k
              | ok h => exact .ok (.cons ⟨number, rfl, rfl⟩ h)

end Batches

/-- A batch comes to the requests of its lines or to the report of the first that offends; what
stands after a line feed comes to what it is by itself, with its numbers raised. -/
theorem read_exact (source : String) (base : Metadata) (bytes : List UInt8) :
    (∀ lines, Lines bytes lines ↔ split bytes = lines) ∧
    ((∃ requests, read source base bytes = .ok requests) ↔
      ∀ line ∈ split bytes, ¬ Blank line → ∃ body, Spells line body) ∧
    (∀ requests, read source base bytes = .ok requests ↔
      List.Forall₂ (Answers source base) (((split bytes).zipIdx 1).filter (¬ Blank ·.1)) requests) ∧
    (∀ err, read source base bytes = .error err ↔
      ∃ earlier line later, split bytes = earlier ++ line :: later ∧
        (∀ l ∈ earlier, Blank l ∨ ∃ body, Spells l body) ∧
        Offends (1 + earlier.length) line err) ∧
    ∀ first rest, ∃ outcome,
      Raised source base ((first ++ [10]).count 10) (read source base rest) outcome ∧
      read source base (first ++ [10] ++ rest) =
        (read source base (first ++ [10])).bind fun requests => outcome.map (requests ++ ·) := by
  refine ⟨fun lines => lines_iff, ?_, fun requests => readFrom_eq_ok_iff, fun err => ?_,
    fun first rest => ?_⟩
  · simp only [read, exists_readFrom_iff, exists_readLine_iff, or_iff_not_imp_left]
  · exact readFrom_eq_error_iff.trans firstFlaw_iff
  · refine ⟨readFrom source base (1 + (first ++ [10]).count 10) (split rest),
      raised_readFrom _, ?_⟩
    rw [read, List.append_assoc, List.singleton_append, split, splitFrom_feed, readFrom_append,
      length_splitFrom_feed]
    rfl

-- The second line is one no-break space, the fourth a stray byte after a space.
example : read "stdin" {} [123, 125, 13, 10, 0xC2, 0xA0, 10, 123, 125, 10, 32, 0xFF] = .error
    { kind := .badInput, message := some "line 4 is not valid UTF-8"
      origin := ["invalid UTF-8 found at byte offset 1"] } := by
  cbv

example : (read "stdin" {} [123, 125, 13, 10, 0xC2, 0xA0, 10, 123, 125]).map
    (·.map (·.metadata.description)) = .ok ["stdin:1", "stdin:3"] := by
  cbv

end Intake.RequestLines
