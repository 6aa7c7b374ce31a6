/-!
# Blank text

White space is the Unicode property White_Space. A text is blank when it holds nothing else, and
trimming takes white space off both ends. Main statement: a text is blank exactly when nothing is
left of it after trimming.
-/

namespace Intake.Text

/-- White space in the sense of the Unicode property White_Space. -/
def isSpace (c : Char) : Bool :=
  let n := c.toNat
  (0x09 ≤ n && n ≤ 0x0D) || n == 0x20 || n == 0x85 || n == 0xA0 || n == 0x1680
    || (0x2000 ≤ n && n ≤ 0x200A) || n == 0x2028 || n == 0x2029 || n == 0x202F || n == 0x205F
    || n == 0x3000

/-- A list of characters without the white space at its two ends. -/
def trimChars (cs : List Char) : List Char :=
  ((cs.dropWhile isSpace).reverse.dropWhile isSpace).reverse

/-- A text without the white space at its two ends. -/
def trim (s : String) : String := String.ofList (trimChars s.toList)

/-- A text is blank when it holds white space only. -/
def isBlank (s : String) : Bool := s.toList.all isSpace

theorem dropWhile_isSpace_eq_nil_iff (cs : List Char) :
    cs.dropWhile isSpace = [] ↔ cs.all isSpace = true := by
  induction cs with
  | nil => simp
  | cons c cs ih =>
      by_cases h : isSpace c
      · simp [h, ih]
      · simp [h]

theorem trimChars_eq_nil_iff (cs : List Char) : trimChars cs = [] ↔ cs.all isSpace = true := by
  simp only [trimChars, List.reverse_eq_nil_iff]
  rw [dropWhile_isSpace_eq_nil_iff, List.all_reverse, ← dropWhile_isSpace_eq_nil_iff cs]
  constructor
  · intro h
    cases hd : cs.dropWhile isSpace with
    | nil => rfl
    | cons c rest =>
        have hc := List.head_dropWhile_not (p := isSpace) (l := cs) (by simp [hd])
        simp [hd] at h hc
        simp [hc] at h
  · intro h; simp [h]

theorem trim_eq_empty_iff (s : String) : trim s = "" ↔ isBlank s = true := by
  rw [isBlank, ← trimChars_eq_nil_iff, trim]
  constructor
  · intro h; simpa using congrArg String.toList h
  · intro h; rw [h]

end Intake.Text
