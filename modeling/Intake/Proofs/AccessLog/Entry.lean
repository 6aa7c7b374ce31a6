import Mathlib.Data.String.Basic
import Intake.AccessLog

/-!
# Entries of access logs

An entry is the encoding of a value as a whole, or the placeholder. Main statements: the size of the
encoding decides which of the two it is, an encoding of exactly 8 KiB is left out, and no encoding
reads like the placeholder.
-/

namespace Intake

/-! ## Characters of encodings -/

namespace Json

/-- The characters that numbers are written with. -/
def isNumeric (c : Char) : Bool := c.isDigit || ['.', 'e', '+', '-'].contains c

variable {c : Char}

theorem isNumeric_of_isDigit (h : c.isDigit = true) : isNumeric c = true := by
  rw [isNumeric, h, Bool.true_or]

theorem isNumeric_of_mem_toDigits {n : Nat} (h : c ∈ Nat.toDigits 10 n) : isNumeric c = true :=
  isNumeric_of_isDigit (Nat.isDigit_of_mem_toDigits (by decide) (by decide) h)

theorem isNumeric_of_mem_replicate {n : Nat} (h : c ∈ List.replicate n '0') :
    isNumeric c = true := by
  rw [(List.mem_replicate.mp h).2]
  rfl

theorem isNumeric_of_mem_shortest {code : Nat} (h : c ∈ (Double.shortest code).digits) :
    isNumeric c = true := by
  unfold Double.shortest at h
  dsimp only at h
  split at h
  · rename_i n m _
    have hdropped : c ∈ (Nat.toDigits 10 m).reverse :=
      (List.dropWhile_sublist _).mem (List.mem_reverse.mp h)
    exact isNumeric_of_mem_toDigits (List.mem_reverse.mp hdropped)
  · rw [List.mem_singleton.mp h]
    rfl

variable {d : Double.Decimal}

theorem isNumeric_of_mem_placePoint (hd : ∀ c ∈ d.digits, isNumeric c = true)
    (h : c ∈ placePoint d) : isNumeric c = true := by
  unfold placePoint at h
  split at h
  · simp only [List.mem_append, List.mem_cons, List.not_mem_nil, or_false] at h
    rcases h with ((rfl | rfl) | h) | h
    · rfl
    · rfl
    · exact isNumeric_of_mem_replicate h
    · exact hd c h
  · have hdigits : ∀ c ∈ d.digits ++
        List.replicate (d.exponent.toNat + 1 - d.digits.length) '0', isNumeric c = true := by
      intro c hc
      rcases List.mem_append.mp hc with hc | hc
      · exact hd c hc
      · exact isNumeric_of_mem_replicate hc
    dsimp only at h
    rw [List.mem_append, List.mem_cons] at h
    rcases h with h | rfl | h
    · exact hdigits c (List.mem_of_mem_take h)
    · rfl
    · split at h
      · rw [List.mem_singleton.mp h]
        rfl
      · exact hdigits c (List.mem_of_mem_drop h)

theorem isNumeric_of_mem_scientific (hd : ∀ c ∈ d.digits, isNumeric c = true)
    (h : c ∈ scientific d) : isNumeric c = true := by
  unfold scientific at h
  dsimp only at h
  rw [List.mem_append, List.mem_cons, List.mem_cons] at h
  rcases h with h | rfl | rfl | h
  · -- the digits, with a point after the first if there are more
    split at h
    · cases h
    · rename_i hdigits
      exact hd c (hdigits ▸ h)
    · rename_i first rest _ hdigits
      rw [List.mem_cons, List.mem_cons] at h
      rcases h with rfl | rfl | h
      · exact hd _ (hdigits ▸ List.mem_cons_self)
      · rfl
      · exact hd c (hdigits ▸ List.mem_cons_of_mem _ h)
  · rfl
  · split <;> rfl
  · exact isNumeric_of_mem_toDigits h

theorem isNumeric_of_mem_integerText {i : Int} (h : c ∈ (integerText i).toList) :
    isNumeric c = true := by
  unfold integerText at h
  rw [String.toList_ofList] at h
  split at h
  · rcases List.mem_cons.mp h with rfl | h
    · rfl
    · exact isNumeric_of_mem_toDigits h
  · exact isNumeric_of_mem_toDigits h

theorem isNumeric_of_mem_floatText {x : Double} (h : c ∈ (floatText x).toList) :
    isNumeric c = true := by
  have hmagnitude : c = '-' ∨ c ∈ ['0', '.', '0'] ∨ c ∈ placePoint (Double.shortest x.code) ∨
      c ∈ scientific (Double.shortest x.code) := by
    unfold floatText at h
    rw [String.toList_ofList] at h
    grind
  rcases hmagnitude with rfl | h | h | h
  · rfl
  · simp only [List.mem_cons, List.not_mem_nil, or_false] at h
    rcases h with rfl | rfl | rfl <;> rfl
  · exact isNumeric_of_mem_placePoint (fun _ => isNumeric_of_mem_shortest) h
  · exact isNumeric_of_mem_scientific (fun _ => isNumeric_of_mem_shortest) h

end Json

namespace AccessLog

/-- No encoding reads like the placeholder: the placeholder begins with a capital letter. -/
theorem compact_ne_placeholder (v : Json) : v.compact ≠ placeholder := by
  have hnumeric : ∀ s : String, (∀ c ∈ s.toList, Json.isNumeric c = true) → s ≠ placeholder := by
    rintro s hs rfl
    exact absurd (hs 'P' (by decide)) (by decide)
  intro h
  cases v with
  | null => exact absurd h (by decide)
  | bool b => cases b <;> exact absurd h (by decide)
  | integer i => exact hnumeric _ (fun _ => Json.isNumeric_of_mem_integerText) h
  | float x => exact hnumeric _ (fun _ => Json.isNumeric_of_mem_floatText) h
  | string s =>
      have hlist := congrArg String.toList h
      simp [Json.compact, Json.quoted, placeholder] at hlist
  | array items =>
      have hlist := congrArg String.toList h
      simp [Json.compact, placeholder] at hlist
  | object members =>
      have hlist := congrArg String.toList h
      simp [Json.compact, placeholder] at hlist

/-! ## Sizes of encodings -/

/-- A text without characters to escape has its two quotes more. -/
theorem utf8ByteSize_quoted {s : String} (h : ∀ c ∈ s.toList, Json.escapeChar c = [c]) :
    (Json.quoted s).utf8ByteSize = s.utf8ByteSize + 2 := by
  have hescaped : s.toList.flatMap Json.escapeChar = s.toList := by
    rw [List.flatMap_congr h, List.flatMap_singleton']
  have hsize : String.utf8Len s.toList = s.utf8ByteSize := by
    rw [← String.utf8ByteSize_ofList, String.ofList_toList]
  rw [Json.quoted, hescaped, String.utf8ByteSize_ofList, List.cons_append, String.utf8Len_cons,
    String.utf8Len_append, hsize]
  rfl

theorem utf8Len_replicate (n : Nat) : String.utf8Len (List.replicate n 'x') = n := by
  induction n with
  | zero => rfl
  | succ n ih =>
      rw [List.replicate_succ, String.utf8Len_cons, ih]
      rfl

/-- A text whose encoding has exactly 8 KiB. -/
def brimful : Json := .string (String.ofList (List.replicate 8190 'x'))

theorem utf8ByteSize_brimful : brimful.compact.utf8ByteSize = 8192 := by
  have hplain : ∀ c ∈ (String.ofList (List.replicate 8190 'x')).toList,
      Json.escapeChar c = [c] := by
    intro c hc
    rw [String.toList_ofList] at hc
    rw [List.eq_of_mem_replicate hc]
    rfl
  rw [brimful, Json.compact, utf8ByteSize_quoted hplain, String.utf8ByteSize_ofList,
    utf8Len_replicate]

/-! ## Entries -/

theorem get?_record (log : AccessLog) (name : String) (v : Json) :
    Dictionary.get? (log.record name v) name = some (entry v) := by
  rw [record, Dictionary.get?_insert, if_pos rfl]

theorem entry_of_le {v : Json} (h : maxBytes ≤ v.compact.utf8ByteSize) : entry v = placeholder :=
  if_pos h

theorem entry_of_lt {v : Json} (h : v.compact.utf8ByteSize < maxBytes) : entry v = v.compact :=
  if_neg (Nat.not_le.mpr h)

theorem entry_eq_compact_iff (v : Json) :
    entry v = v.compact ↔ v.compact.utf8ByteSize < maxBytes := by
  refine ⟨fun h => ?_, entry_of_lt⟩
  by_contra hlarge
  rw [entry_of_le (Nat.not_lt.mp hlarge)] at h
  exact compact_ne_placeholder v h.symm

theorem entry_eq_placeholder_iff (v : Json) :
    entry v = placeholder ↔ maxBytes ≤ v.compact.utf8ByteSize := by
  refine ⟨fun h => ?_, entry_of_le⟩
  by_contra hsmall
  rw [entry_of_lt (Nat.not_le.mp hsmall)] at h
  exact compact_ne_placeholder v h

/-- What is stored for a value is its whole encoding if that has fewer than 8192 bytes, and is the
placeholder if it has more or just as many; the two are never the same. So exactly the encodings of
8192 bytes are left out without being larger. -/
theorem record_exact (log : AccessLog) (name : String) (v : Json) :
    (Dictionary.get? (log.record name v) name = some v.compact ↔ v.compact.utf8ByteSize < 8192) ∧
    (Dictionary.get? (log.record name v) name = some "Parameter data too large" ↔
      8192 ≤ v.compact.utf8ByteSize) ∧
    v.compact ≠ "Parameter data too large" ∧
    (((Dictionary.get? (log.record name v) name = some v.compact ↔
          v.compact.utf8ByteSize ≤ 8192) ∧
        (Dictionary.get? (log.record name v) name = some "Parameter data too large" ↔
          8192 < v.compact.utf8ByteSize)) ↔
      v.compact.utf8ByteSize ≠ 8192) := by
  have hne : v.compact ≠ placeholder := compact_ne_placeholder v
  have hwhole : Dictionary.get? (log.record name v) name = some v.compact ↔
      v.compact.utf8ByteSize < 8192 := by
    rw [get?_record, Option.some.injEq]
    exact entry_eq_compact_iff v
  have hreplaced : Dictionary.get? (log.record name v) name = some "Parameter data too large" ↔
      8192 ≤ v.compact.utf8ByteSize := by
    rw [get?_record, Option.some.injEq]
    exact entry_eq_placeholder_iff v
  refine ⟨hwhole, hreplaced, hne, ?_⟩
  rw [hwhole, hreplaced]
  omega

/-- A value whose encoding is not larger than 8 KiB may be left out. -/
theorem brimful_left_out :
    brimful.compact.utf8ByteSize ≤ 8192 ∧
      Dictionary.get? (record [] "blob" brimful) "blob" = some "Parameter data too large" ∧
      ¬ ∀ (log : AccessLog) (name : String) (v : Json),
        Dictionary.get? (log.record name v) name = some v.compact ↔
          v.compact.utf8ByteSize ≤ 8192 := by
  have hsize := utf8ByteSize_brimful
  have hentry : entry brimful = placeholder := entry_of_le (Nat.le_of_eq hsize.symm)
  refine ⟨Nat.le_of_eq hsize, by rw [get?_record, hentry]; rfl, fun h => ?_⟩
  have hstored := (h [] "blob" brimful).mpr (Nat.le_of_eq hsize)
  rw [get?_record, hentry] at hstored
  exact compact_ne_placeholder brimful (Option.some.inj hstored).symm

end AccessLog

end Intake
