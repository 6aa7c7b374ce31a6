import Intake.Text.Utf8
import Mathlib

/-!
# What is well-formed UTF-8

Main statement: bytes are read as a text exactly if they are the encoding of this text. So every text
has one form in bytes, and all other bytes are refused.
-/

namespace Intake.Text.Utf8

/-! ## The bytes of a text -/

theorem toList_loop_eq (bytes : ByteArray) (i : Nat) (done : List UInt8) :
    ByteArray.toList.loop bytes i done = done.reverse ++ bytes.data.toList.drop i := by
  fun_induction ByteArray.toList.loop bytes i done with
  | case1 i done h ih =>
      have hi : i < bytes.data.toList.length := by simpa using h
      rw [ih, List.drop_eq_getElem_cons hi]
      simp [ByteArray.get!, h]
  | case2 i done h =>
      rw [List.drop_eq_nil_of_le (by simpa using Nat.le_of_not_lt h), List.append_nil]

theorem encode_ofList (cs : List Char) :
    encode (String.ofList cs) = cs.flatMap String.utf8EncodeChar := by
  rw [encode, String.toUTF8_eq_toByteArray, ByteArray.toList, toList_loop_eq]
  show [].reverse ++ (cs.flatMap String.utf8EncodeChar).toByteArray.data.toList.drop 0 = _
  simp [List.data_toByteArray]

/-! ## Forms of sequences -/

variable {b₀ b₁ b₂ b₃ : UInt8}

theorem isPair_iff : isPair b₀ b₁ = true ↔
    (0xC2 ≤ b₀.toNat ∧ b₀.toNat ≤ 0xDF) ∧ 0x80 ≤ b₁.toNat ∧ b₁.toNat ≤ 0xBF := by
  simp [isPair, isContinuation, UInt8.le_iff_toNat_le]

theorem isTriple_iff : isTriple b₀ b₁ b₂ = true ↔
    (0xE0 ≤ b₀.toNat ∧ b₀.toNat ≤ 0xEF) ∧ (0x80 ≤ b₁.toNat ∧ b₁.toNat ≤ 0xBF) ∧
      (0x80 ≤ b₂.toNat ∧ b₂.toNat ≤ 0xBF) ∧ (b₀.toNat ≠ 0xE0 ∨ 0xA0 ≤ b₁.toNat) ∧
      (b₀.toNat ≠ 0xED ∨ b₁.toNat ≤ 0x9F) := by
  simp [isTriple, isContinuation, UInt8.le_iff_toNat_le, ← UInt8.toNat_inj, and_assoc]

theorem isQuadruple_iff : isQuadruple b₀ b₁ b₂ b₃ = true ↔
    (0xF0 ≤ b₀.toNat ∧ b₀.toNat ≤ 0xF4) ∧ (0x80 ≤ b₁.toNat ∧ b₁.toNat ≤ 0xBF) ∧
      (0x80 ≤ b₂.toNat ∧ b₂.toNat ≤ 0xBF) ∧ (0x80 ≤ b₃.toNat ∧ b₃.toNat ≤ 0xBF) ∧
      (b₀.toNat ≠ 0xF0 ∨ 0x90 ≤ b₁.toNat) ∧ (b₀.toNat ≠ 0xF4 ∨ b₁.toNat ≤ 0x8F) := by
  simp [isQuadruple, isContinuation, UInt8.le_iff_toNat_le, ← UInt8.toNat_inj, and_assoc]

theorem not_single (h : 0x80 ≤ b₀.toNat) : ¬ b₀ < 0x80 := by
  rw [UInt8.lt_iff_toNat_lt]
  exact Nat.not_lt.mpr h

section Steps

variable (done : List Char) (offset : Nat) (rest : List UInt8)

theorem decodeFrom_single (h : b₀.toNat < 0x80) :
    decodeFrom done offset (b₀ :: rest) =
      decodeFrom (Char.ofNat b₀.toNat :: done) (offset + 1) rest := by
  rw [decodeFrom.eq_def]
  dsimp only
  rw [if_pos (UInt8.lt_iff_toNat_lt.mpr h)]

theorem decodeFrom_pair (h : isPair b₀ b₁ = true) :
    decodeFrom done offset (b₀ :: b₁ :: rest) =
      decodeFrom (Char.ofNat (b₀.toNat % 32 * 64 + payload b₁) :: done) (offset + 2) rest := by
  have hform := isPair_iff.mp h
  rw [decodeFrom.eq_def]
  dsimp only
  rw [if_neg (not_single (by omega)), if_pos h]

theorem decodeFrom_triple (h : isTriple b₀ b₁ b₂ = true) :
    decodeFrom done offset (b₀ :: b₁ :: b₂ :: rest) =
      decodeFrom (Char.ofNat (b₀.toNat % 16 * 4096 + payload b₁ * 64 + payload b₂) :: done)
        (offset + 3) rest := by
  have hform := isTriple_iff.mp h
  rw [decodeFrom.eq_def]
  dsimp only
  rw [if_neg (not_single (by omega)), if_neg (by rw [isPair_iff]; omega), if_pos h]

theorem decodeFrom_quadruple (h : isQuadruple b₀ b₁ b₂ b₃ = true) :
    decodeFrom done offset (b₀ :: b₁ :: b₂ :: b₃ :: rest) =
      decodeFrom (Char.ofNat (b₀.toNat % 8 * 262144 + payload b₁ * 4096 + payload b₂ * 64
        + payload b₃) :: done) (offset + 4) rest := by
  have hform := isQuadruple_iff.mp h
  rw [decodeFrom.eq_def]
  dsimp only
  rw [if_neg (not_single (by omega)), if_neg (by rw [isPair_iff]; omega),
    if_neg (by rw [isTriple_iff]; omega), if_pos h]

end Steps

/-! ## Encoded characters -/

theorem utf8EncodeChar_ofNat {v : Nat} (h : v.isValidChar) :
    String.utf8EncodeChar (Char.ofNat v) =
      if v ≤ 0x7F then [UInt8.ofNat v]
      else if v ≤ 0x7FF then [UInt8.ofNat (v / 64 % 32 + 0xC0), UInt8.ofNat (v % 64 + 0x80)]
      else if v ≤ 0xFFFF then
        [UInt8.ofNat (v / 4096 % 16 + 0xE0), UInt8.ofNat (v / 64 % 64 + 0x80),
          UInt8.ofNat (v % 64 + 0x80)]
      else
        [UInt8.ofNat (v / 262144 % 8 + 0xF0), UInt8.ofNat (v / 4096 % 64 + 0x80),
          UInt8.ofNat (v / 64 % 64 + 0x80), UInt8.ofNat (v % 64 + 0x80)] := by
  have hv : (Char.ofNat v).val.toNat = v := (Char.toNat_ofNat v).trans (if_pos h)
  unfold String.utf8EncodeChar
  rw [hv]

theorem ofNat_eq {n : Nat} {b : UInt8} (h : n = b.toNat) : UInt8.ofNat n = b := by
  rw [h, UInt8.ofNat_toNat]

theorem utf8EncodeChar_single (h : b₀.toNat < 0x80) :
    String.utf8EncodeChar (Char.ofNat b₀.toNat) = [b₀] := by
  rw [utf8EncodeChar_ofNat (.inl (by omega)), if_pos (by omega), ofNat_eq rfl]

theorem utf8EncodeChar_pair (h : isPair b₀ b₁ = true) :
    String.utf8EncodeChar (Char.ofNat (b₀.toNat % 32 * 64 + payload b₁)) = [b₀, b₁] := by
  rw [isPair_iff] at h
  unfold payload
  rw [utf8EncodeChar_ofNat (.inl (by omega)), if_neg (by omega), if_pos (by omega),
    ofNat_eq (b := b₀) (by omega), ofNat_eq (b := b₁) (by omega)]

theorem utf8EncodeChar_triple (h : isTriple b₀ b₁ b₂ = true) :
    String.utf8EncodeChar (Char.ofNat (b₀.toNat % 16 * 4096 + payload b₁ * 64 + payload b₂)) =
      [b₀, b₁, b₂] := by
  rw [isTriple_iff] at h
  unfold payload
  rw [utf8EncodeChar_ofNat (by unfold Nat.isValidChar; omega), if_neg (by omega),
    if_neg (by omega), if_pos (by omega), ofNat_eq (b := b₀) (by omega),
    ofNat_eq (b := b₁) (by omega), ofNat_eq (b := b₂) (by omega)]

theorem utf8EncodeChar_quadruple (h : isQuadruple b₀ b₁ b₂ b₃ = true) :
    String.utf8EncodeChar (Char.ofNat (b₀.toNat % 8 * 262144 + payload b₁ * 4096
      + payload b₂ * 64 + payload b₃)) = [b₀, b₁, b₂, b₃] := by
  rw [isQuadruple_iff] at h
  unfold payload
  rw [utf8EncodeChar_ofNat (by unfold Nat.isValidChar; omega), if_neg (by omega),
    if_neg (by omega), if_neg (by omega), ofNat_eq (b := b₀) (by omega),
    ofNat_eq (b := b₁) (by omega), ofNat_eq (b := b₂) (by omega), ofNat_eq (b := b₃) (by omega)]

theorem toNat_ofNat {n : Nat} (h : n < 256) : (UInt8.ofNat n).toNat = n := by
  rw [UInt8.toNat_ofNat', Nat.mod_eq_of_lt h]

/-- The sequence of a character is read as this character. -/
theorem decodeFrom_utf8EncodeChar (c : Char) (done : List Char) (offset : Nat)
    (rest : List UInt8) :
    decodeFrom done offset (String.utf8EncodeChar c ++ rest) =
      decodeFrom (c :: done) (offset + (String.utf8EncodeChar c).length) rest := by
  obtain ⟨v, hvalid, rfl⟩ : ∃ v : Nat, v.isValidChar ∧ Char.ofNat v = c :=
    ⟨c.val.toNat, c.valid, Char.ofNat_toNat c⟩
  have hbound : v < 0x110000 := by
    unfold Nat.isValidChar at hvalid
    omega
  have hcontinuation : ∀ n, (UInt8.ofNat (n % 64 + 0x80)).toNat = n % 64 + 0x80 :=
    fun n => toNat_ofNat (by omega)
  rw [utf8EncodeChar_ofNat hvalid]
  split
  · have h₀ : (UInt8.ofNat v).toNat = v := toNat_ofNat (by omega)
    rw [List.singleton_append, decodeFrom_single _ _ _ (by omega), h₀]
    rfl
  · split
    · have h₀ : (UInt8.ofNat (v / 64 % 32 + 0xC0)).toNat = v / 64 % 32 + 0xC0 :=
        toNat_ofNat (by omega)
      rw [List.cons_append, List.singleton_append, decodeFrom_pair, payload, h₀, hcontinuation]
      · congr 3
        omega
      · rw [isPair_iff, h₀, hcontinuation]
        omega
    · split
      · have h₀ : (UInt8.ofNat (v / 4096 % 16 + 0xE0)).toNat = v / 4096 % 16 + 0xE0 :=
          toNat_ofNat (by omega)
        rw [List.cons_append, List.cons_append, List.singleton_append, decodeFrom_triple, payload,
          payload, h₀, hcontinuation, hcontinuation]
        · congr 3
          omega
        · unfold Nat.isValidChar at hvalid
          rw [isTriple_iff, h₀, hcontinuation, hcontinuation]
          omega
      · have h₀ : (UInt8.ofNat (v / 262144 % 8 + 0xF0)).toNat = v / 262144 % 8 + 0xF0 :=
          toNat_ofNat (by omega)
        rw [List.cons_append, List.cons_append, List.cons_append, List.singleton_append,
          decodeFrom_quadruple, payload, payload, payload, h₀, hcontinuation, hcontinuation,
          hcontinuation]
        · congr 3
          omega
        · rw [isQuadruple_iff, h₀, hcontinuation, hcontinuation, hcontinuation]
          omega

/-! ## Texts -/

theorem decodeFrom_flatMap (cs done : List Char) (offset : Nat) :
    decodeFrom done offset (cs.flatMap String.utf8EncodeChar) = .ok (done.reverse ++ cs) := by
  induction cs generalizing done offset with
  | nil =>
      rw [List.flatMap_nil, List.append_nil]
      rfl
  | cons c rest ih =>
      rw [List.flatMap_cons, decodeFrom_utf8EncodeChar, ih, List.reverse_cons, List.append_assoc,
        List.singleton_append]

/-- What was read is the encoding of the characters that it was read as. -/
theorem eq_flatMap_of_decodeFrom {done cs : List Char} {offset : Nat} {bytes : List UInt8}
    (h : decodeFrom done offset bytes = .ok cs) :
    ∃ read, cs = done.reverse ++ read ∧ bytes = read.flatMap String.utf8EncodeChar := by
  have read_cons : ∀ {c : Char} {done : List Char} {sequence rest : List UInt8},
      String.utf8EncodeChar c = sequence →
      (∃ read, cs = (c :: done).reverse ++ read ∧ rest = read.flatMap String.utf8EncodeChar) →
      ∃ read, cs = done.reverse ++ read ∧
        sequence ++ rest = read.flatMap String.utf8EncodeChar := by
    rintro c done _ _ rfl ⟨read, rfl, rfl⟩
    refine ⟨c :: read, ?_, rfl⟩
    rw [List.reverse_cons, List.append_assoc, List.singleton_append]
  -- each sequence that is read is the one of its character, and where none starts nothing is read
  fun_induction decodeFrom done offset bytes with
  | case1 done =>
      cases h
      exact ⟨[], (List.append_nil _).symm, rfl⟩
  | case2 done offset b₀ rest hone ih =>
      exact read_cons (utf8EncodeChar_single (UInt8.lt_iff_toNat_lt.mp hone)) (ih h)
  | case4 done offset b₀ _ b₁ rest hpair ih =>
      exact read_cons (utf8EncodeChar_pair hpair) (ih h)
  | case6 done offset b₀ _ b₁ _ b₂ rest htriple ih =>
      exact read_cons (utf8EncodeChar_triple htriple) (ih h)
  | case8 done offset b₀ _ b₁ _ b₂ _ b₃ rest hquadruple ih =>
      exact read_cons (utf8EncodeChar_quadruple hquadruple) (ih h)
  | _ => cases h

/-- Bytes are read as a text exactly if they are the encoding of this text. -/
theorem decode_eq_ok_iff {bytes : List UInt8} {s : String} :
    decode bytes = .ok s ↔ bytes = encode s := by
  have hencode : encode s = s.toList.flatMap String.utf8EncodeChar := by
    rw [← encode_ofList, String.ofList_toList]
  rw [hencode]
  constructor
  · intro h
    cases hd : decodeFrom [] 0 bytes with
    | error offset =>
        rw [decode, hd] at h
        cases h
    | ok cs =>
        rw [decode, hd] at h
        obtain rfl : String.ofList cs = s := Except.ok.inj h
        obtain ⟨read, rfl, hbytes⟩ := eq_flatMap_of_decodeFrom hd
        rw [hbytes, String.toList_ofList]
  · rintro rfl
    rw [decode, decodeFrom_flatMap, List.reverse_nil, List.nil_append]
    exact congrArg Except.ok String.ofList_toList

@[simp] theorem decode_encode (s : String) : decode (encode s) = .ok s :=
  decode_eq_ok_iff.mpr rfl

end Intake.Text.Utf8
