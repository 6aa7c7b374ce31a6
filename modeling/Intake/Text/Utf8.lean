/-!
# Reading UTF-8

Bytes are read as text one well-formed sequence after the other. Where no well-formed sequence
starts, reading stops and says how many bytes came before. Overlong forms, surrogates and code
points past U+10FFFF are not well formed.
-/

namespace Intake.Text.Utf8

/-- A byte that continues a sequence: `10xxxxxx`. -/
def isContinuation (b : UInt8) : Bool := 0x80 ≤ b && b ≤ 0xBF

def payload (b : UInt8) : Nat := b.toNat % 64

/-- The two-byte form starts at C2: C0 and C1 would be overlong. -/
def isPair (b₀ b₁ : UInt8) : Bool := 0xC2 ≤ b₀ && b₀ ≤ 0xDF && isContinuation b₁

/-- The three-byte form; after E0 nothing below U+0800, after ED no surrogate. -/
def isTriple (b₀ b₁ b₂ : UInt8) : Bool :=
  0xE0 ≤ b₀ && b₀ ≤ 0xEF && isContinuation b₁ && isContinuation b₂
    && (b₀ != 0xE0 || 0xA0 ≤ b₁) && (b₀ != 0xED || b₁ ≤ 0x9F)

/-- The four-byte form; after F0 nothing below U+10000, after F4 nothing past U+10FFFF. -/
def isQuadruple (b₀ b₁ b₂ b₃ : UInt8) : Bool :=
  0xF0 ≤ b₀ && b₀ ≤ 0xF4 && isContinuation b₁ && isContinuation b₂ && isContinuation b₃
    && (b₀ != 0xF0 || 0x90 ≤ b₁) && (b₀ != 0xF4 || b₁ ≤ 0x8F)

/-- Reads on with the characters `done` (latest first) and `offset` bytes behind. -/
def decodeFrom (done : List Char) (offset : Nat) : List UInt8 → Except Nat (List Char)
  | [] => .ok done.reverse
  | b₀ :: rest₀ =>
      if b₀ < 0x80 then decodeFrom (Char.ofNat b₀.toNat :: done) (offset + 1) rest₀
      else match rest₀ with
      | [] => .error offset
      | b₁ :: rest₁ =>
          if isPair b₀ b₁ then
            decodeFrom (Char.ofNat (b₀.toNat % 32 * 64 + payload b₁) :: done) (offset + 2) rest₁
          else match rest₁ with
          | [] => .error offset
          | b₂ :: rest₂ =>
              if isTriple b₀ b₁ b₂ then
                decodeFrom
                  (Char.ofNat (b₀.toNat % 16 * 4096 + payload b₁ * 64 + payload b₂) :: done)
                  (offset + 3) rest₂
              else match rest₂ with
              | [] => .error offset
              | b₃ :: rest₃ =>
                  if isQuadruple b₀ b₁ b₂ b₃ then
                    decodeFrom
                      (Char.ofNat (b₀.toNat % 8 * 262144 + payload b₁ * 4096 + payload b₂ * 64
                        + payload b₃) :: done)
                      (offset + 4) rest₃
                  else .error offset

/-- The text that the bytes spell, or the number of bytes before the first that spell none. -/
def decode (bytes : List UInt8) : Except Nat String :=
  (decodeFrom [] 0 bytes).map String.ofList

def encode (s : String) : List UInt8 := s.toUTF8.toList

example : decode [0x61, 0xC3, 0xA9, 0xF0, 0x9F, 0x98, 0x80] = .ok "aé😀" := rfl
example : decode [0x61, 0x62, 0xFF, 0x63] = .error 2 := rfl
example : decode [0x61, 0xE2, 0x82] = .error 1 := rfl
example : decode [0xED, 0xA0, 0x80] = .error 0 := rfl

end Intake.Text.Utf8
