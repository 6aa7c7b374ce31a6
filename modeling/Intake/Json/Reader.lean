import Intake.Json.Numeral

/-!
# Reading JSON text

Text is read from left to right into a document (`Document.read`). Places are counted in bytes.
Where a fault lies in a byte that was looked at and not taken, that byte belongs to the place; at
the end of the text there is none to add. At most 127 arrays and objects may be nested.

`Json.parse` takes the document as a value.
-/

namespace Intake.Json

/-- Where reading stands: what is left of the text and how many bytes came before. -/
structure Cursor where
  offset : Nat
  rest : List Char

namespace Cursor

def advance (c : Cursor) : Cursor :=
  match c.rest with
  | [] => c
  | x :: rest => ⟨c.offset + x.utf8Size, rest⟩

/-- A fault in the byte that comes next, or at the end of the text. -/
def peek (c : Cursor) (fault : Fault) : Flaw :=
  ⟨fault, if c.rest.isEmpty then c.offset else c.offset + 1⟩

/-- A fault in the byte that was taken last, `n` bytes on. -/
def after (c : Cursor) (n : Nat) (fault : Fault) : Flaw := ⟨fault, c.offset + n⟩

/-- The space between the parts of a text: blanks, line feeds, carriage returns and tabs. -/
def isSpace (x : Char) : Bool := x == ' ' || x == '\n' || x == '\r' || x == '\t'

def skipSpace (c : Cursor) : Cursor :=
  ⟨c.offset + (c.rest.takeWhile isSpace).length, c.rest.dropWhile isSpace⟩

def digits (c : Cursor) : List Nat × Cursor :=
  let taken := c.rest.takeWhile Char.isDigit
  (taken.map fun x => x.toNat - 48, ⟨c.offset + taken.length, c.rest.dropWhile Char.isDigit⟩)

/-! ## Words -/

def word (c : Cursor) : List Char → Except Flaw Cursor
  | [] => .ok c
  | x :: letters =>
      match c.rest with
      | [] => .error (c.after 0 .endInValue)
      | y :: _ => if x == y then c.advance.word letters else .error (c.after 1 .wordExpected)

/-! ## Numerals -/

/-- Takes the digits before the point; a leading zero stands alone. -/
def whole (c : Cursor) : Except Flaw (List Nat × Cursor) :=
  match c.rest with
  | [] => .error (c.after 0 .endInValue)
  | x :: _ =>
      if !x.isDigit then .error (c.after 1 .invalidNumber)
      else if x == '0' then
        match c.advance.digits.1 with
        | [] => .ok ([0], c.advance)
        | _ :: _ => .error (c.advance.peek .invalidNumber)
      else .ok c.digits

/-- Takes a point and the digits after it, if there is a point. -/
def fraction (c : Cursor) : Except Flaw (Option (List Nat) × Cursor) :=
  match c.rest with
  | '.' :: _ =>
      match c.advance.digits with
      | ([], c) => .error (c.peek (if c.rest.isEmpty then .endInValue else .invalidNumber))
      | (digits, c) => .ok (some digits, c)
  | _ => .ok (none, c)

/-- Takes an exponent, if there is one. -/
def exponent (c : Cursor) : Except Flaw (Option (Bool × List Nat) × Cursor) :=
  let signed (down : Bool) (c : Cursor) : Except Flaw (Option (Bool × List Nat) × Cursor) :=
    match c.digits, c.rest with
    | (d :: digits, c), _ => .ok (some (down, d :: digits), c)
    | _, [] => .error (c.after 0 .endInValue)
    | _, _ => .error (c.after 1 .invalidNumber)
  match c.rest with
  | x :: rest =>
      if x == 'e' || x == 'E' then
        match rest with
        | '+' :: _ => signed false c.advance.advance
        | '-' :: _ => signed true c.advance.advance
        | _ => signed false c.advance
      else .ok (none, c)
  | [] => .ok (none, c)

/-- Takes a numeral after its sign. -/
def numeral (negative : Bool) (c : Cursor) : Except Flaw (Scalar × Cursor) := do
  let (whole, c) ← c.whole
  let (fraction, c) ← c.fraction
  let (exponent, c) ← c.exponent
  match Numeral.value { negative, whole, fraction, exponent } with
  | .ok v => .ok (v, c)
  | .error back => .error ⟨.numberOutOfRange, c.offset - back⟩

/-! ## Strings -/

def hexDigit? (x : Char) : Option Nat :=
  if x.isDigit then some (x.toNat - 48)
  else if 'a' ≤ x && x ≤ 'f' then some (x.toNat - 87)
  else if 'A' ≤ x && x ≤ 'F' then some (x.toNat - 55)
  else none

def hex? (a b c d : Char) : Option Nat := do
  some ((((← hexDigit? a) * 16 + (← hexDigit? b)) * 16 + (← hexDigit? c)) * 16 + (← hexDigit? d))

/-- The flaw of an escape whose four digits are not there: the text ends within four bytes, or one
of the next four bytes is no digit. -/
def badHex (offset : Nat) (rest : List Char) : Flaw :=
  let left := (String.ofList rest).utf8ByteSize
  if left < 4 then ⟨.endInString, offset + left⟩ else ⟨.invalidEscape, offset + 4⟩

/-- The character that a letter after a backslash stands for. -/
def escaped? (x : Char) : Option Char :=
  if x == '"' || x == '\\' || x == '/' then some x
  else if x == 'b' then some '\x08'
  else if x == 'f' then some '\x0c'
  else if x == 'n' then some '\n'
  else if x == 'r' then some '\r'
  else if x == 't' then some '\t'
  else none

/-- Takes the rest of a string and its closing quote; `done` holds the characters so far, latest
first. Code points past U+FFFF are escaped as a pair of surrogates. -/
def string (done : List Char) (offset : Nat) : List Char → Except Flaw (String × Cursor)
  | [] => .error ⟨.endInString, offset⟩
  | '"' :: rest => .ok (String.ofList done.reverse, ⟨offset + 1, rest⟩)
  | '\\' :: [] => .error ⟨.endInString, offset + 1⟩
  | '\\' :: 'u' :: a :: b :: c :: d :: rest =>
      match hex? a b c d with
      | none => .error (badHex (offset + 2) (a :: b :: c :: d :: rest))
      | some n =>
          if 0xDC00 ≤ n && n ≤ 0xDFFF then .error ⟨.loneSurrogate, offset + 6⟩
          else if 0xD800 ≤ n && n ≤ 0xDBFF then
            match rest with
            | [] => .error ⟨.endInString, offset + 6⟩
            | '\\' :: [] => .error ⟨.endInString, offset + 7⟩
            | '\\' :: 'u' :: a :: b :: c :: d :: rest =>
                match hex? a b c d with
                | none => .error (badHex (offset + 8) (a :: b :: c :: d :: rest))
                | some m =>
                    if 0xDC00 ≤ m && m ≤ 0xDFFF then
                      string (Char.ofNat (0x10000 + (n - 0xD800) * 0x400 + (m - 0xDC00)) :: done)
                        (offset + 12) rest
                    else .error ⟨.loneSurrogate, offset + 12⟩
            | '\\' :: 'u' :: rest => .error (badHex (offset + 8) rest)
            | '\\' :: _ :: _ => .error ⟨.surrogateUnfinished, offset + 8⟩
            | _ :: _ => .error ⟨.surrogateUnfinished, offset + 7⟩
          else string (Char.ofNat n :: done) (offset + 6) rest
  | '\\' :: 'u' :: rest => .error (badHex (offset + 2) rest)
  | '\\' :: x :: rest =>
      match escaped? x with
      | some y => string (y :: done) (offset + 2) rest
      | none => .error ⟨.invalidEscape, offset + 2⟩
  | x :: rest =>
      if x.toNat < 0x20 then .error ⟨.controlCharacter, offset + 1⟩
      else string (x :: done) (offset + x.utf8Size) rest

/-! ## Containers

`next` reads a value; where it fails it gives the flaw in place of a cursor, and so do the
containers around it. The first argument bounds the number of parts. -/

def items (next : Cursor → Document × Except Flaw Cursor) :
    Nat → Bool → Cursor → Items × Except Flaw Cursor
  | 0, _, c => (.broken c.offset (c.peek .endInList), .error (c.peek .endInList))
  | bound + 1, first, c =>
      let c := c.skipSpace
      let broken (flaw : Flaw) : Items × Except Flaw Cursor := (.broken c.offset flaw, .error flaw)
      let missing (flaw : Flaw) : Items × Except Flaw Cursor :=
        (.missing c.offset flaw, .error flaw)
      let item (at' : Cursor) : Items × Except Flaw Cursor :=
        match next at' with
        | (d, .error flaw) => (.item c.offset d (.broken flaw.offset flaw), .error flaw)
        | (d, .ok behind) =>
            let (rest, result) := items next bound false behind
            (.item c.offset d rest, result)
      match c.rest with
      | [] => broken (c.peek .endInList)
      | ']' :: _ => (.close c.offset, .ok c.advance)
      | x :: _ =>
          if first then item c
          else if x == ',' then
            let behind := c.advance.skipSpace
            match behind.rest with
            | [] => missing (behind.peek .endInValue)
            | ']' :: _ => missing (behind.peek .trailingComma)
            | _ => item behind
          else broken (c.peek .listEndExpected)

def members (next : Cursor → Document × Except Flaw Cursor) :
    Nat → Bool → Cursor → Members × Except Flaw Cursor
  | 0, _, c => (.broken c.offset (c.peek .endInObject), .error (c.peek .endInObject))
  | bound + 1, first, c =>
      let c := c.skipSpace
      let broken (flaw : Flaw) : Members × Except Flaw Cursor :=
        (.broken c.offset flaw, .error flaw)
      let member (at' : Cursor) : Members × Except Flaw Cursor :=
        match string [] (at'.offset + 1) at'.rest.tail with
        | .error flaw => broken flaw
        | .ok (name, quoteEnd) =>
            let behind := quoteEnd.skipSpace
            let closed := behind.rest.head? == some '\x7d'
            let key : Key :=
              ⟨name, quoteEnd.offset, if closed then behind.offset + 1 else behind.offset⟩
            let unpaired (flaw : Flaw) : Members × Except Flaw Cursor :=
              (.unpaired c.offset key flaw, .error flaw)
            match behind.rest with
            | ':' :: _ =>
                match next behind.advance with
                | (d, .error flaw) =>
                    (.member c.offset key d (.broken flaw.offset flaw), .error flaw)
                | (d, .ok behind) =>
                    let (rest, result) := members next bound false behind
                    (.member c.offset key d rest, result)
            | [] => unpaired (behind.peek .endInObject)
            | _ => unpaired (behind.peek .colonExpected)
      match c.rest with
      | '\x7d' :: _ => (.close c.offset, .ok c.advance)
      | [] => broken (c.peek .endInObject)
      | x :: _ =>
          if first then
            if x == '"' then member c else broken (c.peek .keyExpected)
          else if x == ',' then
            let behind := c.advance.skipSpace
            match behind.rest with
            | [] => broken (behind.peek .endInValue)
            | '"' :: _ => member behind
            | '\x7d' :: _ => broken (behind.peek .trailingComma)
            | _ => broken (behind.peek .keyExpected)
          else broken (c.peek .objectEndExpected)

/-! ## Values -/

/-- Reads a value with the given number of nestings left; no container has more than `bound`
parts. -/
def value (bound depth : Nat) (c : Cursor) : Document × Except Flaw Cursor :=
  let c := c.skipSpace
  let scalar : Except Flaw (Scalar × Cursor) → Document × Except Flaw Cursor
    | .ok (v, behind) => (.scalar c.offset v behind.offset, .ok behind)
    | .error flaw => (.broken c.offset flaw, .error flaw)
  let broken (flaw : Flaw) : Document × Except Flaw Cursor := (.broken c.offset flaw, .error flaw)
  match c.rest with
  | [] => broken (c.peek .endInValue)
  | 'n' :: _ => scalar ((c.word ['n', 'u', 'l', 'l']).map fun c => (.null, c))
  | 't' :: _ => scalar ((c.word ['t', 'r', 'u', 'e']).map fun c => (.bool true, c))
  | 'f' :: _ => scalar ((c.word ['f', 'a', 'l', 's', 'e']).map fun c => (.bool false, c))
  | '-' :: _ => scalar (c.advance.numeral true)
  | '"' :: rest =>
      match string [] (c.offset + 1) rest with
      | .ok (s, behind) => (.string c.offset s behind.offset, .ok behind)
      | .error flaw => (.brokenString c.offset flaw, .error flaw)
  | '[' :: _ =>
      match depth with
      | 0 => broken (c.peek .tooDeep)
      | depth + 1 =>
          let (parts, result) := items (value bound depth) bound true c.advance
          (.array c.offset parts, result)
  | '\x7b' :: _ =>
      match depth with
      | 0 => broken (c.peek .tooDeep)
      | depth + 1 =>
          let (parts, result) := members (value bound depth) bound true c.advance
          (.object c.offset parts, result)
  | x :: _ =>
      if x.isDigit then scalar (c.numeral false) else broken (c.peek .valueExpected)

end Cursor

/-- The deepest nesting of arrays and objects that is read. -/
def maxDepth : Nat := 127

/-- Reads a text as one document; also gives what is wrong after it. -/
def Document.read (text : String) : Document × Option Flaw :=
  match Cursor.value (text.utf8ByteSize + 1) maxDepth ⟨0, text.toList⟩ with
  | (d, .error _) => (d, none)
  | (d, .ok behind) =>
      let behind := behind.skipSpace
      (d, if behind.rest.isEmpty then none else some (behind.peek .trailingText))

def parse (text : String) : Except Flaw Json :=
  match Document.read text with
  | (d, trailing) =>
      match d.value?, trailing with
      | .ok _, some flaw => .error flaw
      | result, _ => result

end Intake.Json
