/-!
# Socket addresses

An address is a host and a port. Hosts of four bytes are written in decimal with points between
them, hosts of eight groups in hexadecimal with colons, in brackets before the port. The longest
run of at least two zero groups, the first of several, is written as a double colon, and an embedded
four-byte host keeps its points. Reading accepts every such spelling of an address.
-/

namespace Intake

inductive Host where
  | v4 (a b c d : UInt8)
  | v6 (groups : Vector UInt16 8) (zone : UInt32)
  deriving DecidableEq

structure SocketAddress where
  host : Host
  port : UInt16
  deriving DecidableEq

namespace SocketAddress

/-! ## Writing -/

def dotted (a b c d : UInt8) : String :=
  ".".intercalate ([a, b, c, d].map fun x => toString x.toNat)

def colons (groups : List UInt16) : String :=
  ":".intercalate (groups.map fun g => String.ofList (Nat.toDigits 16 g.toNat))

/-- The start and length of the first longest run of zeros, in a list that begins at `here`. -/
def zeroRun (here : Nat) : List UInt16 → Nat × Nat
  | [] => (here, 0)
  | g :: rest =>
      let later := zeroRun (here + 1) rest
      let run := ((g :: rest).takeWhile (· == 0)).length
      if later.2 ≤ run then (here, run) else later

def dottedGroups (high low : UInt16) : String :=
  dotted (high >>> 8).toUInt8 high.toUInt8 (low >>> 8).toUInt8 low.toUInt8

/-- Eight groups; those of an embedded four-byte host end in that host. -/
def groupsText (groups : List UInt16) : String :=
  match groups with
  | [0, 0, 0, 0, 0, 0xFFFF, high, low] => "::ffff:" ++ dottedGroups high low
  | _ =>
      let (start, length) := zeroRun 0 groups
      if length ≤ 1 then colons groups
      else colons (groups.take start) ++ "::" ++ colons (groups.drop (start + length))

def text (a : SocketAddress) : String :=
  match a.host with
  | .v4 w x y z => dotted w x y z ++ ":" ++ toString a.port.toNat
  | .v6 groups zone =>
      "[" ++ groupsText groups.toList ++
        (if zone = 0 then "" else "%" ++ toString zone.toNat) ++ "]:" ++ toString a.port.toNat

/-! ## Reading

A reader takes what it understands off the front of a text. -/

/-- The value of a digit in base ten or sixteen. -/
def digit? (hex : Bool) (c : Char) : Option Nat :=
  if c.isDigit then some (c.toNat - 48)
  else if hex && 'a' ≤ c && c ≤ 'f' then some (c.toNat - 87)
  else if hex && 'A' ≤ c && c ≤ 'F' then some (c.toNat - 55)
  else none

/-- A number of at least one digit. -/
def number? (hex : Bool) (cs : List Char) : Option (Nat × List Char) :=
  let digits := (cs.takeWhile fun c => (digit? hex c).isSome).filterMap (digit? hex)
  if digits.isEmpty then none
  else some (digits.foldl (fun n d => n * (if hex then 16 else 10) + d) 0, cs.drop digits.length)

def char? (c : Char) : List Char → Option (List Char)
  | [] => none
  | x :: rest => if x == c then some rest else none

/-- A byte in decimal: at most three digits, no zero before others. -/
def byte? (cs : List Char) : Option (UInt8 × List Char) := do
  let (n, rest) ← number? false cs
  let width := cs.length - rest.length
  if width > 3 || (width > 1 && cs.head? == some '0') || n > 255 then none
  else some (n.toUInt8, rest)

def dotted? (cs : List Char) : Option ((UInt8 × UInt8 × UInt8 × UInt8) × List Char) := do
  let (a, cs) ← byte? cs
  let (b, cs) ← byte? (← char? '.' cs)
  let (c, cs) ← byte? (← char? '.' cs)
  let (d, cs) ← byte? (← char? '.' cs)
  some ((a, b, c, d), cs)

/-- A group: one to four hexadecimal digits. -/
def group? (cs : List Char) : Option (UInt16 × List Char) := do
  let (n, rest) ← number? true cs
  if cs.length - rest.length > 4 then none else some (n.toUInt16, rest)

/-- At most `room` groups with colons between them; a four-byte host may stand for the last two.
Also says whether one does, and gives what is left. -/
def groups (first : Bool) : Nat → List Char → List UInt16 × Bool × List Char
  | 0, cs => ([], false, cs)
  | room + 1, cs =>
      let behind := if first then some cs else char? ':' cs
      let embedded := if room = 0 then none else behind.bind dotted?
      match embedded with
      | some ((a, b, c, d), rest) =>
          ([a.toUInt16 <<< 8 ||| b.toUInt16, c.toUInt16 <<< 8 ||| d.toUInt16], true, rest)
      | none =>
          match behind.bind group? with
          | none => ([], false, cs)
          | some (g, rest) =>
              let (more, dotted, rest) := groups false room rest
              (g :: more, dotted, rest)

/-- Eight groups, or fewer with one double colon for the zeros left out. -/
def groups? (cs : List Char) : Option (List UInt16 × List Char) := do
  let (head, dotted, cs) := groups true 8 cs
  if head.length = 8 then some (head, cs)
  else if dotted then none
  else
    let cs ← char? ':' (← char? ':' cs)
    let (tail, _, cs) := groups true (7 - head.length) cs
    some (head ++ List.replicate (8 - head.length - tail.length) 0 ++ tail, cs)

/-- A colon and a port; zeros may precede it. -/
def port? (cs : List Char) : Option (UInt16 × List Char) := do
  let (n, cs) ← number? false (← char? ':' cs)
  if n > 65535 then none else some (n.toUInt16, cs)

/-- A percent sign and a zone; none is zone zero. -/
def zone (cs : List Char) : UInt32 × List Char :=
  match (char? '%' cs).bind (number? false) with
  | some (n, rest) => if n < UInt32.size then (n.toUInt32, rest) else (0, cs)
  | none => (0, cs)

def dottedAddress? (cs : List Char) : Option SocketAddress := do
  let ((a, b, c, d), cs) ← dotted? cs
  let (port, cs) ← port? cs
  if cs.isEmpty then some ⟨.v4 a b c d, port⟩ else none

def bracketed? (cs : List Char) : Option SocketAddress := do
  let (groups, cs) ← groups? (← char? '[' cs)
  let (zone, cs) := zone cs
  let (port, cs) ← port? (← char? ']' cs)
  if h : groups.toArray.size = 8 then
    if cs.isEmpty then some ⟨.v6 ⟨groups.toArray, h⟩ zone, port⟩ else none
  else none

def ofText? (s : String) : Option SocketAddress :=
  (dottedAddress? s.toList).or (bracketed? s.toList)

/-- An address that only the machine itself can reach. -/
def isLoopback (a : SocketAddress) : Bool :=
  match a.host with
  | .v4 first _ _ _ => first == 127
  | .v6 groups _ => groups.toList == [0, 0, 0, 0, 0, 0, 0, 1]

end SocketAddress

end Intake
