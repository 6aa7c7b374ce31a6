/-!
# Reading arguments

A grammar lists the options that a command takes, the places for values without an option, and the
words by which it hands over to another command. Words are read from left to right. The value of an
argument is stored when the next argument comes, so the fault in it is found then. A word of two
hyphens makes all later words values.
-/

namespace Intake.Arguments

/-! ## Faults -/

/-- What is wrong with arguments. A `label` is how messages call an argument. -/
inductive Fault where
  | unexpected (word : String)
  /-- A value is attached to an option that takes none. -/
  | surplus (value : String) (label : String)
  | repeated (label : String)
  | missingValue (label : String)
  | invalidValue (value : String) (label : String) (reason : Option String)
  | missingArguments
  | missingCommand
  | unknownCommand (word : String)
  deriving DecidableEq

/-- Why reading ends without a command. -/
inductive Stop where
  | fault (f : Fault)
  /-- Help was asked for. -/
  | help
  /-- The version was asked for. -/
  | version
  /-- No argument was given where one is needed. -/
  | bare
  deriving DecidableEq

/-! ## Grammars -/

inductive ValueFault where
  /-- There is no text where some is needed. -/
  | empty
  /-- The text is no such value, for a reason that may be plain. -/
  | invalid (reason : Option String)

/-- A place for a value in what is known of a command, which is of type `α`. -/
structure Slot (α : Type) where
  label : String
  isFilled : α → Bool
  fill : String → α → Except ValueFault α

inductive Effect (α : Type) where
  /-- Takes a value. -/
  | value (slot : Slot α)
  /-- Fills a slot by being there. -/
  | mark (slot : Slot α)
  /-- Ends the reading. -/
  | stop (label : String) (reason : Stop)

structure Switch (α : Type) where
  long : String
  short : Option Char := none
  effect : Effect α

structure Grammar (α : Type) where
  switches : List (Switch α)
  places : List (Slot α) := []
  commands : List String := []

structure Progress (α : Type) where
  state : α
  /-- The argument whose value is not stored yet, and the value unless it is still to come. -/
  pending : Option (Slot α × Option String) := none
  /-- The places that are free. -/
  places : List (Slot α)
  /-- Whether no argument has been given. -/
  isBare : Bool := true

/-! ## Words -/

inductive Form where
  /-- Two hyphens. -/
  | separator
  /-- The name of an option after two hyphens; a value may follow an equals sign. -/
  | long (name : String) (attached : Option String)
  /-- Letters of options after one hyphen. -/
  | letters (cs : List Char)
  | plain

/-- The value in the text behind an option, if an equals sign comes first. -/
def afterEquals : List Char → Option String
  | '=' :: rest => some (String.ofList rest)
  | _ => none

def Form.of (word : String) : Form :=
  match word.toList with
  | ['-', '-'] => .separator
  | '-' :: '-' :: rest =>
      let name := rest.takeWhile (· != '=')
      .long (String.ofList name) (afterEquals (rest.drop name.length))
  | ['-'] => .plain
  | '-' :: cs => .letters cs
  | _ => .plain

/-! ## Storing values -/

variable {α : Type}

/-- Fills a slot, which must not be filled yet. -/
def Slot.store (slot : Slot α) (value : String) (state : α) : Except Stop α :=
  if slot.isFilled state then .error (.fault (.repeated slot.label))
  else match slot.fill value state with
    | .ok state => .ok state
    | .error .empty => .error (.fault (.missingValue slot.label))
    | .error (.invalid reason) => .error (.fault (.invalidValue value slot.label reason))

namespace Progress

def settle (p : Progress α) : Except Stop (Progress α) :=
  match p.pending with
  | none => .ok p
  | some (slot, none) => .error (.fault (.missingValue slot.label))
  | some (slot, some value) =>
      match slot.store value p.state with
      | .ok state => .ok { p with state, pending := none }
      | .error stop => .error stop

def give (p : Progress α) (slot : Slot α) (value : String) : Except Stop (Progress α) := do
  let p ← p.settle
  let state ← slot.store value p.state
  .ok { p with state, isBare := false }

def await (p : Progress α) (slot : Slot α) (value : Option String) :
    Except Stop (Progress α) := do
  let p ← p.settle
  .ok { p with pending := some (slot, value), isBare := false }

/-- Whether the next word is the value of an option. -/
def isWaiting (p : Progress α) : Bool :=
  match p.pending with
  | some (_, none) => true
  | _ => false

/-- Takes an option, perhaps with a value attached to it. -/
def option (p : Progress α) : Effect α → Option String → Except Stop (Progress α)
  | .value slot, some value => p.give slot value
  | .value slot, none => p.await slot none
  | .mark slot, none => p.give slot ""
  | .mark slot, some value => .error (.fault (.surplus value slot.label))
  | .stop _ reason, none => do
      let _ ← p.settle
      .error reason
  | .stop label _, some value => .error (.fault (.surplus value label))

end Progress

namespace Grammar

/-! ## Reading -/

/-- The start of reading, given what is known of a command before it. -/
def start (g : Grammar α) (state : α) : Progress α := { state, places := g.places }

def long (g : Grammar α) (p : Progress α) (name : String) (attached : Option String) :
    Except Stop (Progress α) :=
  match g.switches.find? (·.long = name) with
  | some switch => p.option switch.effect attached
  | none => .error (.fault (.unexpected ("--" ++ name)))

/-- The value that follows the letter of an option in the same word. -/
def attachedTo : List Char → Option String
  | [] => none
  | '=' :: rest => some (String.ofList rest)
  | rest => some (String.ofList rest)

/-- Takes options by their letters. The first that takes a value gets all that follows. -/
def letters (g : Grammar α) (p : Progress α) : List Char → Except Stop (Progress α)
  | [] => .ok p
  | c :: rest =>
      match g.switches.find? (·.short = some c) with
      | none => .error (.fault (.unexpected (String.ofList ['-', c])))
      | some switch =>
          match switch.effect with
          | .value slot => p.option (.value slot) (attachedTo rest)
          | effect => do
              let p ← p.option effect none
              g.letters p rest

/-- Takes a word for the next free place. Where there is none, the word is one too many or, unless
commands are out of the question, no command. -/
def place (g : Grammar α) (trailing : Bool) (p : Progress α) (word : String) :
    Except Stop (Progress α) :=
  match p.places with
  | slot :: places => do
      let p ← p.await slot (some word)
      .ok { p with places }
  | [] =>
      if g.commands.isEmpty || (trailing && word ∈ g.commands) then
        .error (.fault (.unexpected word))
      else .error (.fault (.unknownCommand word))

/-- Reads words none of which is an option. -/
def readPlain (g : Grammar α) (p : Progress α) : List String → Except Stop (Progress α)
  | [] => .ok p
  | word :: rest => do
      let p ← g.place true p word
      g.readPlain p rest

/-- Reads words up to the name of a command; also gives that and the words after it. The last
argument may still be pending. -/
def read (g : Grammar α) (p : Progress α) :
    List String → Except Stop (Progress α × Option (String × List String))
  | [] => .ok (p, none)
  | word :: rest =>
      if !p.isWaiting && word ∈ g.commands then .ok (p, some (word, rest))
      else match Form.of word with
        | .separator => do
            let p ← g.readPlain p rest
            .ok (p, none)
        | .long name attached => do
            let p ← g.long p name attached
            g.read p rest
        | .letters cs => do
            let p ← g.letters p cs
            g.read p rest
        | .plain =>
            match p.pending with
            | some (slot, none) => g.read { p with pending := some (slot, some word) } rest
            | _ => do
                let p ← g.place false p word
                g.read p rest

end Grammar

end Intake.Arguments
