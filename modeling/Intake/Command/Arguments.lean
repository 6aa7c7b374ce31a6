import Intake.Command
import Intake.Command.Grammar
import Intake.Error
import Intake.Text.Blank
import Intake.Text.Controls

/-!
# The arguments of commands

Options for all commands come before the command, the others behind it. The arguments behind a
command are judged before the last option in front of it.
-/

namespace Intake.Arguments

/-! ## Values -/

/-- Why a text is no count. -/
inductive CountFault where
  | empty
  | notDigit
  | tooLarge
  deriving DecidableEq

def CountFault.text : CountFault → String
  | .empty => "cannot parse integer from empty string"
  | .notDigit => "invalid digit found in string"
  | .tooLarge => "number too large to fit in target type"

/-- A count with one more digit. Counts have 64 bits. -/
def addDigit (n : Nat) (c : Char) : Except CountFault Nat :=
  if !c.isDigit then .error .notDigit
  else
    let next := n * 10 + (c.toNat - '0'.toNat)
    if next < UInt64.size then .ok next else .error .tooLarge

/-- The count that digits spell. A plus sign may come first; the first digit that does not fit
decides what is wrong. -/
def count (s : String) : Except CountFault Nat :=
  match s.toList with
  | [] => .error .empty
  | ['+'] => .error .notDigit
  | '+' :: digits => digits.foldlM addDigit 0
  | digits => digits.foldlM addDigit 0

def textSlot {α : Type} (label : String) (get : α → Option String) (set : String → α → α) :
    Slot α where
  label := label
  isFilled state := (get state).isSome
  fill value state := .ok (set value state)

/-- A place for the path of a file, which is not empty. -/
def pathSlot {α : Type} (label : String) (get : α → Option String) (set : String → α → α) :
    Slot α where
  label := label
  isFilled state := (get state).isSome
  fill value state := if value.isEmpty then .error .empty else .ok (set value state)

def wordSlot {α β : Type} [Worded β] (label : String) (get : α → Option β) (set : β → α → α) :
    Slot α where
  label := label
  isFilled state := (get state).isSome
  fill value state :=
    match Worded.ofWord? value with
    | some b => .ok (set b state)
    | none => .error (if value.isEmpty then .empty else .invalid none)

def countSlot {α : Type} (label : String) (get : α → Option Nat) (set : Nat → α → α) : Slot α where
  label := label
  isFilled state := (get state).isSome
  fill value state :=
    match count value with
    | .ok n => .ok (set n state)
    | .error fault => .error (.invalid (some fault.text))

/-! ## Commands -/

def helpSwitch {α : Type} : Switch α := ⟨"help", some 'h', .stop "--help" .help⟩

structure CheckDraft where
  endpoint : Option String := none
  input : Option String := none

def checkGrammar : Grammar CheckDraft where
  switches :=
    [⟨"input", some 'i', .value (pathSlot "--input <FILE>" CheckDraft.input
      fun value draft => { draft with input := some value })⟩, helpSwitch]
  places :=
    [pathSlot "<ENDPOINT>" CheckDraft.endpoint
      fun value draft => { draft with endpoint := some value }]

structure DescribeDraft where
  endpoint : Option String := none

def describeGrammar : Grammar DescribeDraft where
  switches := [helpSwitch]
  places := [pathSlot "<ENDPOINT>" DescribeDraft.endpoint fun value _ => ⟨some value⟩]

structure ServeDraft where
  endpoint : Option String := none
  bind : Option String := none
  isPublic : Bool := false
  maxBodyBytes : Option Nat := none
  capacity : Option Nat := none

def serveGrammar : Grammar ServeDraft where
  switches :=
    [⟨"bind", none, .value (textSlot "--bind <BIND>" ServeDraft.bind
      fun value draft => { draft with bind := some value })⟩,
    ⟨"allow-non-loopback", none, .mark
      { label := "--allow-non-loopback", isFilled := ServeDraft.isPublic
        fill := fun _ draft => .ok { draft with isPublic := true } }⟩,
    ⟨"max-body-bytes", none, .value (countSlot "--max-body-bytes <MAX_BODY_BYTES>"
      ServeDraft.maxBodyBytes fun value draft => { draft with maxBodyBytes := some value })⟩,
    ⟨"channel-capacity", none, .value (countSlot "--channel-capacity <CHANNEL_CAPACITY>"
      ServeDraft.capacity fun value draft => { draft with capacity := some value })⟩,
    helpSwitch]
  places :=
    [pathSlot "<ENDPOINT>" ServeDraft.endpoint
      fun value draft => { draft with endpoint := some value }]

structure CompletionDraft where
  shell : Option Shell := none

def completionGrammar : Grammar CompletionDraft where
  switches := [helpSwitch]
  places := [wordSlot "<SHELL>" CompletionDraft.shell fun value _ => ⟨some value⟩]

/-- The arguments of a command that takes none. -/
def emptyGrammar : Grammar Unit where
  switches := [helpSwitch]

/-- Reads all arguments of a command, of which `complete` tells whether they are enough. Some
commands need at least one. -/
def Grammar.command {α : Type} (g : Grammar α) (state : α) (mayBeBare : Bool)
    (complete : α → Option Command) (words : List String) : Except Stop Command := do
  let (p, _) ← g.read (g.start state) words
  let p ← p.settle
  if p.isBare && !mayBeBare then .error .bare
  else match complete p.state with
    | some command => .ok command
    | none => .error (.fault .missingArguments)

/-- Why a command line is no invocation, and the command behind which that shows. -/
structure Refusal where
  stop : Stop
  verb : Option Verb := none

/-- What asking for help comes to. Commands have no commands of their own. -/
def helpOn : List String → Refusal
  | [] => { stop := .help }
  | word :: rest =>
      match (Worded.ofWord? word : Option Verb) with
      | none => { stop := .fault (.unknownCommand word) }
      | some verb =>
          { stop := (rest.head?.map fun second => Stop.fault (.unknownCommand second)).getD .help
            verb := some verb }

/-- The command of a verb and the words behind it. -/
def verbCommand (verb : Verb) (words : List String) : Except Refusal Command :=
  let behind (result : Except Stop Command) : Except Refusal Command :=
    result.mapError fun stop => { stop, verb := some verb }
  match verb with
  | .check => behind (checkGrammar.command {} false
      (fun d => d.endpoint.map fun path => .check path d.input) words)
  | .describe => behind (describeGrammar.command {} false (fun d => d.endpoint.map .describe) words)
  | .serve => behind (serveGrammar.command {} false
      (fun d => d.endpoint.map fun path =>
        .serve path (d.bind.getD "127.0.0.1:9800") d.isPublic (d.maxBodyBytes.getD 1048576)
          (d.capacity.getD 16)) words)
  | .version => behind (emptyGrammar.command () true (fun _ => some .version) words)
  | .completion => behind (completionGrammar.command {} false
      (fun d => d.shell.map .completion) words)
  | .help => .error (helpOn words)

/-! ## Whole command lines -/

/-- What is known of a command line in front of its command. -/
structure FrontDraft where
  color : Option ColorMode := none

def frontGrammar : Grammar FrontDraft where
  switches :=
    [⟨"color", none, .value (wordSlot "--color <COLOR>" FrontDraft.color fun value _ =>
      ⟨some value⟩)⟩,
    helpSwitch, ⟨"version", some 'V', .stop "--version" .version⟩]
  commands := (Worded.all : List Verb).map Worded.word

def invocation (words : List String) : Except Refusal Invocation := do
  let front := frontGrammar.read (frontGrammar.start {}) words
  match ← front.mapError fun stop => { stop } with
  | (p, none) => do
      let p ← p.settle.mapError fun stop => { stop }
      .error { stop := if p.isBare then .bare else .fault .missingCommand }
  | (p, some (word, rest)) =>
      match (Worded.ofWord? word : Option Verb) with
      | none => .error { stop := .fault (.unknownCommand word) }
      | some verb => do
          let command ← verbCommand verb rest
          let p ← p.settle.mapError fun stop => { stop }
          .ok { color := p.state.color.getD .auto, command }

/-! ## Reports -/

/-- The wording of a fault. What was typed is shown without control codes. -/
def Fault.message : Fault → String
  | .unexpected word => "unexpected argument '" ++ Text.withoutControls word ++ "' found"
  | .surplus value label =>
      "unexpected value '" ++ Text.withoutControls value ++ "' for '" ++ label ++
        "' found; no more were expected"
  | .repeated label => "the argument '" ++ label ++ "' cannot be used multiple times"
  | .missingValue label => "a value is required for '" ++ label ++ "' but none was supplied"
  | .invalidValue value label reason =>
      "invalid value '" ++ Text.withoutControls value ++ "' for '" ++ label ++ "'" ++
        reason.elim "" (": " ++ ·)
  | .missingArguments => "the following required arguments were not provided:"
  | .missingCommand => "'paramflow' requires a subcommand but one was not provided"
  | .unknownCommand word => "unrecognized subcommand '" ++ Text.withoutControls word ++ "'"

/-- Whether the usage of the command at hand helps with a fault. -/
def Fault.isAboutUsage : Fault → Bool
  | .unexpected _ => true
  | .surplus _ _ => true
  | .repeated _ => true
  | .missingArguments => true
  | .missingValue _ => false
  | .invalidValue _ _ _ => false
  | .missingCommand => true
  | .unknownCommand _ => true

def usage : Option Verb → String
  | none => "Usage: paramflow [OPTIONS] <COMMAND>"
  | some .check => "Usage: paramflow check [OPTIONS] <ENDPOINT>"
  | some .describe => "Usage: paramflow describe <ENDPOINT>"
  | some .serve => "Usage: paramflow serve [OPTIONS] <ENDPOINT>"
  | some .version => "Usage: paramflow version"
  | some .completion => "Usage: paramflow completion <SHELL>"
  | some .help => "Usage: paramflow help [COMMAND]..."

/-- The lines of the full report of a fault, behind a command or in front of it. What was typed may
bring lines of its own. -/
def Fault.lines (verb : Option Verb) (f : Fault) : List (List Char) :=
  (f.message.toList.splitOn '\n' ++ if f.isAboutUsage then [(usage verb).toList] else []).map
    Text.trimChars

def wordsOf (line : List Char) : List String :=
  ((line.splitOnP Text.isSpace).filter (!·.isEmpty)).map String.ofList

/-- The command in the words of a usage: what follows the name of the program, unless an option or a
place for a value stands there. -/
def usedCommand? (words : List String) : Option String :=
  match words.dropWhile (· != "paramflow") with
  | _ :: word :: _ =>
      if word.toList.head?.any (· ∈ ['-', '<', '[']) then none else some word
  | _ => none

/-- Which help to turn to: that on the command in the first line that shows a usage. -/
def Fault.hint (verb : Option Verb) (f : Fault) : String :=
  match ((f.lines verb).find? ("Usage: ".toList.isPrefixOf ·)).bind (usedCommand? ∘ wordsOf) with
  | some command => "Try `paramflow " ++ command ++ " --help`."
  | none => "Try `paramflow --help`."

/-- The report of a fault, of which the first line is told. -/
def Fault.error (verb : Option Verb) (f : Fault) : Error where
  kind := .usage
  message := some (String.ofList ((f.lines verb).headD []))
  hint := some (f.hint verb)

end Intake.Arguments
