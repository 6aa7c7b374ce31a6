import Intake.Check
import Intake.Command.Arguments
import Intake.Command.Outcome
import Intake.Description.Reader
import Intake.Server

/-!
# Running commands

A command runs in surroundings that it reads files from and prints to. It comes to an outcome; only
the command to serve, once all is in order, comes to a server that is to be opened.
-/

namespace Intake

/-! ## Surroundings -/

/-- Why the system did not do what it was asked for. -/
structure SystemFailure where
  text : String
  /-- Whether the thing asked for is not there. -/
  isMissing : Bool := false

structure Surroundings where
  /-- What is in the file of a description. -/
  description : String → Except SystemFailure (List UInt8)
  /-- What is read as a batch, from a file or else from the standard input, after the description
  was read. -/
  input : Option String → Except SystemFailure (List UInt8)
  outputIsTerminal : Bool := false
  errorsAreTerminal : Bool := false
  time : String
  ids : Nat → ParameterId

def Surroundings.setting (w : Surroundings) (color : ColorMode) : Outcome.Setting where
  outputIsTerminal := w.outputIsTerminal
  errorsAreTerminal := w.errorsAreTerminal
  color := color

/-! ## Failures -/

/-- The report of a failure of the system; what is missing may be told apart. -/
def SystemFailure.error (f : SystemFailure) (kind : ErrorKind) (message : String) : Error :=
  { kind, message := some message, origin := [f.text] }

/-- The hint that goes with a kind of failure if no better one is known. -/
def ErrorKind.hint? : ErrorKind → Option String
  | .notFound => some "Check the path and try again."
  | .io => some "I/O error. Check the path and file permissions."
  | .internal => some ("Unexpected internal failure. Retry with RUST_BACKTRACE=1 and share " ++
      "command/context if it persists.")
  | .usage => none
  | .badInput => none

/-- The same report with the hint of its kind, unless it has one. -/
def Error.withUsualHint (e : Error) : Error := { e with hint := e.hint.or e.kind.hint? }

/-! ## Reading files -/

def unreadableDescription (path : String) (f : SystemFailure) : Error :=
  f.error (if f.isMissing then .notFound else .io)
    ("failed to read endpoint description '" ++ path ++ "'")

def Surroundings.endpoint (w : Surroundings) (path : String) : Except Error Endpoint := do
  let bytes ← (w.description path).mapError (unreadableDescription path)
  let text ← (Text.Utf8.decode bytes).mapError fun _ =>
    unreadableDescription path { text := "stream did not contain valid UTF-8" }
  let description ← Description.parse text
  (description.toEndpoint w.ids).mapError Description.Unfit.error

/-- The bytes of a batch and the name of where it comes from. -/
def Surroundings.batch (w : Surroundings) : Option String → Except Error (String × List UInt8)
  | some path => do
      let bytes ← (w.input path).mapError fun f =>
        f.error .io ("failed to read input '" ++ path ++ "'")
      .ok (path, bytes)
  | none => do
      let bytes ← (w.input none).mapError fun f => f.error .io "failed to read stdin"
      .ok ("stdin", bytes)

/-! ## Commands -/

namespace Command

def release : String := "0.1.0"

def versionText : String := "paramflow " ++ release

def versionDocument : Json :=
  .ofMembers [("name", .string "paramflow"), ("version", .string release)]

def runCheck (w : Surroundings) (s : Outcome.Setting) (path : String) (input : Option String) :
    Except Error Outcome := do
  let endpoint ← w.endpoint path
  let (source, bytes) ← w.batch input
  let base : Metadata := ({} : Metadata).withInformation "source" source
  let requests ← RequestLines.read source base bytes
  let check := Check.run endpoint w.time requests
  .ok
    { exitCode := check.exitCode
      output := check.lines.map Json.compact
      errors := check.notices.map (Outcome.noticeText s) }

def runDescribe (w : Surroundings) (s : Outcome.Setting) (path : String) :
    Except Error Outcome := do
  let endpoint ← w.endpoint path
  .ok { exitCode := 0, output := [Outcome.documentText s endpoint.toJson] }

/-- The server that is asked for. The address is judged first, then the description, then the
rest. -/
def prepare (w : Surroundings) (path bind : String) (isPublic : Bool)
    (maxBodyBytes capacity : Nat) : Except Error Server :=
  match SocketAddress.ofText? bind with
  | none => .error
      { kind := .usage
        message := some "invalid bind address"
        hint := some "Use a host:port value like 127.0.0.1:9800." }
  | some address => do
      let endpoint ← w.endpoint path
      let settings : ServerSettings := { address, endpoint, isPublic, maxBodyBytes, capacity }
      settings.server.mapError ServerSettings.Fault.error

def tellVersion (s : Outcome.Setting) : Outcome where
  exitCode := 0
  output := [if s.outputIsTerminal then versionText else versionDocument.compact]

/-- What makes a shell complete the words that name commands. -/
def completionScript (shell : Shell) : String :=
  let words := (Worded.all : List Verb).map Worded.word
  let spaced := " ".intercalate words
  match shell with
  | .bash => "complete -W \"" ++ spaced ++ "\" paramflow"
  | .elvish =>
      "set edit:completion:arg-completer[paramflow] = \x7b|@words| put " ++ spaced ++ " \x7d"
  | .fish => "complete -c paramflow -f -a \"" ++ spaced ++ "\""
  | .powershell =>
      "Register-ArgumentCompleter -Native -CommandName paramflow -ScriptBlock \x7b " ++
        ", ".intercalate (words.map fun word => "'" ++ word ++ "'") ++ " \x7d"
  | .zsh => "#compdef paramflow\n_arguments \"1:command:(" ++ spaced ++ ")\""

inductive Result where
  | done (o : Outcome)
  /-- A server that is ready to be opened. -/
  | ready (server : Server) (s : Outcome.Setting)

/-- The end of a command that failed while it ran. -/
def fail (s : Outcome.Setting) (e : Error) : Outcome := .failure s e.withUsualHint

/-- What a refused command line comes to. Its color mode does not count. -/
def refuse (w : Surroundings) (r : Arguments.Refusal) : Outcome :=
  match r.stop with
  | .fault f => .failure (w.setting .auto) (f.error r.verb)
  | .help => { exitCode := 0, output := [Arguments.usage r.verb] }
  | .version => { exitCode := 0, output := [versionText] }
  | .bare => { exitCode := ErrorKind.usage.exitCode, errors := [Arguments.usage r.verb] }

def runInvocation (w : Surroundings) (i : Invocation) : Result :=
  let s := w.setting i.color
  let finish (result : Except Error Outcome) : Result :=
    match result with
    | .ok o => .done o
    | .error e => .done (fail s e)
  match i.command with
  | .check path input => finish (runCheck w s path input)
  | .describe path => finish (runDescribe w s path)
  | .serve path bind isPublic maxBodyBytes capacity =>
      match prepare w path bind isPublic maxBodyBytes capacity with
      | .ok server => .ready server s
      | .error e => .done (fail s e)
  | .version => .done (tellVersion s)
  | .completion shell => .done { exitCode := 0, output := [completionScript shell] }

def run (w : Surroundings) (words : List String) : Result :=
  match Arguments.invocation words with
  | .error refusal => .done (refuse w refusal)
  | .ok i => runInvocation w i

/-- The end of a command whose server could not be opened. -/
def unopened (s : Outcome.Setting) (f : SystemFailure) : Outcome :=
  fail s (f.error .io "failed to bind server")

end Command

end Intake
