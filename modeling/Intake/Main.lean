import Intake.Command.Run
import Intake.Server.Respond
import Std.Http
import Std.Time

/-!
# The program

The outer layer: it reads what a command asks for, runs it, prints what it comes to and opens the
server that it may come to.
-/

namespace Intake.Program

open Std.Async (Async ContextAsync)

/-! ## Reading -/

/-- The number and the words of a failure of the system. -/
def codeAndDetails : IO.Error → UInt32 × String
  | .alreadyExists _ code details => (code, details)
  | .otherError code details => (code, details)
  | .resourceBusy code details => (code, details)
  | .resourceVanished code details => (code, details)
  | .unsupportedOperation code details => (code, details)
  | .hardwareFault code details => (code, details)
  | .unsatisfiedConstraints code details => (code, details)
  | .illegalOperation code details => (code, details)
  | .protocolError code details => (code, details)
  | .timeExpired code details => (code, details)
  | .interrupted _ code details => (code, details)
  | .noFileOrDirectory _ code details => (code, details)
  | .invalidArgument _ code details => (code, details)
  | .permissionDenied _ code details => (code, details)
  | .resourceExhausted _ code details => (code, details)
  | .inappropriateType _ code details => (code, details)
  | .noSuchThing _ code details => (code, details)
  | .unexpectedEof => (0, "unexpected end of file")
  | .userError details => (0, details)

def usualWords? : UInt32 → Option String
  | 2 => some "No such file or directory"
  | 13 => some "Permission denied"
  | 20 => some "Not a directory"
  | 21 => some "Is a directory"
  | 36 => some "File name too long"
  | 97 => some "Address family not supported by protocol"
  | 98 => some "Address already in use"
  | 99 => some "Cannot assign requested address"
  | _ => none

/-- A failure of the system, whose number may come with its sign turned. -/
def systemFailure (e : IO.Error) : SystemFailure :=
  let (signed, details) := codeAndDetails e
  let code := if 0x80000000 ≤ signed then 0 - signed else signed
  { text := (usualWords? code).getD details ++ " (os error " ++ toString code.toNat ++ ")"
    isMissing := code == 2 }

def attempt (action : IO ByteArray) : IO (Except SystemFailure (List UInt8)) := do
  match ← action.toBaseIO with
  | .ok bytes => return .ok bytes.toList
  | .error e => return .error (systemFailure e)

def randomIds (count : Nat) : IO (Array ParameterId) := do
  let mut ids := #[]
  for _ in [0:count] do
    let bytes ← IO.getRandomBytes 16
    ids := ids.push ⟨BitVec.ofNat 128 (bytes.foldl (fun n b => n * 256 + b.toNat) 0)⟩
  return ids

/-- A number with at least so many digits. -/
def padded (width n : Nat) : String :=
  let digits := toString n
  String.ofList (List.replicate (width - digits.length) '0') ++ digits

/-- The time now, in universal time and with no more digits than it needs. -/
def timestamp : IO String := do
  let now ← Std.Time.Timestamp.now
  let second := now.toSecondsSinceUnixEpoch.val
  let nano := now.val.nano.val.toNat
  let date := Std.Time.PlainDate.ofEpochDay (.ofInt (second.fdiv 86400))
  let ofDay := (second.fmod 86400).toNat
  let fraction := (padded 9 nano).toList.reverse.dropWhile (· == '0')
  return date.toSQLDateString ++ "T" ++ padded 2 (ofDay / 3600) ++ ":" ++
    padded 2 (ofDay / 60 % 60) ++ ":" ++ padded 2 (ofDay % 60) ++
    (if fraction.isEmpty then "" else "." ++ String.ofList fraction.reverse) ++ "Z"

/-- The surroundings of a command, with all that it reads. A batch is read last, and only if there
is an endpoint to check it against. -/
def surroundings (command : Option Command) : IO Surroundings := do
  let description ← match command.bind Command.endpointPath? with
    | some path => attempt (IO.FS.readBinFile path)
    | none => pure (.ok [])
  let size := match description with
    | .ok bytes => bytes.length
    | .error _ => 0
  let ids ← randomIds (size / 5)
  let w : Surroundings :=
    { description := fun _ => description
      input := fun _ => .ok []
      outputIsTerminal := ← (← IO.getStdout).isTty
      errorsAreTerminal := ← (← IO.getStderr).isTty
      time := ← timestamp
      ids := fun k => (ids[k]?).getD ⟨0⟩ }
  let isFit := (command.bind Command.endpointPath?).any fun path => (w.endpoint path).isOk
  match command.bind Command.input? with
  | some source =>
      if isFit then
        let input ← attempt (read source)
        return { w with input := fun _ => input }
      else return w
  | none => return w
where
  /-- All bytes of a file, or else of the standard input. -/
  read : Option String → IO ByteArray
    | some path => IO.FS.readBinFile path
    | none => do readAll (← IO.getStdin) .empty
  /-- All bytes of a stream, after those read before. -/
  readAll (stream : IO.FS.Stream) (earlier : ByteArray) : IO ByteArray := do
    let mut bytes := earlier
    repeat
      let more ← stream.read 65536
      if more.isEmpty then break
      bytes := bytes ++ more
    return bytes

/-! ## Printing -/

def print (o : Outcome) : IO UInt32 := do
  for text in o.output do IO.println text
  for text in o.errors do IO.eprintln text
  return o.exitCode.toUInt32

/-! ## Serving -/

def netAddress (a : SocketAddress) : Std.Net.SocketAddress :=
  match a.host with
  | .v4 w x y z => .v4 ⟨.ofParts w x y z, a.port⟩
  | .v6 groups _ => .v6 ⟨⟨groups⟩, a.port⟩

def ofNetAddress : Std.Net.SocketAddress → SocketAddress
  | .v4 a => ⟨.v4 a.addr.octets[0] a.addr.octets[1] a.addr.octets[2] a.addr.octets[3], a.port⟩
  | .v6 a => ⟨.v6 a.addr.segments 0, a.port⟩

def clientAddress (request : Std.Http.Request Std.Http.Body.Stream) : SocketAddress :=
  match request.extensions.get Std.Http.Server.RemoteAddr with
  | some remote => ofNetAddress remote.addr
  | none => ⟨.v4 0 0 0 0, 0⟩

/-- The bytes of a body, as far as they are needed to see that there are more than allowed. -/
def readBody (limit : Nat) (body : Std.Http.Body.Stream) : ContextAsync ByteArray := do
  let mut bytes := ByteArray.empty
  for chunk in body do
    bytes := bytes ++ chunk.data
    if limit < bytes.size then break
  return bytes

def answer (s : Server) (request : Std.Http.Request Std.Http.Body.Stream) :
    ContextAsync (Std.Http.Response Std.Http.Body.Any) := do
  let body ← readBody s.maxBodyBytes request.body
  let reply := s.respond
    { method := toString request.line.method
      target := toString request.line.uri
      fields := request.line.headers.toList.map fun (name, value) =>
        (name.value, Text.Utf8.encode value.value)
      body := body.toList
      remote := clientAddress request }
  let status := (Std.Http.Status.ofCode none reply.status.toUInt16).getD .internalServerError
  let start := Std.Http.Response.withStatus status
  let builder := reply.fields.foldl
    (fun b f => (b.header? f.1 f.2).getD b) start
  let response ← builder.fromBytes reply.body.toUTF8
  return response

/-- Opens a server and lets it run until the program is told to stop. -/
def serve (s : Server) (setting : Outcome.Setting) : IO UInt32 := do
  let config : Std.Http.Config := { maxBodySize := UInt64.size, maxChunkSize := UInt64.size }
  let handler := Std.Http.Server.Handler.ofFn (answer s)
  let opening := Std.Http.Server.serve (netAddress s.address) handler config
  match ← opening.block.toBaseIO with
  | .error e => print (Command.unopened setting (systemFailure e))
  | .ok running =>
      let terminated ← Std.Async.Signal.Waiter.mk .sigterm false
      let interrupted ← Std.Async.Signal.Waiter.mk .sigint false
      let closing : Async Unit := do
        Std.Async.Selectable.one #[.case terminated.selector pure, .case interrupted.selector pure]
        running.shutdownAndWait
      closing.block
      return 0

end Intake.Program

open Intake in
def main (words : List String) : IO UInt32 := do
  let command := match Arguments.invocation words with
    | .ok i => some i.command
    | .error _ => none
  match Command.run (← Program.surroundings command) words with
  | .done o => Program.print o
  | .ready server setting => Program.serve server setting
