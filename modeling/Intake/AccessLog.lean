import Intake.Endpoint
import Intake.Metadata

/-!
# Access logs

The log of a request tells which parameters a handler has read and what it got for them, as compact
JSON. Values of 8 KiB or more are replaced as a whole.
-/

namespace Intake

/-- What was read, by name. -/
abbrev AccessLog := Dictionary String

namespace AccessLog

/-- Encodings of this many bytes or more are left out. -/
def maxBytes : Nat := 8192

def placeholder : String := "Parameter data too large"

def entry (value : Json) : String :=
  let encoded := value.compact
  if maxBytes ≤ encoded.utf8ByteSize then placeholder else encoded

def record (log : AccessLog) (name : String) (value : Json) : AccessLog :=
  log.insert name (entry value)

def oneLine (s : String) : String :=
  Text.trim (String.ofList (s.toList.map fun c => if c == '\n' then ' ' else c))

def textObject (d : Dictionary String) : Json := .object (d.map fun e => (e.1, .string e.2))

def metadata (e : Endpoint) (m : Metadata) (log : AccessLog) : Json :=
  .ofMembers [("request-description", .string (oneLine m.description)),
    ("remoteAddress", .string (m.remote.elim "" SocketAddress.text)),
    ("information", textObject m.information), ("endpoint", .string e.name),
    ("endpointPattern", .string (Worded.word e.pattern)),
    ("endpointParameters", .array (e.parameters.map fun p => .string p.summary)),
    ("parameters", textObject log)]

end AccessLog

end Intake
