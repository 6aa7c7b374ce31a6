import Intake.Json.Basic

/-!
# Notices

A notice tells an operator about something that did not stop a command, such as a rejected request.
-/

namespace Intake

structure Notice where
  kind : String
  time : String
  cmd : String
  endpoint : String
  message : String
  details : Dictionary Json

def Notice.toJson (n : Notice) : Json :=
  .ofMembers [("notice",
    .ofMembers [("kind", .string n.kind), ("time", .string n.time), ("cmd", .string n.cmd),
      ("endpoint", .string n.endpoint), ("message", .string n.message),
      ("details", .object n.details)])]

end Intake
