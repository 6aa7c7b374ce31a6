import Intake.Action
import Intake.Command.Run
import Intake.Inspect
import Intake.Main
import Intake.Server.Respond
import Intake.Service.Schedule
import Intake.Proofs.Constancy.Course
import Intake.Proofs.Json.Equality
import Intake.Proofs.Constancy.Fixed
import Intake.Proofs.Constancy.Erasure
import Intake.Proofs.Element.Occurrence
import Intake.Proofs.Stream.Reachable
import Intake.Proofs.Stream.Commit
import Intake.Proofs.Element.Findings
import Intake.Proofs.Endpoint.Registry
import Intake.Proofs.Request.Decoding
import Intake.Proofs.Stream.Reference
import Intake.Proofs.Stream.Refinement
import Intake.Proofs.Request.Settlement
import Intake.Proofs.Request.Script
import Intake.Proofs.Element.Plan
import Intake.Proofs.Stream.Reporting
import Intake.Proofs.Element.Resolution
import Intake.Proofs.Request.Batches
import Intake.Proofs.Stream.Renaming
import Intake.Proofs.Service.Delivery
import Intake.Proofs.Server.Agreement
import Intake.Proofs.Stream.Counts
import Intake.Proofs.Service.Backpressure
import Intake.Proofs.Service.Isolation
import Intake.Proofs.Service.Scheduling
import Intake.Proofs.Description.Defaults
import Intake.Proofs.Stream.Soundness
import Intake.Proofs.Check.Consistency
import Intake.Proofs.Request.Numbering
import Intake.Proofs.Stream.Reordering
import Intake.Proofs.Stream.Rewriting
import Intake.Proofs.Endpoint.Registration
import Intake.Proofs.Description.Acceptance
import Intake.Proofs.Description.Spelling
import Intake.Proofs.Description.Rendering
import Intake.Proofs.Constancy.Persistence
import Intake.Proofs.Stream.Logging
import Intake.Proofs.AccessLog.Entry
