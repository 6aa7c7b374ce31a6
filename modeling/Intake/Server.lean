import Intake.Service
import Intake.SocketAddress

/-!
# Servers

A server offers one endpoint at an address. It stays on the machine itself unless it is told
otherwise, and its limits are positive. Main statement: settings make a server exactly when they
keep these rules.
-/

namespace Intake

structure ServerSettings where
  address : SocketAddress
  endpoint : Endpoint
  /-- Whether other machines may reach the server. -/
  isPublic : Bool := false
  maxBodyBytes : Nat := 1048576
  capacity : Nat := 16

/-- An endpoint offered at an address. Longer request bodies are refused. -/
structure Server where
  address : SocketAddress
  service : Service
  maxBodyBytes : Nat
  maxBodyBytes_pos : 0 < maxBodyBytes := by omega

namespace ServerSettings

inductive Fault where
  | exposed
  | noBody
  | noCapacity
  deriving DecidableEq

def Fault.error : Fault → Error
  | .exposed =>
      { kind := .usage
        message := some "non-loopback bind requires explicit opt-in"
        hint := some "Re-run with --allow-non-loopback or use a loopback address." }
  | .noBody =>
      { kind := .usage
        message := some "--max-body-bytes must be greater than zero"
        hint := some "Use a positive value like 1048576." }
  | .noCapacity =>
      { kind := .usage
        message := some "--channel-capacity must be greater than zero"
        hint := some "Use a positive value like 16." }

/-- The server of settings, or the first fault in them. -/
def server (s : ServerSettings) : Except Fault Server :=
  if !s.address.isLoopback && !s.isPublic then .error .exposed
  else if hb : s.maxBodyBytes = 0 then .error .noBody
  else if hc : s.capacity = 0 then .error .noCapacity
  else .ok
    { address := s.address, maxBodyBytes := s.maxBodyBytes
      service := { endpoint := s.endpoint, capacity := s.capacity } }

theorem server_isOk_iff (s : ServerSettings) :
    s.server.isOk ↔
      (s.address.isLoopback ∨ s.isPublic) ∧ 0 < s.maxBodyBytes ∧ 0 < s.capacity := by
  simp only [server]
  split
  · simp_all [Except.isOk, Except.toBool]
  · split
    · simp_all [Except.isOk, Except.toBool]
    · split
      · simp_all [Except.isOk, Except.toBool]
      · rename_i h hb hc
        simp only [Except.isOk, Except.toBool, true_iff]
        refine ⟨?_, by omega, by omega⟩
        by_cases hl : s.address.isLoopback
        · exact .inl hl
        · exact .inr (by simpa [hl] using h)

end ServerSettings

end Intake
