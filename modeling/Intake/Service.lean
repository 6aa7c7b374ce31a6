import Intake.Stream

/-!
# Services

A service validates any number of streams for one endpoint. Each stream has a state of its own; what
they share is the list of defaults that gave a value and the place where failures are reported.
-/

namespace Intake

/-- An endpoint and the number of results that a stream may hold ready. -/
structure Service where
  endpoint : Endpoint
  capacity : Nat := 16
  capacity_pos : 0 < capacity := by omega

namespace Service

/-- The same service with another capacity, at least 1. -/
def withCapacity (v : Service) (capacity : Nat) : Service :=
  ⟨v.endpoint, max capacity 1, by omega⟩

def session (v : Service) : Stream := { endpoint := v.endpoint }

end Service

/-! ## Sessions -/

structure Sessions where
  streams : List Stream
  supplied : List ParameterId := []
  /-- The failures reported so far, in order. -/
  reported : List Error := []

namespace Sessions

def start (v : Service) (count : Nat) : Sessions := { streams := List.replicate count v.session }

/-- The state of a stream, with what all streams share. -/
def stream? (s : Sessions) (k : Nat) : Option Stream :=
  s.streams[k]?.map fun stream => { stream with supplied := s.supplied }

/-- The sessions after a request was handled on one of the streams. -/
def settle {α : Type} (s : Sessions) (k : Nat) (v : Evaluation α) : Sessions where
  streams := s.streams.set k v.stream
  supplied := v.stream.supplied
  reported := s.reported ++ v.reported

def evaluate {α : Type} (s : Sessions) (k : Nat) (raw : RawRequest) (handler : Handler α) :
    Option (Evaluation α) × Sessions :=
  match s.stream? k with
  | none => (none, s)
  | some stream =>
      let v := stream.evaluate raw handler
      (some v, s.settle k v)

end Sessions

end Intake
