import Intake.Request
import Intake.Table

/-!
# Decoding

An exchange is a raw request together with what it has been asked so far. A cached exchange keeps
each value it was given and never asks for that id again; failures are not kept, so the next attempt
asks anew. Either can be decoded from.
-/

namespace Intake

/-- States from which parameters are decoded. -/
class Decoder (σ : Type) where
  decode : σ → Parameter → Except DecodeFailure Json × σ
  metadata : σ → Metadata

/-! ## Plain exchanges -/

/-- A raw request and what it was asked, latest first. -/
structure Exchange where
  request : RawRequest
  asked : List Parameter := []

def Exchange.decode (x : Exchange) (p : Parameter) : Except DecodeFailure Json × Exchange :=
  (x.request.answer x.asked p, { x with asked := p :: x.asked })

instance : Decoder Exchange where
  decode := Exchange.decode
  metadata x := x.request.metadata

/-! ## Cached exchanges -/

structure Cached where
  exchange : Exchange
  values : Table ParameterId Json := []

/-- The cached value of an id, or else the answer of the exchange. -/
def Cached.decode (c : Cached) (p : Parameter) : Except DecodeFailure Json × Cached :=
  match c.values.get? p.id with
  | some v => (.ok v, c)
  | none =>
      match c.exchange.decode p with
      | (.ok v, x) => (.ok v, ⟨x, c.values.put p.id v⟩)
      | (.error d, x) => (.error d, { c with exchange := x })

instance : Decoder Cached where
  decode := Cached.decode
  metadata c := c.exchange.request.metadata

end Intake
