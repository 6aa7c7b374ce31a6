import Intake.Json.Basic
import Intake.Json.Fault

/-!
# JSON documents as written

A document keeps what a value forgets: the order of members, repeated keys, where each part stands
in the text, and where reading stopped if it did. It can be taken as a value (`value?`), in which
the first flaw in reading order counts, or read by a format of its own, which may object to
something before the flaw is reached. A value is turned back into a document by `ofJson`.
-/

namespace Intake.Json

/-- A value without parts, strings excepted. -/
inductive Scalar where
  | null
  | bool (b : Bool)
  | integer (i : Int)
  | float (x : Double)

def Scalar.value : Scalar → Json
  | .null => .null
  | .bool b => .bool b
  | .integer i => .integer i
  | .float x => .float x

/-- The key of a member: `stop` lies behind its closing quote, `limit` also behind the space after
it and behind the closing brace of the object if that follows. -/
structure Key where
  name : String
  stop : Nat
  limit : Nat

mutual
/-- A document; `start` is where its first byte stands, `stop` where the text goes on after it. -/
inductive Document where
  | scalar (start : Nat) (value : Scalar) (stop : Nat)
  | string (start : Nat) (value : String) (stop : Nat)
  | array (start : Nat) (items : Items)
  | object (start : Nat) (members : Members)
  /-- A string that is not well written. -/
  | brokenString (start : Nat) (flaw : Flaw)
  /-- Nothing that could be read as a value. -/
  | broken (start : Nat) (flaw : Flaw)

/-- What stands in an array from some place on. `place` is the byte that decides which it is. -/
inductive Items where
  | close (place : Nat)
  | item (place : Nat) (value : Document) (rest : Items)
  /-- After a comma there is no further item. -/
  | missing (place : Nat) (flaw : Flaw)
  | broken (place : Nat) (flaw : Flaw)

/-- What stands in an object from some place on. -/
inductive Members where
  | close (place : Nat)
  | member (place : Nat) (key : Key) (value : Document) (rest : Members)
  /-- A key without a colon. -/
  | unpaired (place : Nat) (key : Key) (flaw : Flaw)
  | broken (place : Nat) (flaw : Flaw)
end

instance : Inhabited Document := ⟨.scalar 0 .null 0⟩

/-- Where the first byte of a document stands. -/
def Document.start : Document → Nat
  | .scalar start _ _ => start
  | .string start _ _ => start
  | .array start _ => start
  | .object start _ => start
  | .brokenString start _ => start
  | .broken start _ => start

/-! ## As a value -/

mutual
/-- The value of a document, or the first flaw in reading order. -/
def Document.value? : Document → Except Flaw Json
  | .scalar _ v _ => .ok v.value
  | .string _ s _ => .ok (.string s)
  | .array _ items => (items.values? []).map .array
  | .object _ members => (members.values? []).map .object
  | .brokenString _ flaw => .error flaw
  | .broken _ flaw => .error flaw

/-- The values of the items, after those already taken (latest first). -/
def Items.values? (taken : List Json) : Items → Except Flaw (List Json)
  | .close _ => .ok taken.reverse
  | .item _ d rest =>
      match d.value? with
      | .error flaw => .error flaw
      | .ok v => rest.values? (v :: taken)
  | .missing _ flaw => .error flaw
  | .broken _ flaw => .error flaw

/-- The members added to those already taken; a repeated key replaces its value. -/
def Members.values? (taken : Dictionary Json) : Members → Except Flaw (Dictionary Json)
  | .close _ => .ok taken
  | .member _ key d rest =>
      match d.value? with
      | .error flaw => .error flaw
      | .ok v => rest.values? (Dictionary.insert taken key.name v)
  | .unpaired _ _ flaw => .error flaw
  | .broken _ flaw => .error flaw
end

/-! ## From a value -/

mutual
/-- A document that spells a value; its places are all zero. -/
def Document.ofJson : Json → Document
  | .null => .scalar 0 .null 0
  | .bool b => .scalar 0 (.bool b) 0
  | .integer i => .scalar 0 (.integer i) 0
  | .float x => .scalar 0 (.float x) 0
  | .string s => .string 0 s 0
  | .array items => .array 0 (Items.ofList items)
  | .object members => .object 0 (Members.ofList members)

def Items.ofList : List Json → Items
  | [] => .close 0
  | v :: rest => .item 0 (Document.ofJson v) (Items.ofList rest)

def Members.ofList : List (String × Json) → Members
  | [] => .close 0
  | (key, v) :: rest => .member 0 ⟨key, 0, 0⟩ (Document.ofJson v) (Members.ofList rest)
end

end Intake.Json
