import Intake.Description
import Intake.Json.Found
import Intake.Json.Reader

/-!
# Reading endpoint descriptions

A record is written as an object of named fields or as an array of its fields in order. Fields other
than the name may be left out; no other fields are allowed, and none twice. A word of a small type
is written as a string or as an object whose one key is the word and whose value is null. A default
of null is none. Objections of the format are raised where they arise, so one that comes before a
flaw in the text is reported instead of it.
-/

namespace Intake.Description

open Json (Document Items Members Key Position ticked)

/-! ## Faults -/

inductive Fault where
  | text (fault : Json.Fault)
  | unknownField (name : String) (expected : List String)
  | duplicateField (name : String)
  | missingField (name : String)
  | unknownWord (word : String) (expected : List String)
  | wrongType (found : String) (expected : String)
  | tooShort (expected : String)

/-- A fault and the number of bytes before the place that is reported for it. -/
structure Flaw where
  fault : Fault
  offset : Nat

def Flaw.ofText (f : Json.Flaw) : Flaw := ⟨.text f.fault, f.offset⟩

def choice (words : List String) : String :=
  match words with
  | [a, b] => ticked a ++ " or " ++ ticked b
  | _ => "one of " ++ ", ".intercalate (words.map ticked)

def Fault.message : Fault → String
  | .text fault => fault.text
  | .unknownField name expected =>
      "unknown field " ++ ticked name ++ ", expected " ++ choice expected
  | .duplicateField name => "duplicate field " ++ ticked name
  | .missingField name => "missing field " ++ ticked name
  | .unknownWord word expected =>
      "unknown variant " ++ ticked word ++ ", expected " ++ choice expected
  | .wrongType found expected => Json.wrongType found expected
  | .tooShort expected => "invalid length 0, expected " ++ expected

def Flaw.report (f : Flaw) (text : String) : String :=
  (Position.of text f.offset).locate f.fault.message

/-! ## Texts, words and values -/

def mistyped (expected : String) : Document → Flaw
  | .scalar _ v stop => ⟨.wrongType v.value.found expected, stop⟩
  | .string _ s stop => ⟨.wrongType (Json.string s).found expected, stop⟩
  | .array start _ => ⟨.wrongType (Json.array []).found expected, start⟩
  | .object start _ => ⟨.wrongType (Json.object []).found expected, start⟩
  | .brokenString _ flaw => .ofText flaw
  | .broken _ flaw => .ofText flaw

def text? : Document → Except Flaw String
  | .string _ s _ => .ok s
  | d => .error (mistyped "a string" d)

/-- The value of a word that ends at a place. -/
def ofWord? {α : Type} [Worded α] (word : String) (stop : Nat) : Except Flaw α :=
  match Worded.ofWord? word with
  | some a => .ok a
  | none => .error ⟨.unknownWord word ((Worded.all : List α).map Worded.word), stop⟩

def unit? : Document → Except Flaw Unit
  | .scalar _ .null _ => .ok ()
  | d => .error (mistyped "unit" d)

def closed? : Members → Except Flaw Unit
  | .close _ => .ok ()
  | .member place _ _ _ => .error ⟨.text .valueExpected, place⟩
  | .unpaired place _ _ => .error ⟨.text .valueExpected, place⟩
  | .broken place flaw =>
      .error (if flaw.fault = .endInObject then .ofText flaw else ⟨.text .valueExpected, place⟩)

/-- Reads a word of a small type from the members of an object. -/
def wordMembers? {α : Type} [Worded α] : Members → Except Flaw α
  | .close place => .error ⟨.text .valueExpected, place + 1⟩
  | .member _ key value rest => do
      let a ← ofWord? key.name key.stop
      unit? value
      closed? rest
      .ok a
  | .unpaired _ key flaw => do
      let _ : α ← ofWord? key.name key.stop
      .error (.ofText flaw)
  | .broken _ flaw => .error (.ofText flaw)

def word? {α : Type} [Worded α] : Document → Except Flaw α
  | .string _ s stop => ofWord? s stop
  | .object _ members => wordMembers? members
  | .brokenString _ flaw => .error (.ofText flaw)
  | .broken start flaw =>
      .error (if flaw.fault = .endInValue ∧ flaw.offset = start then .ofText flaw
        else ⟨.text .valueExpected, start + 1⟩)
  | .scalar start _ _ => .error ⟨.text .valueExpected, start + 1⟩
  | .array start _ => .error ⟨.text .valueExpected, start + 1⟩

/-- Reads a value or null for none. -/
def optional? : Document → Except Flaw (Option Json)
  | .scalar _ .null _ => .ok none
  | d => (d.value?.mapError Flaw.ofText).map some

/-! ## Records

A record is read into a draft, field by field. `Draft` fills in what was left out. -/

/-- A record type: its fields in order and how a draft takes one in. -/
class Record (ρ : Type) where
  Draft : Type
  empty : Draft
  fields : List String
  /-- Whether a draft has a field already. -/
  has : Draft → String → Bool
  take : Draft → String → Document → Except Flaw Draft
  /-- The record of a draft, or the name of the first field that is missing. -/
  finish : Draft → Except String ρ
  /-- How reports call the type. -/
  title : String

/-- The flaw of a key that is no field, or one that the draft has already. -/
def keyFlaw? (ρ : Type) [Record ρ] (draft : Record.Draft ρ) (key : Key) : Option Flaw :=
  if key.name ∉ Record.fields ρ then
    some ⟨.unknownField key.name (Record.fields ρ), key.limit⟩
  else if Record.has draft key.name then some ⟨.duplicateField key.name, key.limit⟩
  else none

/-- Reads a record from the members of an object. -/
def recordMembers? (ρ : Type) [Record ρ] (draft : Record.Draft ρ) : Members → Except Flaw ρ
  | .close place =>
      (Record.finish draft).mapError fun name => ⟨.missingField name, place + 1⟩
  | .member _ key value rest =>
      match keyFlaw? ρ draft key with
      | some flaw => .error flaw
      | none => do
          let draft ← Record.take draft key.name value
          recordMembers? ρ draft rest
  | .unpaired _ key flaw => .error ((keyFlaw? ρ draft key).getD (.ofText flaw))
  | .broken _ flaw => .error (.ofText flaw)

/-- The flaw of an array that goes on after the last field, if it does. -/
def surplus? : Items → Option Flaw
  | .close _ => none
  | .item _ value _ => some ⟨.text .trailingText, value.start + 1⟩
  | .missing _ flaw =>
      some (if flaw.fault = .trailingComma then .ofText flaw
        else ⟨.text .trailingText, flaw.offset⟩)
  | .broken _ flaw =>
      some (if flaw.fault = .endInList then .ofText flaw else ⟨.text .trailingText, flaw.offset⟩)

/-- Reads the given fields of a record from the items of an array. -/
def recordItems? (ρ : Type) [Record ρ] (draft : Record.Draft ρ) :
    List String → Items → Except Flaw ρ
  | [], items =>
      match surplus? items with
      | some flaw => .error flaw
      | none => (Record.finish draft).mapError fun name => ⟨.missingField name, 0⟩
  | _ :: _, .close place =>
      (Record.finish draft).mapError fun _ =>
        ⟨.tooShort (Record.title ρ ++ " with " ++ toString (Record.fields ρ).length ++ " elements"),
          place + 1⟩
  | field :: fields, .item _ value rest => do
      let draft ← Record.take draft field value
      recordItems? ρ draft fields rest
  | _ :: _, .missing _ flaw => .error (.ofText flaw)
  | _ :: _, .broken _ flaw => .error (.ofText flaw)

def record? (ρ : Type) [Record ρ] : Document → Except Flaw ρ
  | .object _ members => recordMembers? ρ Record.empty members
  | .array _ items => recordItems? ρ Record.empty (Record.fields ρ) items
  | d => .error (mistyped (Record.title ρ) d)

def listItems? (ρ : Type) [Record ρ] : Items → Except Flaw (List ρ)
  | .close _ => .ok []
  | .item _ value rest => do
      let first ← record? ρ value
      let others ← listItems? ρ rest
      .ok (first :: others)
  | .missing _ flaw => .error (.ofText flaw)
  | .broken _ flaw => .error (.ofText flaw)

def list? (ρ : Type) [Record ρ] : Document → Except Flaw (List ρ)
  | .array _ items => listItems? ρ items
  | d => .error (mistyped "a sequence" d)

/-! ## The record types -/

structure ParameterDraft where
  name : Option String := none
  kind : Option Kind := none
  necessity : Option Necessity := none
  mutability : Option Mutability := none
  default : Option (Option Json) := none

instance : Record ParameterDescription where
  Draft := ParameterDraft
  empty := {}
  fields := ["name", "kind", "necessity", "mutability", "default"]
  has draft field :=
    match field with
    | "name" => draft.name.isSome
    | "kind" => draft.kind.isSome
    | "necessity" => draft.necessity.isSome
    | "mutability" => draft.mutability.isSome
    | _ => draft.default.isSome
  take draft field value :=
    match field with
    | "name" => (text? value).map fun v => { draft with name := some v }
    | "kind" => (word? value).map fun v => { draft with kind := some v }
    | "necessity" => (word? value).map fun v => { draft with necessity := some v }
    | "mutability" => (word? value).map fun v => { draft with mutability := some v }
    | _ => (optional? value).map fun v => { draft with default := some v }
  finish draft :=
    match draft.name with
    | none => .error "name"
    | some name =>
        .ok ⟨name, draft.kind.getD .any, draft.necessity.getD .required,
          draft.mutability.getD .variable, draft.default.getD none⟩
  title := "struct ParameterConfig"

structure EndpointDraft where
  name : Option String := none
  pattern : Option Pattern := none
  parameters : Option (List ParameterDescription) := none

instance : Record Description where
  Draft := EndpointDraft
  empty := {}
  fields := ["name", "pattern", "parameters"]
  has draft field :=
    match field with
    | "name" => draft.name.isSome
    | "pattern" => draft.pattern.isSome
    | _ => draft.parameters.isSome
  take draft field value :=
    match field with
    | "name" => (text? value).map fun v => { draft with name := some v }
    | "pattern" => (word? value).map fun v => { draft with pattern := some v }
    | _ => (list? ParameterDescription value).map fun v => { draft with parameters := some v }
  finish draft :=
    match draft.name with
    | none => .error "name"
    | some name => .ok ⟨name, draft.pattern.getD .requestResponse, draft.parameters.getD []⟩
  title := "struct EndpointConfig"

/-! ## Descriptions -/

def ofDocument (d : Document) : Except Flaw Description := record? Description d

def ofJson (j : Json) : Except Flaw Description := ofDocument (Document.ofJson j)

/-- The report of a text that spells no description; `cause` says what is wrong with it. -/
def unreadable (cause : String) : Error :=
  { kind := .usage
    message := some ("invalid endpoint description: " ++ cause)
    hint := some "See `paramflow describe --help` for the expected layout."
    origin := [cause] }

def parse (text : String) : Except Error Description :=
  match Document.read text with
  | (d, trailing) =>
      match ofDocument d, trailing with
      | .error flaw, _ => .error (unreadable (flaw.report text))
      | .ok _, some flaw => .error (unreadable (flaw.report text))
      | .ok description, none => .ok description

end Intake.Description
