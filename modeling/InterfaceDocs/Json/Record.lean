import InterfaceDocs.Json.Sequence

/-!
# Records

A `Shape` describes a record: its fields by name, what each one reads, and the record in which no
field has been read yet.  `Shape.reader` takes the record off the front, written as an object with
the fields in any order and unknown ones skipped, or as a list of all fields in order.  A field may
stand in an object once, under its name or under its second name.
-/

namespace InterfaceDocs.Json

open Reader

/-! ## Shapes -/

/-- What the absence of a field means. -/
inductive Presence
  /-- It is a fault. -/
  | required
  /-- It stays without a value; in a list the field has to be there. -/
  | optional
  /-- It keeps its default. -/
  | defaulted
deriving DecidableEq, Repr

/-- A field of a record: its reader gives the change of the record that sets it. -/
structure RecordField (σ : Type) where
  name : String
  secondName : Option String
  presence : Presence
  read : Reader (σ → σ)

/-- A kind of record. -/
structure Shape (σ : Type) where
  /-- What messages call it. -/
  label : String
  fields : List (RecordField σ)
  /-- The record before any field. -/
  empty : σ

variable {σ : Type}

namespace RecordField

/-- Whether a key means the field. -/
def answersTo (f : RecordField σ) (k : String) : Bool := f.name = k || f.secondName = some k

theorem answersTo_iff (f : RecordField σ) (k : String) :
    f.answersTo k ↔ k ∈ f.name :: f.secondName.toList := by
  rw [List.mem_cons, @eq_comm _ k f.name]
  simp [answersTo]

end RecordField

namespace Shape

def field? (shape : Shape σ) (k : String) : Option (RecordField σ) :=
  shape.fields.find? (·.answersTo k)

/-! ## Records written as objects -/

/-- One entry, given the record so far and the names of the fields that it has. -/
def entry (shape : Shape σ) (state : σ × List String) : Reader (σ × List String) := do
  let k ← key
  match shape.field? k with
  | none =>
    colon
    skip
    pure state
  | some f =>
    if f.name ∈ state.2 then fail (.duplicateField f.name)
    else
      colon
      let set ← f.read
      pure (set state.1, f.name :: state.2)

/-- The first required field that is not among the names. -/
def missing? (shape : Shape σ) (present : List String) : Option (RecordField σ) :=
  shape.fields.find? fun f => f.presence = .required && f.name ∉ present

/-- The entries after the opening brace. -/
def ofObject (shape : Shape σ) : Reader σ := do
  let (record, present) ← Enclosure.object.fold shape.entry (shape.empty, [])
  match shape.missing? present with
  | some f => fail (.missingField f.name)
  | none => pure record

/-! ## Records written as lists -/

/-- The end of a list whose last field has been read. -/
def closeList : Reader Unit := do
  let b ← nextToken (.endOfInput .list)
  if b = Ascii.closeBracket then pure ()
  else if b = Ascii.comma then
    if (← peekToken) = some Ascii.closeBracket then fail .trailingComma
    else fail .trailingCharacters
  else fail .trailingCharacters

/-- The fields still to come, from the place `index` on. -/
def fieldsFrom (shape : Shape σ) (index : Nat) (record : σ) : List (RecordField σ) → Reader σ
  | [] => do
    closeList
    pure record
  | f :: fs => do
    if ← if index = 0 then Enclosure.list.any else Enclosure.list.more then
      let set ← f.read
      fieldsFrom shape (index + 1) (set record) fs
    else
      match (f :: fs).findIdx? fun g => g.presence ≠ .defaulted with
      | some ahead => fail (.tooShort (index + ahead) shape.label shape.fields.length)
      | none => pure record

/-- The fields after the opening bracket. -/
def ofList (shape : Shape σ) : Reader σ := fieldsFrom shape 0 shape.empty shape.fields

/-! ## Records -/

def reader (shape : Shape σ) : Reader σ := do
  let b ← nextToken (.endOfInput .value)
  if b = Ascii.openBrace then shape.ofObject
  else if b = Ascii.openBracket then shape.ofList
  else mismatch shape.label b

end Shape

end InterfaceDocs.Json
