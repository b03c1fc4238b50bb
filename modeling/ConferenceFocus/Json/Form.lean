import ConferenceFocus.Json.Value

/-!
# Types with a JSON form

How values of a type are written as JSON and read back.  Records are described
field by field, once for both ways: `Fields.of` takes the constructor, and each
`Fields.and` names one field of it.

A value without a form, such as an absent option or an empty list, is left out
of an object; when such a field is read back, `Read.absent` says what it
stands for.
-/

namespace ConferenceFocus.Json

variable {α β τ : Type}

class Write (α : Type) where
  form? : α → Option Value

class Read (α : Type) where
  read : Value → Except String α
  /-- What a missing field of this type stands for. -/
  absent : Except String α

export Write (form?)
export Read (read)

/-- The form of a value, `null` for one without. -/
def form [Write α] (value : α) : Value := (form? value).getD .null

def list [Write α] (items : List α) : Value := .array (items.map form)

/-- Reads the field of an object. -/
def field [Read α] (object : Value) (name : String) : Except String α :=
  match object.member? name with
  | some value => read value
  | none => Read.absent

def expected (what : String) : Except String α := .error (what ++ " was expected")

abbrev writeAs [Write β] (convert : α → β) : Write α := ⟨fun value => form? (convert value)⟩

abbrev readAs [Read β] (convert : β → Except String α) : Read α :=
  ⟨fun value => read value >>= convert, Read.absent >>= convert⟩

instance : Write Value := ⟨some⟩
instance : Write String := ⟨fun value => some (.text value)⟩
instance : Write Bool := ⟨fun value => some (.bool value)⟩
instance : Write Int := ⟨fun value => some (.number (toString value))⟩
instance : Write Nat := writeAs Int.ofNat
instance : Write UInt64 := writeAs UInt64.toNat
instance [Write α] : Write (Option α) := ⟨fun value => value.bind form?⟩

instance [Write α] : Write (List α) :=
  ⟨fun items => if items.isEmpty then none else some (list items)⟩

instance [Write α] [Write β] : Write (α × β) :=
  ⟨fun (first, second) => some (.array [form first, form second])⟩

instance : Read Value := ⟨.ok, .ok .null⟩

instance : Read String where
  read
    | .string (some value) => .ok value
    | _ => expected "a string"
  absent := .ok ""

instance : Read Bool where
  read
    | .bool value => .ok value
    | _ => expected "a truth value"
  absent := .ok false

instance : Read Int where
  read
    | .number numeral =>
        match numeral.toInt? with
        | some value => .ok value
        | none => expected "a whole number"
    | _ => expected "a number"
  absent := .ok 0

instance : Read Nat := readAs fun value : Int =>
  if value < 0 then expected "a natural number" else .ok value.toNat

instance : Read UInt64 := readAs fun value : Nat =>
  if value < UInt64.size then .ok (.ofNat value) else expected "a smaller number"

instance [Read α] : Read (Option α) where
  read value := (read value).map some
  absent := .ok none

instance [Read α] : Read (List α) where
  read
    | .array items => items.mapM read
    | _ => expected "a list"
  absent := .ok []

instance [Read α] [Read β] : Read (α × β) where
  read
    | .array [first, second] => do return (← read first, ← read second)
    | _ => expected "a pair"
  absent := expected "a pair"

/-- The fields of a type `α`, of which those not yet described make up `β`. -/
structure Fields (α β : Type) where
  write : α → List (String × Option Value)
  read : Value → Except String β

namespace Fields

def of (make : β) : Fields α β := ⟨fun _ => [], fun _ => .ok make⟩

/-- The next field, with a form of its own. -/
def both (fields : Fields α (τ → β)) (name : String) (value : α → τ)
    (write : τ → Option Value) (read : Value → Except String τ) : Fields α β where
  write whole := fields.write whole ++ [(name, write (value whole))]
  read object := return (← fields.read object) (← read object)

/-- The next field, with the form of its type. -/
def and [Write τ] [Read τ] (fields : Fields α (τ → β)) (name : String) (value : α → τ) :
    Fields α β :=
  fields.both name value form? (field · name)

end Fields

/-- Types whose form is an object with fixed fields. -/
class Record (α : Type) where
  fields : Fields α α

instance [Record α] : Write α := ⟨fun value => some (.record (Record.fields.write value))⟩

instance [Record α] : Read α := ⟨Record.fields.read, Record.fields.read (.object [])⟩

end ConferenceFocus.Json
