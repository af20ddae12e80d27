import Bourse.Amount
import Bourse.Json

namespace Bourse

/-- How values of a type are written in the JSON notation, together with how they are read. -/
structure Form (α : Type) where
  write : α → Json
  read : Json → Option α

namespace Form

def word : Form Int where
  write := .integer
  read
    | .integer n => if FitsWord n then some n else none
    | _ => none

/-- Whole numbers from zero up to a bound. -/
def upTo (bound : Nat) : Form Nat where
  write n := .integer n
  read
    | .integer n => if 0 ≤ n ∧ n ≤ bound then some n.toNat else none
    | _ => none

def string : Form String where
  write := .string
  read
    | .string text => some text
    | _ => none

/-- A type of a few named values is written as the name, and also read from an object that has the name
as its only field, with nothing in it. -/
def named {α : Type} (all : List α) (name : α → String) : Form α where
  write value := .string (name value)
  read
    | .string text => all.find? (fun value => name value == text)
    | .object [(text, .null)] => all.find? (fun value => name value == text)
    | _ => none

end Form

/-- The fields of a record: their names, and how their values are written and read in that order. A
field that is missing is read as `none`. -/
structure Fields (α : Type) where
  names : List String
  write : α → List Json
  read : List (Option Json) → Option α

namespace Fields

variable {α β : Type}

def one (name : String) (form : Form α) : Fields α where
  names := [name]
  write value := [form.write value]
  read
    | [some json] => form.read json
    | _ => none

/-- A field whose value may be absent. It is written as null, and null or no field at all is read as
absent. -/
def optional (name : String) (form : Form α) : Fields (Option α) where
  names := [name]
  write
    | none => [.null]
    | some value => [form.write value]
  read
    | [none] | [some .null] => some none
    | [some json] => (form.read json).map some
    | _ => none

def and (first : Fields α) (second : Fields β) : Fields (α × β) where
  names := first.names ++ second.names
  write value := first.write value.1 ++ second.write value.2
  read found := do
    let a ← first.read (found.take first.names.length)
    let b ← second.read (found.drop first.names.length)
    return (a, b)

/-- The same fields for another type with the same content. -/
def map (fields : Fields α) (pack : α → β) (unpack : β → α) : Fields β where
  names := fields.names
  write value := fields.write (unpack value)
  read found := (fields.read found).map pack

def readArray (fields : Fields α) (items : List Json) : Option α :=
  if items.length = fields.names.length then fields.read (items.map some) else none

def readObject (fields : Fields α) (found : List (String × Json)) : Option α :=
  fields.read (fields.names.map fun name => List.lookup name found)

/-- A record is written as an object. It is read from an object, where fields of other names do not
matter, or from an array of just its fields in their order. -/
def record (fields : Fields α) : Form α where
  write value := .object (fields.names.zip (fields.write value))
  read
    | .object found => fields.readObject found
    | .array items => fields.readArray items
    | _ => none

/-- A record that has no field of another name. -/
def closedRecord (fields : Fields α) : Form α where
  write := fields.record.write
  read
    | .object found =>
      if found.all (fun field => field.1 ∈ fields.names) then fields.readObject found else none
    | .array items => fields.readArray items
    | _ => none

end Fields

end Bourse
