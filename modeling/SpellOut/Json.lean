import SpellOut.Import
import SpellOut.ResolvedType

/-! Resolved types and imports as JSON values.

That types have this form is an assumption: a type is an object with one field, whose key is the
name of its kind, and the value under it is what the kind holds. A reference holds an object with
two fields; others beside them are passed over. An import is an object with two fields, or a list of
their two values.

The fields of an object are a list here, and the first one with a key is taken. Objects are meant to
have different keys (`Json.Distinct`), and then the order of the fields does not matter. -/
namespace SpellOut

/-- A JSON value. -/
inductive Json where
  | null
  | bool (b : Bool)
  /-- The number `mantissa · 10 ^ -places`. -/
  | number (mantissa : Int) (places : Nat)
  | string (s : String)
  | array (items : List Json)
  | object (fields : List (String × Json))

/-- Whether every object in a JSON value has different keys. -/
inductive Json.Distinct : Json → Prop where
  | null : Distinct null
  | bool {b : Bool} : Distinct (bool b)
  | number {mantissa : Int} {places : Nat} : Distinct (number mantissa places)
  | string {s : String} : Distinct (string s)
  | array {items : List Json} (h : ∀ item ∈ items, Distinct item) : Distinct (array items)
  | object {fields : List (String × Json)} (hkeys : (fields.map Prod.fst).Nodup)
      (h : ∀ field ∈ fields, Distinct field.2) : Distinct (object fields)

namespace ResolvedType

mutual

def toJson : ResolvedType → Json
  | primitive word => .object [("Primitive", .string word)]
  | array component => .object [("Array", component.toJson)]
  | reference name arguments =>
    .object [("Reference", .object
      [("qualified_name", .string name.text), ("type_arguments", .array (toJsonList arguments))])]
  | wildcard bound => .object [("Wildcard", bound.toJson)]
  | typeVariable name => .object [("TypeVariable", .string name)]
  | raw text => .object [("Other", .string text)]

def toJsonList : List ResolvedType → List Json
  | [] => []
  | first :: rest => first.toJson :: toJsonList rest

end

/-- The name among the fields of a reference. -/
def nameIn? : List (String × Json) → Option Name
  | [] => none
  | (key, value) :: rest =>
    if key = "qualified_name" then
      match value with
      | .string name => some (Name.ofText name)
      | _ => none
    else nameIn? rest

mutual

/-- The type that a JSON value describes, if it describes one. -/
def ofJson? : Json → Option ResolvedType
  | .object [(kind, value)] =>
    match kind, value with
    | "Primitive", .string word => some (primitive word)
    | "Array", component => (ofJson? component).map array
    | "Reference", .object fields =>
      match nameIn? fields, argumentsIn? fields with
      | some name, some arguments => some (reference name arguments)
      | _, _ => none
    | "Wildcard", bound => (ofJson? bound).map wildcard
    | "TypeVariable", .string name => some (typeVariable name)
    | "Other", .string text => some (raw text)
    | _, _ => none
  | _ => none

/-- The types that a list of JSON values describes, if each describes one. -/
def ofJsonList? : List Json → Option (List ResolvedType)
  | [] => some []
  | first :: rest =>
    match ofJson? first, ofJsonList? rest with
    | some first, some rest => some (first :: rest)
    | _, _ => none

/-- The type arguments among the fields of a reference. -/
def argumentsIn? : List (String × Json) → Option (List ResolvedType)
  | [] => none
  | (key, value) :: rest =>
    if key = "type_arguments" then
      match value with
      | .array items => ofJsonList? items
      | _ => none
    else argumentsIn? rest

end

end ResolvedType

namespace Import

def toJson (i : Import) : Json :=
  let all := match i with
    | single _ => false
    | onDemand _ => true
  .object [("name", .string i.name.text), ("is_wildcard", .bool all)]

/-- The import with this name, of one type or on demand. -/
def ofParts? : Option Json → Option Json → Option Import
  | some (.string name), some (.bool false) => some (single (Name.ofText name))
  | some (.string name), some (.bool true) => some (onDemand (Name.ofText name))
  | _, _ => none

/-- The import that a JSON value describes, if it describes one. -/
def ofJson? : Json → Option Import
  | .object fields => ofParts? (fields.lookup "name") (fields.lookup "is_wildcard")
  | .array [name, all] => ofParts? (some name) (some all)
  | _ => none

end Import

end SpellOut
