import SpellOut.Toon.Line

/-! Documents in the TOON notation, as far as settings and rule descriptions use it: one field a
line, each a key and a value with a colon between them. Lines that are indented belong to the field
above them whose own line ends with the colon. Only the fields that are not indented are kept, but
the others have to be in order too. -/
namespace SpellOut.Toon

/-- The fields of a document, in order. -/
abbrev Document := List (String × Value)

namespace Document

/-- The value of the last field with a key. -/
def find? (document : Document) (key : String) : Option Value := document.reverse.lookup key

/-! ### Writing -/

/-- A text, between quotes if a colon or a comma in it could be taken for a mark. -/
def quoted (text : String) : String :=
  if text.toList.any fun c => c = ':' || c = ',' then "\"" ++ text ++ "\"" else text

/-- A number with all its digits: a unit is 5¹⁰⁷⁴ · 10⁻¹⁰⁷⁴. -/
def exact (x : Binary) : String :=
  (if x.negative then "-" else "") ++ toString (x.units * Nat.pow 5 1074) ++ "e-1074"

/-- The line of a field. -/
def line (key : String) : Value → String
  | .null => key ++ ": null"
  | .bool true => key ++ ": true"
  | .bool false => key ++ ": false"
  | .whole n => key ++ ": " ++ toString n
  | .binary x => key ++ ": " ++ exact x
  | .text s => key ++ ": " ++ quoted s
  | .list items =>
    key ++ "[" ++ toString items.length ++ "]: " ++ ",".intercalate (items.map quoted)
  | .nested => key ++ ":"

def text (document : Document) : String :=
  "\n".intercalate (document.map fun (key, value) => line key value)

/-! ### Reading

An object at level `n` has its fields `2 * n` spaces to the right, apart from its first one, which
may be further to the right. -/

/-- Where in a document the next line stands. -/
inductive Place where
  /-- Before the first field of an object at a level. -/
  | opening (level : Nat)
  /-- Below a field at a level whose line ended with the colon. -/
  | below (level : Nat)
  /-- After a field of an object at a level. -/
  | within (level : Nat)
  /-- After all the fields. -/
  | closed
deriving DecidableEq

namespace Place

/-- The deepest level. -/
def deepest : Nat := 256

/-- The place seen with the indentation of the next line, which says whether it belongs to the field
above it. -/
def seen? (place : Place) (indent : Nat) : Option Place :=
  match place with
  | below level =>
    if indent < 2 * (level + 1) then some (within level)
    else if level < deepest then some (opening (level + 1))
    else none
  | place => some place

/-- The place after a field at a level. -/
def afterField (level : Nat) : Option Value → Place
  | some _ => within level
  | none => below level

/-- The place after the end of an object at a level. -/
def afterObject : Nat → Place
  | 0 => closed
  | level + 1 => within level

end Place

/-- What is known of a document after some of its lines. -/
structure Reading where
  place : Place
  /-- The fields that are not indented, the last one first. -/
  fields : Document

namespace Reading

def start : Reading := ⟨.opening 0, []⟩

/-- Adds a field at a level. One without a value on its line counts as having fields of its own,
which is put right if a value stands alone below it. -/
def add (r : Reading) (level : Nat) (key : Key) (value : Option Value) : Reading where
  place := .afterField level value
  fields := if level = 0 then (key.name, value.getD .nested) :: r.fields else r.fields

/-- Gives the last field the value that stands alone below it. -/
def setLast (r : Reading) (level : Nat) (value : Value) : Reading where
  place := .within level
  fields := match level, r.fields with
    | 0, (key, _) :: rest => (key, value) :: rest
    | _, fields => fields

/-- The level, of those that are open, at which a line with this indentation goes on. -/
def level? (deepest indent : Nat) : Option Nat :=
  if indent % 2 = 0 && indent / 2 ≤ deepest then some (indent / 2) else none

/-- Reads a line. Only the first key of an object may be bare. A text alone may only come after a
field, and it ends the object that it stands in. -/
def read? (r : Reading) (line : Line) : Option Reading :=
  match r.place.seen? line.indent with
  | none => none
  | some place =>
    match place, line.content with
    | place, .blank => some { r with place }
    | .opening level, .field key value =>
      if line.indent % 2 = 0 then some (r.add level key value) else none
    | .opening (level + 1), .value v => some (r.setLast level v)
    | .within level, .field key value =>
      if key.bare then none
      else (level? level line.indent).map fun level => r.add level key value
    | .within level, .word =>
      (level? level line.indent).map fun level => { r with place := .afterObject level }
    | _, _ => none

end Reading

/-- The document on these lines, the first of which is indented by a level or not at all. -/
def ofLines? (lines : List Line) : Option Document :=
  if lines.head?.any fun line => line.indent % 2 != 0 then none
  else (lines.foldlM Reading.read? Reading.start).map fun r => r.fields.reverse

/-- The document that a text is, if it is one. -/
def ofText? (text : String) : Option Document := (Line.ofText? text).bind ofLines?

end Document

end SpellOut.Toon
