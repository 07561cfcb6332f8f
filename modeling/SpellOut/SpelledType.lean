import SpellOut.Name

/-! Types as they are written in a source file: each name is spelled one of three ways, and the
whole has one text. -/
namespace SpellOut

/-- How the name of a type is written. -/
inductive Spelling where
  /-- By its simple name. -/
  | short (word : String)
  /-- In full. -/
  | full (text : String)
  /-- By the simple name of a type that owns it and the path below that type. -/
  | within (outer : String) (path : String)
deriving DecidableEq

namespace Spelling

def text : Spelling → String
  | short word => word
  | full text => text
  | within outer path => outer ++ "." ++ path

def isShort : Spelling → Bool
  | short _ => true
  | full _ => false
  | within _ _ => false

end Spelling

/-- A type with the spelling of each name in it. -/
inductive SpelledType where
  | primitive (word : String)
  | array (component : SpelledType)
  | reference (name : Name) (spelling : Spelling) (arguments : List SpelledType)
  | wildcard (bound : SpelledType)
  | typeVariable (name : String)
  | raw (text : String)

namespace SpelledType

mutual

/-- The type as it is written. -/
def text : SpelledType → String
  | primitive word => word
  | array component => component.text ++ "[]"
  | reference _ spelling [] => spelling.text
  | reference _ spelling (first :: rest) =>
    spelling.text ++ "<" ++ first.text ++ textAfter rest ++ ">"
  | wildcard bound => "? extends " ++ bound.text
  | typeVariable name => name
  | raw text => text

/-- The arguments after the first, each led by a comma. -/
def textAfter : List SpelledType → String
  | [] => ""
  | next :: rest => ", " ++ next.text ++ textAfter rest

end

end SpelledType

end SpellOut
