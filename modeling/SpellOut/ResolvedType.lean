import SpellOut.Name

/-! The type of an expression, as whoever resolves expressions describes it. Nothing is checked
here: a primitive may be unknown, a name may be no name, and a wildcard may stand anywhere. -/
namespace SpellOut

/-- A resolved type. -/
inductive ResolvedType where
  | primitive (word : String)
  | array (component : ResolvedType)
  /-- A class or interface type, with its type arguments. -/
  | reference (name : Name) (arguments : List ResolvedType)
  /-- A wildcard with an upper bound. -/
  | wildcard (bound : ResolvedType)
  | typeVariable (name : String)
  /-- A type that is known only as text. -/
  | raw (text : String)

end SpellOut
