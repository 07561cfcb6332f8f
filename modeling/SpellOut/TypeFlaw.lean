import SpellOut.RawType.Reader
import SpellOut.ResolvedType

/-! What can be wrong with a resolved type, so that it cannot be written.

A flaw belongs to one node of the type. `ResolvedType.flaw?` looks for it at the root alone, given
how deep the node lies and in which place, so what is wrong with a whole type is a matter of which
node is looked at first. -/
namespace SpellOut

/-- Why a type cannot be written. -/
inductive TypeFlaw where
  | tooDeep (cap : Nat)
  | malformed (text : String)
  | unknownPrimitive (word : String)
  | primitiveArgument (word : String)
  | misplacedWildcard
deriving DecidableEq

def TypeFlaw.message : TypeFlaw → String
  | tooDeep cap => "type nesting exceeds the depth cap of " ++ toString cap
  | malformed text => "malformed type descriptor `" ++ text ++ "`"
  | unknownPrimitive word => "unknown primitive type `" ++ word ++ "`"
  | primitiveArgument word =>
    "primitive type `" ++ word ++ "` cannot be a type argument or wildcard bound"
  | misplacedWildcard => "wildcard outside of a type-argument position"

/-- Where a type stands in the type around it. -/
inductive Place where
  /-- Nowhere: it is the whole type. -/
  | whole
  | component
  | argument
  | bound
deriving DecidableEq

namespace ResolvedType

/-- The flaw of the root of a type that stands at a given place and depth. Depth is looked at
first, and whether a primitive is known before whether it may stand there. -/
def flaw? (cap depth : Nat) (place : Place) (type : ResolvedType) : Option TypeFlaw :=
  if cap < depth then some (.tooDeep cap)
  else match type with
    | primitive word =>
      if !Word.isPrimitive word then some (.unknownPrimitive word)
      else if place = .argument ∨ place = .bound then some (.primitiveArgument word)
      else none
    | array _ => none
    | reference name _ =>
      if name.segments.all fun segment => Word.isIdentifier segment.text then none
      else some (.malformed name.text)
    | wildcard _ => if place = .argument then none else some .misplacedWildcard
    | typeVariable name => if Word.isIdentifier name then none else some (.malformed name)
    | raw text => if RawType.accepts (cap - depth) text then none else some (.malformed text)

end ResolvedType

end SpellOut
