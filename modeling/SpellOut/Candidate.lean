import SpellOut.Declaration
import SpellOut.SpelledType

/-! Which declarations may have their type spelled out.

A candidate declares one variable, leaves its type to inference, and gives it a value. Lambdas and
method references are no candidates, since they have no type of their own; neither are anonymous
classes created with `<>`, whose type as resolved is not to be relied on. -/
namespace SpellOut

/-- An initializer whose type cannot be spelled out. -/
inductive Unsupported where
  | lambda
  | methodReference
  | anonymousDiamond
deriving DecidableEq

def Unsupported.message : Unsupported → String
  | lambda => "lambda initializer"
  | methodReference => "method reference initializer"
  | anonymousDiamond => "anonymous class created with a diamond type-argument list"

/-- Why a declaration is no candidate. -/
inductive Ineligible where
  | variableCount (count : Nat)
  | explicitType
  | noInitializer
  | unsupported (kind : Unsupported)
deriving DecidableEq

def Ineligible.message : Ineligible → String
  | variableCount count => "declares " ++ toString count ++ " variables instead of exactly one"
  | explicitType => "declared type is already explicit"
  | noInitializer => "declaration has no initializer"
  | unsupported kind => kind.message

/-- What keeps the type of an initializer from being spelled out, if anything does. -/
def Initializer.unsupported? : Initializer → Option Unsupported
  | lambda _ => some .lambda
  | methodReference _ => some .methodReference
  | creation c => if c.isAnonymous && c.isDiamond then some .anonymousDiamond else none
  | literal _ => none
  | other _ => none

/-- A declaration whose type may be spelled out, with its one variable and the value of that. -/
structure Candidate where
  declaration : Declaration
  variableName : String
  initializer : Initializer
deriving DecidableEq

/-- The candidate that a declaration is, or the first reason why it is none. -/
def Declaration.candidate (d : Declaration) : Except Ineligible Candidate :=
  match d.declarators with
  | [v] =>
    match v.type, v.initializer with
    | .explicit _, _ => .error .explicitType
    | .inferred, none => .error .noInitializer
    | .inferred, some initializer =>
      match initializer.unsupported? with
      | some kind => .error (.unsupported kind)
      | none => .ok ⟨d, v.name, initializer⟩
  | declarators => .error (.variableCount declarators.length)

def Declaration.isEligible (d : Declaration) : Bool :=
  match d.candidate with
  | .ok _ => true
  | .error _ => false

/-- The declaration with its type written out and all else kept. -/
def Candidate.withType (c : Candidate) (type : SpelledType) : Declaration :=
  { c.declaration with
    declarators := [⟨c.variableName, .explicit type.text, some c.initializer⟩] }

end SpellOut
