import SpellOut.NodeId

/-! Declarations of local variables, as a host shows them.

Names, types and expressions are the text that stands in the source file. Only as much is told apart
as bears on whether a type can be spelled out: whether the type is left to inference, and what kind
of expression gives the variable its value. -/
namespace SpellOut

/-- The creation of an object by `new`. -/
structure Creation where
  type : String
  /-- The type arguments, if any list of them is written; `<>` is the empty list. -/
  typeArguments : Option (List String)
  arguments : List String
  /-- The body of the anonymous class that the expression declares, if it does. -/
  body : Option String
deriving DecidableEq

namespace Creation

/-- Whether the type arguments are left to inference by `<>`. -/
def isDiamond (c : Creation) : Bool := c.typeArguments == some []

/-- Whether an anonymous class is declared. -/
def isAnonymous (c : Creation) : Bool := c.body.isSome

def text (c : Creation) : String :=
  let typeArguments := match c.typeArguments with
    | some arguments => "<" ++ ", ".intercalate arguments ++ ">"
    | none => ""
  let body := match c.body with
    | some body => " \x7b " ++ body ++ " \x7d"
    | none => ""
  "new " ++ c.type ++ typeArguments ++ "(" ++ ", ".intercalate c.arguments ++ ")" ++ body

end Creation

/-- The expression that gives a variable its first value. -/
inductive Initializer where
  | literal (text : String)
  | lambda (text : String)
  | methodReference (text : String)
  | creation (c : Creation)
  | other (text : String)
deriving DecidableEq

def Initializer.text : Initializer → String
  | literal text => text
  | lambda text => text
  | methodReference text => text
  | creation c => c.text
  | other text => text

/-- The type in front of a variable: left to inference, or written out. -/
inductive DeclaredType where
  | inferred
  | explicit (text : String)
deriving DecidableEq

def DeclaredType.text : DeclaredType → String
  | inferred => "var"
  | explicit text => text

/-- One variable of a declaration, with the type in front of it. -/
structure Declarator where
  name : String
  type : DeclaredType
  initializer : Option Initializer
deriving DecidableEq

def Declarator.text (v : Declarator) : String :=
  match v.initializer with
  | some initializer => v.name ++ " = " ++ initializer.text
  | none => v.name

/-- A declaration of local variables. -/
structure Declaration where
  id : NodeId
  modifiers : List String
  annotations : List String
  declarators : List Declarator
deriving DecidableEq

namespace Declaration

/-- The words before the variables: annotations, modifiers, and the type of the first variable,
which all of them share. -/
def lead (d : Declaration) : List String :=
  d.annotations ++ d.modifiers ++ d.declarators.head?.toList.map (·.type.text)

def text (d : Declaration) : String :=
  String.join (d.lead.map (· ++ " ")) ++ ", ".intercalate (d.declarators.map Declarator.text)

end Declaration

end SpellOut
