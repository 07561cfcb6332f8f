import SpellOut.RawType.Token

/-! Whether a text is a type.

A type is a primitive type or a class type, followed by pairs of brackets. A class type is a chain
of identifiers joined by dots, each of which may have arguments between angle brackets. An argument
is a wildcard, with a bound or without, or a reference type, which is any type but a primitive type
without brackets.

A reader takes tokens from the front and returns those that it leaves. Types deeper than `cap` are
refused: an argument lies one level below its type, and the bound of a wildcard two. Every call
spends one unit of fuel; `enough` is what a list of tokens can cost.

Types of either sort are read by one reader, that of reference types. Inside a type it comes to the
same to refuse a primitive type without brackets at once, or to read it as a type and refuse it
then. Only a whole text may be such a type, which is one token and is told by looking at it
(`isBarePrimitive`). -/
namespace SpellOut.RawType

/-- What is left after every pair of brackets at the front. -/
def dropBrackets : List Token → List Token
  | .mark .leftBracket :: .mark .rightBracket :: rest => dropBrackets rest
  | tokens => tokens

mutual

/-- Takes a reference type at `depth`. A primitive type that no brackets follow is refused here. -/
def readReference (cap : Nat) : (fuel depth : Nat) → List Token → Option (List Token)
  | fuel + 1, depth, .word head :: rest =>
    if cap < depth then none
    else if Word.isPrimitive head then
      match rest with
      | .mark .leftBracket :: .mark .rightBracket :: rest => some (dropBrackets rest)
      | _ => none
    else (readClass cap fuel depth (.word head :: rest)).map dropBrackets
  | _, _, _ => none

/-- Takes a class type at `depth`, without the brackets that may follow. -/
def readClass (cap : Nat) : (fuel depth : Nat) → List Token → Option (List Token)
  | fuel + 1, depth, .word name :: rest =>
    if Word.isIdentifier name then
      match readArguments cap fuel depth rest with
      | some (.mark .dot :: rest) => readClass cap fuel depth rest
      | rest? => rest?
    else none
  | _, _, _ => none

/-- Takes the arguments of a type at `depth`, if it has any. -/
def readArguments (cap : Nat) : (fuel depth : Nat) → List Token → Option (List Token)
  | fuel + 1, depth, .mark .less :: rest => readList cap fuel (depth + 1) rest
  | _ + 1, _, tokens => some tokens
  | 0, _, _ => none

/-- Takes one argument or more at `depth`, up to and with the mark that closes the list. -/
def readList (cap : Nat) : (fuel depth : Nat) → List Token → Option (List Token)
  | fuel + 1, depth, tokens =>
    match readArgument cap fuel depth tokens with
    | some (.mark .greater :: rest) => some rest
    | some (.mark .comma :: rest) => readList cap fuel depth rest
    | _ => none
  | 0, _, _ => none

/-- Takes one argument at `depth`. -/
def readArgument (cap : Nat) : (fuel depth : Nat) → List Token → Option (List Token)
  | fuel + 1, depth, .mark .question :: .word word :: rest =>
    if word = "extends" ∨ word = "super" then readReference cap fuel (depth + 1) rest
    else some (.word word :: rest)
  | _ + 1, _, .mark .question :: rest => some rest
  | fuel + 1, depth, tokens => readReference cap fuel depth tokens
  | 0, _, _ => none

end

/-- Fuel for any reader on these tokens: at most four calls are made between two tokens taken. -/
def enough (tokens : List Token) : Nat := 4 * tokens.length + 4

/-- Whether the tokens are a primitive type without brackets. It nests nothing, so no cap is too low
for it, and no reader takes it. -/
def isBarePrimitive : List Token → Bool
  | [.word word] => Word.isPrimitive word
  | _ => false

/-- Whether the tokens, all of them, are a type. -/
def isType (cap : Nat) (tokens : List Token) : Bool :=
  isBarePrimitive tokens || readReference cap (enough tokens) 0 tokens == some []

/-- Whether a text is a type that nests no deeper than `cap`. -/
def accepts (cap : Nat) (text : String) : Bool :=
  match Token.read? text with
  | some tokens => isType cap tokens
  | none => false

end SpellOut.RawType
