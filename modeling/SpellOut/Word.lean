import SpellOut.CharClass.Alphabetic
import SpellOut.CharClass.Numeric

/-! Words: what the language takes for an identifier, and the words it keeps for itself.

A word starts with a letter, `_` or `$` and goes on with those and with numbers. An identifier is
a word that is not reserved. Every word for a primitive type is reserved, so no identifier is one
(`not_isIdentifier_of_isPrimitive`). -/
namespace SpellOut.Word

/-- The words for the primitive types. -/
def primitives : List String :=
  ["boolean", "byte", "char", "short", "int", "long", "float", "double"]

/-- The words that no identifier may be: the keywords and the literals that look like names. -/
def reserved : List String :=
  ["abstract", "assert", "boolean", "break", "byte", "case", "catch", "char", "class", "const",
   "continue", "default", "do", "double", "else", "enum", "extends", "final", "finally", "float",
   "for", "goto", "if", "implements", "import", "instanceof", "int", "interface", "long",
   "native", "new", "package", "private", "protected", "public", "return", "short", "static",
   "strictfp", "super", "switch", "synchronized", "this", "throw", "throws", "transient", "try",
   "void", "volatile", "while", "true", "false", "null"]

/-- Whether a text is the word for a primitive type. -/
def isPrimitive (text : String) : Bool := primitives.contains text

/-- The characters a word may start with. -/
def isStart (c : Char) : Bool := CharClass.isAlphabetic c || c == '_' || c == '$'

/-- The characters a word is made of. -/
def isPart (c : Char) : Bool :=
  CharClass.isAlphabetic c || CharClass.isNumeric c || c == '_' || c == '$'

/-- Whether a text is an identifier: a word, and not a reserved one. -/
def isIdentifier (text : String) : Bool :=
  match text.toList with
  | [] => false
  | first :: rest => isStart first && rest.all isPart && !reserved.contains text

theorem reserved_of_isPrimitive {text : String} (h : isPrimitive text = true) :
    text ∈ reserved := by
  simp only [isPrimitive, primitives, List.contains_iff_mem, List.mem_cons, List.not_mem_nil,
    or_false] at h
  simp only [reserved, List.mem_cons]
  grind

theorem not_isIdentifier_of_isPrimitive {text : String} (h : isPrimitive text = true) :
    isIdentifier text = false := by
  have hmem := reserved_of_isPrimitive h
  unfold isIdentifier
  split
  · rfl
  · simp [hmem]

end SpellOut.Word
