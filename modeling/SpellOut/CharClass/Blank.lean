import SpellOut.CharClass.Ranges

/-! The blanks: characters with the Unicode property White_Space. -/
namespace SpellOut.CharClass

/-- The ranges of the property, in increasing order. -/
def blank : Ranges :=
  [(0x9, 0xD), (0x20, 0x20), (0x85, 0x85), (0xA0, 0xA0), (0x1680, 0x1680), (0x2000, 0x200A),
   (0x2028, 0x2029), (0x202F, 0x202F), (0x205F, 0x205F), (0x3000, 0x3000)]

/-- Whether a character has the property White_Space. -/
def isBlank (c : Char) : Bool := blank.has c.toNat

/-- The characters without the blanks at their end. -/
def trimEnd (chars : List Char) : List Char := (chars.reverse.dropWhile isBlank).reverse

/-- The characters without the blanks at their start and at their end. -/
def trim (chars : List Char) : List Char := trimEnd (chars.dropWhile isBlank)

/-- The text without the blanks at its start and at its end. -/
def trimBlanks (text : String) : String := String.ofList (trim text.toList)

end SpellOut.CharClass
