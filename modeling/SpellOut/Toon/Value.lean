import SpellOut.CharClass.Blank
import SpellOut.Toon.Numeral

/-! Values of fields in the TOON notation, and the texts they stand for on one line. -/
namespace SpellOut.Toon

/-- The value of a field. -/
inductive Value where
  | null
  | bool (b : Bool)
  /-- A whole number, of 64 binary digits with its sign. -/
  | whole (n : Int)
  /-- Any other number. -/
  | binary (x : Binary)
  | text (s : String)
  | list (items : List String)
  /-- Fields of its own, which are not looked at. -/
  | nested
deriving DecidableEq

/-! ### Texts between quotes -/

/-- The character that a letter after a backslash stands for. -/
def escaped? : Char → Option Char
  | 'n' => some '\n'
  | 'r' => some '\r'
  | 't' => some '\t'
  | '"' => some '"'
  | '\\' => some '\\'
  | _ => none

/-- What stands between the quote before these characters and the next one, and what follows that.
It may go over several lines. -/
def untilQuote? : List Char → Option (List Char × List Char)
  | [] => none
  | '"' :: rest => some ([], rest)
  | ['\\'] => none
  | '\\' :: letter :: rest =>
    match escaped? letter with
    | some c => (untilQuote? rest).map fun (inside, rest) => (c :: inside, rest)
    | none => none
  | c :: rest => (untilQuote? rest).map fun (inside, rest) => (c :: inside, rest)

/-! ### Words -/

/-- Whether a character is a mark of the notation, or the space between words, or ends a line. -/
def endsWord (c : Char) : Bool :=
  c = ' ' || c = '\n' || c = ':' || c = '[' || c = ']' || c = '{' || c = '}'

/-- Whether a character ends the words of a whole line. -/
def endsLine (c : Char) : Bool := c = '\n'

/-- Whether a word or a number can begin here, where words also end before such characters. A minus
sign begins nothing but a number. -/
def beginsWord (stops : Char → Bool) : List Char → Bool
  | '-' :: c :: _ => c.isDigit
  | ['-'] => false
  | c :: _ => !endsWord c && !stops c
  | [] => false

/-- Whether a character can stand in a number. -/
def inNumber (c : Char) : Bool :=
  c.isDigit || c = '.' || c = 'e' || c = 'E' || c = '+' || c = '-'

/-- The first word and what follows it. What begins as a number ends before the first character that
no number has, so that a word may follow it directly. -/
def splitWord (stops : Char → Bool) (chars : List Char) : List Char × List Char :=
  let goesOn : Char → Bool :=
    if chars.head?.any fun c => c.isDigit || c = '-' then inNumber
    else fun c => !endsWord c && !stops c
  (chars.takeWhile goesOn, chars.dropWhile goesOn)

namespace Value

/-- The least magnitude that whole numbers do not reach. -/
def wholeLimit : Int := Nat.pow 2 63

/-! ### Numbers -/

/-- The value of a whole number, a text if it is too great. -/
def ofWhole (n : Int) : Value :=
  if -wholeLimit ≤ n ∧ n < wholeLimit then .whole n else .text (toString n)

/-- The value of a number that is written with a point or an exponent: a whole number where it is
one, and then the greatest of them for the limit itself. There is none beyond all numbers. -/
def ofMarked? (n : Numeral) : Option Value :=
  n.nearest?.map fun x =>
    match x.whole? with
    | some w =>
      if -wholeLimit ≤ w ∧ w ≤ wholeLimit then .whole (min w (wholeLimit - 1)) else .binary x
    | none => .binary x

/-! ### Texts -/

/-- The value of a text without quotes. -/
def ofPlain? (chars : List Char) : Option Value :=
  let word := String.ofList (CharClass.trimEnd chars)
  if word = "null" then some .null
  else if word = "true" then some (.bool true)
  else if word = "false" then some (.bool false)
  else match Numeral.ofChars? chars with
    | none => some (.text word)
    | some n => if n.plain then some (ofWhole n.toInt) else ofMarked? n

/-- The value of a text without blanks around it. After the quote that closes a text nothing may
follow. -/
def ofText? : List Char → Option Value
  | '"' :: rest =>
    match untilQuote? rest with
    | some (inside, []) => some (.text (String.ofList inside))
    | _ => none
  | chars => ofPlain? chars

/-- The value of a word that stands alone, seen with what follows it. A number with another word
directly after it is a text. -/
def ofWord? (stops : Char → Bool) (word rest : List Char) : Option Value :=
  if rest.head?.any fun c => !endsWord c && !stops c then some (.text (String.ofList word))
  else ofPlain? word

/-- The value that the rest of a line stands for, from its first word on. A word that stands alone
is taken as it is, and a blank other than the space belongs to it. If a space follows it or other
words do, the blanks around the whole are left out. -/
def ofLine? (line : List Char) : Option Value :=
  let (word, rest) := splitWord endsLine line
  if !beginsWord endsLine line then none
  else if rest.head? != some ' ' && rest.all CharClass.isBlank then ofWord? endsLine word rest
  else ofText? (CharClass.trim line)

end Value

end SpellOut.Toon
