import SpellOut.Toon.Value

/-! The lines of a document, each with its indentation and what it holds. The indentation says where
in the document a line belongs, and is not looked at here. A text between quotes may go over several
lines, which are one line here. -/
namespace SpellOut.Toon

/-- A key. One that reads as a number, a truth value or null is bare. -/
structure Key where
  name : String
  bare : Bool
deriving DecidableEq

/-- What a line holds. -/
inductive Content where
  | blank
  /-- A key with a colon, and the value after it if there is one. -/
  | field (key : Key) (value : Option Value)
  /-- A value alone: a number, a truth value, null or a list. -/
  | value (v : Value)
  /-- A text alone. -/
  | word
deriving DecidableEq

structure Line where
  /-- How many spaces stand at its start. -/
  indent : Nat
  content : Content
deriving DecidableEq

namespace Line

def isSpace (c : Char) : Bool := c = ' '

/-- The rest of a line, and the end of the line with all that follows it. -/
def split (chars : List Char) : List Char × List Char :=
  (chars.takeWhile (!endsLine ·), chars.dropWhile (!endsLine ·))

/-- Whether nothing stands before the first of such characters. -/
def ends (stops : Char → Bool) : List Char → Bool
  | [] => true
  | c :: _ => stops c

/-! ### Words -/

/-- A word of a line: a text, or else what is written as a value. -/
inductive Word where
  | text (s : String)
  /-- Written as a value, which there is none of if it is a number beyond all numbers. -/
  | bare (s : String) (v : Option Value)

/-- The first word, and what follows it. -/
def firstWord? (stops : Char → Bool) : List Char → Option (Word × List Char)
  | '"' :: rest => (untilQuote? rest).map fun (inside, rest) => (.text (String.ofList inside), rest)
  | chars =>
    if !beginsWord stops chars then none
    else
      let (word, rest) := splitWord stops chars
      match Value.ofWord? stops word rest with
      | some (.text s) => some (.text s, rest)
      | v => some (.bare (String.ofList word) v, rest)

/-- What follows the words up to the first of such characters, if there is nothing else before it.
Each word is at least one character, so there are at most this many steps. -/
def afterWords? (stops : Char → Bool) : Nat → List Char → Option (List Char)
  | 0, _ => none
  | steps + 1, chars =>
    let chars := chars.dropWhile isSpace
    if ends stops chars then some chars
    else (firstWord? stops chars).bind fun (_, rest) => afterWords? stops steps rest

/-- The characters from one place on to a later one, without the blanks around them. -/
def between (chars later : List Char) : String :=
  String.ofList (CharClass.trim (chars.take (chars.length - later.length)))

/-! ### Lists -/

/-- What follows a mark, with spaces before it. -/
def after? (mark : Char) (chars : List Char) : Option (List Char) :=
  match chars.dropWhile isSpace with
  | c :: rest => if c = mark then some rest else none
  | [] => none

/-- The character between the items of a list: the comma, if none is given after the count. -/
def separator : List Char → Char × List Char
  | '|' :: rest => ('|', rest)
  | '\t' :: rest => ('\t', rest)
  | ',' :: rest => (',', rest)
  | rest => (',', rest)

/-- An item of a list, and what follows it: the words up to the separator or the end of the line.
It is kept as it is written, but for a text between quotes. -/
def item? (separator : Char) (chars : List Char) : Option (String × List Char) :=
  let stops (c : Char) : Bool := c = separator || endsLine c
  let chars := chars.dropWhile isSpace
  if ends stops chars then some ("", chars)
  else match firstWord? stops chars with
    | none | some (.bare _ none, _) => none
    | some (word, rest) =>
      (afterWords? stops (rest.length + 1) rest).map fun later =>
        match word, rest.dropWhile isSpace == later with
        | .text s, true => (s, later)
        | _, _ => (between chars later, later)

/-- So many items with the separator between them, and what follows. -/
def items? (separator : Char) : Nat → List Char → Option (List String × List Char)
  | 0, chars => some ([], chars.dropWhile isSpace)
  | 1, chars => (item? separator chars).map fun (item, rest) => ([item], rest)
  | count + 2, chars =>
    match item? separator chars with
    | some (item, c :: rest) =>
      if c = separator then
        (items? separator (count + 1) rest).map fun (items, rest) => (item :: items, rest)
      else none
    | _ => none

/-- The list that begins after its opening mark with the count, as in `2]: a,b`. Its items have to
stand on the line, and there have to be as many as that. -/
def list? (chars : List Char) : Option (Value × List Char) :=
  let count := chars.takeWhile Char.isDigit
  let (separator, rest) := separator (chars.dropWhile Char.isDigit)
  match (after? ']' rest).bind (after? ':') with
  | none => none
  | some rest =>
    if count.isEmpty || (Numeral.value count != 0 && ends endsLine (rest.dropWhile isSpace)) then
      none
    else (items? separator (Numeral.value count) rest).map fun (items, rest) => (.list items, rest)

/-! ### What follows a key -/

/-- The value after the colon of a key, none if the line ends there, and what follows the line. -/
def valueAfter? (chars : List Char) : Option (Option Value × List Char) :=
  match chars.dropWhile isSpace with
  | '"' :: rest =>
    match untilQuote? rest with
    | none => none
    | some (inside, rest) =>
      let (line, rest) := split rest
      if line.all CharClass.isBlank then some (some (.text (String.ofList inside)), rest) else none
  | '[' :: rest => (list? rest).map fun (v, rest) => (some v, rest)
  | chars =>
    let (line, rest) := split chars
    if line.isEmpty then some (none, rest)
    else (Value.ofLine? line).map fun v => (some v, rest)

/-- What a line holds that begins with a text, and what follows. -/
def afterText? (name : String) (chars : List Char) : Option (Content × List Char) :=
  match chars.dropWhile isSpace with
  | ':' :: rest => (valueAfter? rest).map fun (v, rest) => (.field ⟨name, false⟩ v, rest)
  | '[' :: rest => (list? rest).map fun (v, rest) => (.field ⟨name, false⟩ (some v), rest)
  | rest => some (.word, rest)

/-- What a line holds that begins with what is written as a value, and what follows. A number with
other words after it is a text. Words after a truth value or null stand for themselves. -/
def afterBare? (s : String) (v : Option Value) (chars : List Char) :
    Option (Content × List Char) :=
  match v, chars with
  | _, ':' :: rest => (valueAfter? rest).map fun (v, rest) => (.field ⟨s, true⟩ v, rest)
  | some .null, rest => some (.value .null, rest.dropWhile isSpace)
  | some (.bool b), rest => some (.value (.bool b), rest.dropWhile isSpace)
  | v, rest =>
    let later := rest.dropWhile isSpace
    if ends endsLine later then v.map fun v => (.value v, later)
    else (afterWords? endsLine (rest.length + 1) rest).map fun later =>
      (.value (.text (s ++ " " ++ between rest later)), later)

/-! ### Lines -/

/-- What a line holds after its indentation, and what follows. -/
def content? (chars : List Char) : Option (Content × List Char) :=
  if ends endsLine chars then some (.blank, chars)
  else match chars with
    | '[' :: rest => (list? rest).map fun (v, rest) => (.value v, rest)
    | chars =>
      match firstWord? endsLine chars with
      | none => none
      | some (.text s, rest) => afterText? s rest
      | some (.bare s v, rest) => afterBare? s v rest

/-- The indentation of a line and what follows it. One by tabs is refused. -/
def indent? (chars : List Char) : Option (Nat × List Char) :=
  let rest := chars.dropWhile isSpace
  if rest.head? = some '\t' then none else some ((chars.takeWhile isSpace).length, rest)

/-- The lines of a text, from inside one on with its indentation, in at most this many steps. What
stands after a truth value or null counts as a line of its own with the same indentation. -/
def from? : Nat → Nat → List Char → Option (List Line)
  | 0, _, _ => none
  | steps + 1, indent, chars =>
    match content? chars with
    | none => none
    | some (content, []) => some [⟨indent, content⟩]
    | some (content, '\n' :: rest) =>
      (indent? rest).bind fun (next, rest) =>
        (from? steps next rest).map (⟨indent, content⟩ :: ·)
    | some (.value .null, rest) => (from? steps indent rest).map (⟨indent, .value .null⟩ :: ·)
    | some (.value (.bool b), rest) =>
      (from? steps indent rest).map (⟨indent, .value (.bool b)⟩ :: ·)
    | some _ => none

/-- The lines of a text. Each has a character of its own, the last one apart. -/
def ofText? (text : String) : Option (List Line) :=
  (indent? text.toList).bind fun (indent, rest) => from? (text.length + 1) indent rest

end Line

end SpellOut.Toon
