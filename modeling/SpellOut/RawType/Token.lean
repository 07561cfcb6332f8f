import SpellOut.Word
import SpellOut.CharClass.Blank

/-! Tokens of a type that is given as text: words and marks. Blanks separate tokens and are no part
of any; a character that is neither part of a word nor a mark nor a blank makes the whole text
unreadable. -/
namespace SpellOut.RawType

/-- The marks that type syntax uses. -/
inductive Mark where
  | less
  | greater
  | leftBracket
  | rightBracket
  | dot
  | comma
  | question
deriving DecidableEq

namespace Mark

def char : Mark → Char
  | less => '<'
  | greater => '>'
  | leftBracket => '['
  | rightBracket => ']'
  | dot => '.'
  | comma => ','
  | question => '?'

def ofChar? : Char → Option Mark
  | '<' => some less
  | '>' => some greater
  | '[' => some leftBracket
  | ']' => some rightBracket
  | '.' => some dot
  | ',' => some comma
  | '?' => some question
  | _ => none

theorem ofChar?_eq_some_iff {c : Char} {m : Mark} : ofChar? c = some m ↔ c = m.char := by
  constructor
  · intro h
    unfold ofChar? at h
    split at h <;> simp_all [char] <;> subst h <;> rfl
  · rintro rfl
    cases m <;> rfl

end Mark

inductive Token where
  | word (text : String)
  | mark (m : Mark)
deriving DecidableEq

namespace Token

/-- The token of a run of word characters, which is none for the empty run. -/
def ofRun (run : String) : List Token :=
  if run = "" then [] else [word run]

/-- The tokens of the text `run ++ rest`, where `run` is a run of word characters that `rest` may
continue. -/
def scan (run : String) : List Char → Option (List Token)
  | [] => some (ofRun run)
  | c :: rest =>
    if Word.isPart c then scan (run.push c) rest
    else match Mark.ofChar? c with
      | some m => (scan "" rest).map fun tokens => ofRun run ++ mark m :: tokens
      | none =>
        if CharClass.isBlank c then (scan "" rest).map fun tokens => ofRun run ++ tokens
        else none

/-- The tokens of a text, if it is readable. -/
def read? (text : String) : Option (List Token) := scan "" text.toList

end Token

end SpellOut.RawType
