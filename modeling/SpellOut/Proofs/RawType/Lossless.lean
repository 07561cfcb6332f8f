import SpellOut.Proofs.RawType.Lexed

/-! Nothing is lost between a text and its tokens.

A text has tokens unless it holds a character that can stand in no type (`read?_eq_none_iff`). Put
together, the tokens are the text without its blanks (`Lexed.flatMap_text`). Each word that was read
stands somewhere in the text, between what the tokens before it and those after it were read from
(`Lexed.exists_around`), so between two words that follow each other there is a blank. And tokens
that are written out with a space after each are read again as they were (`lexed_spaced`). -/
namespace SpellOut.RawType

/-- The token as it is written. -/
def Token.text : Token → String
  | word text => text
  | mark m => String.singleton m.char

/-- The tokens as they are written, with a space between any two. -/
def spaced (tokens : List Token) : String := " ".intercalate (tokens.map Token.text)

/-! ### Texts without tokens -/

namespace Token

theorem scan_eq_none_iff (run : String) (chars : List Char) :
    scan run chars = none ↔ ∃ c ∈ chars, isReadable c = false := by
  induction chars generalizing run with
  | nil => simp [scan]
  | cons c rest ih =>
    rw [scan]
    cases hpart : Word.isPart c with
    | true => simp [ih, isReadable, hpart]
    | false =>
      rw [if_neg Bool.false_ne_true]
      cases hmark : Mark.ofChar? c with
      | some m => simp [ih, isReadable, hmark]
      | none => cases hblank : CharClass.isBlank c <;> simp [ih, isReadable, hpart, hmark, hblank]

/-- A text cannot be read exactly if it holds a character that no type holds. -/
theorem read?_eq_none_iff {text : String} :
    read? text = none ↔ ∃ c ∈ text.toList, isReadable c = false :=
  scan_eq_none_iff "" text.toList

end Token

/-! ### What tokens keep of a text -/

namespace Lexed

variable {chars : List Char} {tokens : List Token}

/-- The characters of the tokens are those of the text, but for the blanks. -/
theorem flatMap_text (h : Lexed chars tokens) :
    tokens.flatMap (·.text.toList) = chars.filter (!CharClass.isBlank ·) := by
  induction h with
  | nil => rfl
  | blank hc _ ih => rw [List.filter_cons_of_neg (by simp [hc]), ih]
  | mark m _ ih =>
    rw [List.flatMap_cons, List.filter_cons_of_pos (by simp [m.isBlank_char]), ih]
    simp [Token.text]
  | @word word rest tokens hword _ _ ih =>
    have hkept : word.toList.filter (!CharClass.isBlank ·) = word.toList :=
      List.filter_eq_self.mpr fun c hc => by
        rw [Word.isBlank_eq_false_of_isPart (hword.parts c hc), Bool.not_false]
    rw [List.flatMap_cons, List.filter_append, hkept, ih]
    rfl

theorem isWord_of_mem (h : Lexed chars tokens) {word : String} (hmem : .word word ∈ tokens) :
    IsWord word := by
  induction h with
  | nil => cases hmem
  | blank _ _ ih => exact ih hmem
  | mark m _ ih =>
    rcases List.mem_cons.mp hmem with heq | hmem
    · cases heq
    · exact ih hmem
  | word hword _ _ ih =>
    rcases List.mem_cons.mp hmem with heq | hmem
    · cases heq
      exact hword
    · exact ih hmem

/-- A word stands between what the tokens before it and the tokens after it were read from, and
goes on as far as it can. -/
theorem exists_around (h : Lexed chars tokens) {before after : List Token} {word : String}
    (htokens : tokens = before ++ .word word :: after) :
    ∃ start rest, chars = start ++ word.toList ++ rest ∧ Lexed start before ∧
      endsWord rest = true ∧ Lexed rest after := by
  induction h generalizing before with
  | nil => cases before <;> cases htokens
  | @blank c _ _ hc _ ih =>
    obtain ⟨start, rest, rfl, hstart, hend, hrest⟩ := ih htokens
    exact ⟨c :: start, rest, rfl, .blank hc hstart, hend, hrest⟩
  | mark m _ ih =>
    cases before with
    | nil => cases htokens
    | cons first before =>
      cases htokens
      obtain ⟨start, rest, rfl, hstart, hend, hrest⟩ := ih rfl
      exact ⟨m.char :: start, rest, rfl, .mark m hstart, hend, hrest⟩
  | @word found chars tokens hfound hend h ih =>
    cases before with
    | nil =>
      cases htokens
      exact ⟨[], chars, rfl, .nil, hend, h⟩
    | cons first before =>
      cases htokens
      obtain ⟨start, rest, rfl, hstart, hrestEnd, hrest⟩ := ih rfl
      have hstartEnd : endsWord start = true := by
        cases start with
        | nil => rfl
        | cons c start => exact hend
      exact ⟨found.toList ++ start, rest, by simp, .word hfound hstartEnd hstart, hrestEnd, hrest⟩

/-- Between two words that follow each other there are blanks, one at least. -/
theorem exists_gap (h : Lexed chars tokens) {before after : List Token} {first second : String}
    (htokens : tokens = before ++ .word first :: .word second :: after) :
    ∃ start gap rest, chars = start ++ first.toList ++ gap ++ second.toList ++ rest ∧ gap ≠ [] ∧
      (∀ c ∈ gap, CharClass.isBlank c = true) ∧ Lexed start before ∧ Lexed rest after := by
  obtain ⟨start, between, rfl, hstart, hend, hbetween⟩ := h.exists_around htokens
  have hnext : Token.word second :: after = [] ++ .word second :: after := rfl
  obtain ⟨gap, rest, rfl, hgap, -, hrest⟩ := hbetween.exists_around hnext
  refine ⟨start, gap, rest, by simp only [List.append_assoc], ?_, hgap.isBlank_of_nil rfl, hstart,
    hrest⟩
  -- without a gap the second word would go on where the first one ends
  rintro rfl
  have hsecond := hbetween.isWord_of_mem List.mem_cons_self
  cases hchars : second.toList with
  | nil => exact hsecond.ne_empty (String.toList_eq_nil_iff.mp hchars)
  | cons c more =>
    have hc := hsecond.parts c (hchars ▸ List.mem_cons_self)
    simp [hchars, endsWord, hc] at hend

end Lexed

/-! ### Tokens that are written out -/

theorem Token.lexed_text {token : Token} (h : ∀ word, token = .word word → IsWord word) :
    Lexed token.text.toList [token] := by
  cases token with
  | word text => exact .single (h text rfl)
  | mark m =>
    rw [Token.text, String.toList_singleton]
    exact .mark m .nil

/-- Tokens that are written out with spaces between them make up themselves. -/
theorem lexed_spaced {tokens : List Token} (h : ∀ word, .word word ∈ tokens → IsWord word) :
    Lexed (spaced tokens).toList tokens := by
  induction tokens with
  | nil => exact .nil
  | cons token rest ih =>
    have htoken : Lexed token.text.toList [token] :=
      Token.lexed_text fun word he => h word (he ▸ List.mem_cons_self)
    cases rest with
    | nil => simpa [spaced] using htoken
    | cons next rest =>
      have hrest := ih fun word hw => h word (List.mem_cons_of_mem _ hw)
      have hchars : (spaced (token :: next :: rest)).toList =
          token.text.toList ++ ' ' :: (spaced (next :: rest)).toList := by
        simp [spaced, String.intercalate_cons_cons]
      rw [hchars]
      exact htoken.append_blank (by decide +kernel) hrest

/-! ### Tokens and texts -/

/-- What the tokens that were read from a text have to do with it. -/
structure Lossless (text : String) (tokens : List Token) : Prop where
  /-- Put together, the tokens are the text without its blanks. -/
  joined : String.join (tokens.map Token.text) =
    String.ofList (text.toList.filter (!CharClass.isBlank ·))
  /-- Words are made of parts of words, one of them at least. -/
  words : ∀ word, .word word ∈ tokens → IsWord word
  /-- Two words that follow each other stand in the text with blanks between them, after what the
  tokens before them were read from and before what those after them were read from. -/
  apart : ∀ before first second after, tokens = before ++ .word first :: .word second :: after →
    ∃ start gap rest : String, text = start ++ first ++ gap ++ second ++ rest ∧ gap ≠ "" ∧
      (∀ c ∈ gap.toList, CharClass.isBlank c = true) ∧
      Token.read? start = some before ∧ Token.read? rest = some after
  /-- Written out with spaces between them, the tokens are read again. -/
  respaced : Token.read? (spaced tokens) = some tokens

/-- **Reading a text into tokens loses nothing.** A text cannot be read exactly if it holds a
character that is neither a part of a word nor a blank nor a mark; else it is the tokens with blanks
around them, and no word is cut short. -/
theorem read?_lossless (text : String) :
    (Token.read? text = none ↔ ∃ c ∈ text.toList, isReadable c = false) ∧
      ∀ tokens, Token.read? text = some tokens → Lossless text tokens := by
  refine ⟨Token.read?_eq_none_iff, fun tokens h => ?_⟩
  have hlexed : Lexed text.toList tokens := Token.read?_eq_some_iff.mp h
  constructor
  case joined =>
    apply String.toList_inj.mp
    rw [String.toList_join, List.flatMap_map, hlexed.flatMap_text, String.toList_ofList]
  case words => exact fun word => hlexed.isWord_of_mem
  case apart =>
    intro before first second after htokens
    obtain ⟨start, gap, rest, hchars, hne, hgap, hstart, hrest⟩ := hlexed.exists_gap htokens
    refine ⟨.ofList start, .ofList gap, .ofList rest, ?_, ?_, ?_, ?_, ?_⟩
    · apply String.toList_inj.mp
      simpa using hchars
    · simpa using hne
    · simpa using hgap
    · simpa [Token.read?_eq_some_iff] using hstart
    · simpa [Token.read?_eq_some_iff] using hrest
  case respaced => exact Token.read?_eq_some_iff.mpr (lexed_spaced fun word => hlexed.isWord_of_mem)

/-- Two words in a row, which a type has only in the bound of a wildcard. -/
example : Token.read? "List<?extends\t T>[ ]" =
    some [.word "List", .mark .less, .mark .question, .word "extends", .word "T", .mark .greater,
      .mark .leftBracket, .mark .rightBracket] ∧ Token.read? "a&b" = none := by
  decide +kernel

end SpellOut.RawType
