import SpellOut.Proofs.Identifiers
import SpellOut.Proofs.Trim
import SpellOut.RawType.Token

/-! The tokens of a text, said without a reader.

A text falls into words, marks and blanks in one way only: a word goes on as far as it can, and no
blank and no mark is part of a word. So the tokens that are read from a text are all it has
(`read?_eq_some_iff`). Texts put one after the other have their tokens one after the other, unless a
word runs across the seam (`Lexed.append`); and blanks around a text make no difference to them
(`read?_trimBlanks`). -/
namespace SpellOut

/-! ### Kinds of characters -/

/-- No blank is part of a word. -/
theorem Word.isPart_eq_false_of_isBlank {c : Char} (h : CharClass.isBlank c = true) :
    isPart c = false := by
  obtain ⟨⟨first, last⟩, hrange, hfirst, hlast⟩ := CharClass.Ranges.exists_of_has h
  -- the blanks are few, so each is looked up in the tables of letters and numbers
  have htable : ∀ range ∈ CharClass.blank, ∀ k < range.2 - range.1 + 1,
      CharClass.alphabetic.has (range.1 + k) = false ∧
        CharClass.numeric.has (range.1 + k) = false ∧ range.1 + k ≠ 0x5F ∧ range.1 + k ≠ 0x24 := by
    decide +kernel
  obtain ⟨halphabetic, hnumeric, hunderscore, hdollar⟩ :=
    htable _ hrange (c.toNat - first) (by simp only at hfirst hlast ⊢; omega)
  have hc : first + (c.toNat - first) = c.toNat := Nat.add_sub_cancel' hfirst
  simp only [hc] at halphabetic hnumeric hunderscore hdollar
  have hne : ∀ other : Char, c.toNat ≠ other.toNat → (c == other) = false := fun other hother =>
    beq_false_of_ne fun he => hother (he ▸ rfl)
  simp [isPart, CharClass.isAlphabetic, CharClass.isNumeric, halphabetic, hnumeric,
    hne '_' hunderscore, hne '$' hdollar]

theorem Word.isBlank_eq_false_of_isPart {c : Char} (h : isPart c = true) :
    CharClass.isBlank c = false := by
  cases hblank : CharClass.isBlank c with
  | false => rfl
  | true =>
    rw [isPart_eq_false_of_isBlank hblank] at h
    cases h

theorem IsWord.tight {text : String} (h : IsWord text) : CharClass.Tight text.toList :=
  .of_forall (by simpa using h.ne_empty) fun c hc => Word.isBlank_eq_false_of_isPart (h.parts c hc)

namespace RawType

theorem Mark.isPart_char (m : Mark) : Word.isPart m.char = false := by
  cases m <;> decide +kernel

theorem Mark.isBlank_char (m : Mark) : CharClass.isBlank m.char = false := by
  cases m <;> decide +kernel

theorem Mark.tight (m : Mark) : CharClass.Tight [m.char] :=
  .of_forall (List.cons_ne_nil _ _) (by simp [m.isBlank_char])

/-- No word for a primitive type holds a mark. -/
theorem Mark.isPrimitive_of_mem {m : Mark} {text : String} (h : m.char ∈ text.toList) :
    Word.isPrimitive text = false :=
  Word.isPrimitive_eq_false_of_mem h m.isPart_char

theorem Mark.ofChar?_of_isBlank {c : Char} (h : CharClass.isBlank c = true) : ofChar? c = none := by
  cases hm : ofChar? c with
  | none => rfl
  | some m =>
    rw [ofChar?_eq_some_iff.mp hm, isBlank_char] at h
    cases h

/-- Whether a character may stand in a type: as part of a word, as a blank or as a mark. -/
def isReadable (c : Char) : Bool :=
  Word.isPart c || CharClass.isBlank c || (Mark.ofChar? c).isSome

/-- Whether a word that stands before these characters ends there. -/
def endsWord (chars : List Char) : Bool := chars.head?.all fun c => !Word.isPart c

theorem endsWord_append {a b : List Char} (ha : endsWord a = true) (hb : endsWord b = true) :
    endsWord (a ++ b) = true := by
  cases a with
  | nil => exact hb
  | cons c rest => exact ha

/-! ### What the tokens of a text are -/

/-- The tokens that characters make up. -/
inductive Lexed : List Char → List Token → Prop where
  | nil : Lexed [] []
  | blank {c : Char} {rest : List Char} {tokens : List Token} (hc : CharClass.isBlank c = true)
      (h : Lexed rest tokens) : Lexed (c :: rest) tokens
  | mark (m : Mark) {rest : List Char} {tokens : List Token} (h : Lexed rest tokens) :
      Lexed (m.char :: rest) (.mark m :: tokens)
  | word {word : String} {rest : List Char} {tokens : List Token} (hword : IsWord word)
      (hend : endsWord rest = true) (h : Lexed rest tokens) :
      Lexed (word.toList ++ rest) (.word word :: tokens)

namespace Lexed

/-- A run of word characters that ends makes up one word, or nothing if it is empty. -/
theorem run {run : String} {rest : List Char} {tokens : List Token}
    (hpart : ∀ c ∈ run.toList, Word.isPart c = true) (hend : endsWord rest = true)
    (h : Lexed rest tokens) : Lexed (run.toList ++ rest) (Token.ofRun run ++ tokens) := by
  unfold Token.ofRun
  split
  · next hrun =>
    subst hrun
    exact h
  · next hrun => exact .word ⟨hrun, hpart⟩ hend h

/-- A word that stands alone. -/
theorem single {word : String} (h : IsWord word) : Lexed word.toList [.word word] := by
  simpa using Lexed.word h rfl .nil

/-- Texts one after the other, where no word runs across the seam. -/
theorem append {a b : List Char} {s t : List Token} (ha : Lexed a s) (hb : Lexed b t)
    (hseam : endsWord b = true) : Lexed (a ++ b) (s ++ t) := by
  induction ha with
  | nil => exact hb
  | blank hc _ ih => exact .blank hc ih
  | mark m _ ih => exact .mark m ih
  | word hword hend _ ih =>
    rw [List.append_assoc]
    exact .word hword (endsWord_append hend hseam) ih

/-- A mark between two texts keeps their words apart. -/
theorem append_mark {a b : List Char} {s t : List Token} (ha : Lexed a s) (m : Mark)
    (hb : Lexed b t) : Lexed (a ++ m.char :: b) (s ++ .mark m :: t) :=
  ha.append (.mark m hb) (by simp [endsWord, m.isPart_char])

/-- So does a blank. -/
theorem append_blank {a b : List Char} {s t : List Token} (ha : Lexed a s) {c : Char}
    (hc : CharClass.isBlank c = true) (hb : Lexed b t) : Lexed (a ++ c :: b) (s ++ t) :=
  ha.append (.blank hc hb) (by simp [endsWord, Word.isPart_eq_false_of_isBlank hc])

theorem readable {chars : List Char} {tokens : List Token} (h : Lexed chars tokens) :
    ∀ c ∈ chars, isReadable c = true := by
  induction h with
  | nil => simp
  | blank hc _ ih => simpa [isReadable, hc] using ih
  | mark m _ ih => simpa [isReadable, Mark.ofChar?_eq_some_iff.mpr rfl] using ih
  | word hword _ _ ih =>
    intro c hc
    rcases List.mem_append.mp hc with hc | hc
    · simp [isReadable, hword.parts c hc]
    · exact ih c hc

/-- Where there are no tokens, there are only blanks. -/
theorem isBlank_of_nil {chars : List Char} {tokens : List Token} (h : Lexed chars tokens)
    (htokens : tokens = []) : ∀ c ∈ chars, CharClass.isBlank c = true := by
  induction h with
  | nil => simp
  | blank hc _ ih => simpa [hc] using ih htokens
  | mark m _ _ => cases htokens
  | word _ _ _ _ => cases htokens

/-- Where there are tokens, there is something else than blanks. -/
theorem exists_not_blank {chars : List Char} {tokens : List Token} (h : Lexed chars tokens)
    (htokens : tokens ≠ []) : ∃ c ∈ chars, CharClass.isBlank c = false := by
  induction h with
  | nil => exact absurd rfl htokens
  | blank _ _ ih =>
    obtain ⟨c, hc, hblank⟩ := ih htokens
    exact ⟨c, List.mem_cons_of_mem _ hc, hblank⟩
  | mark m _ _ => exact ⟨m.char, List.mem_cons_self, m.isBlank_char⟩
  | word hword _ _ _ =>
    obtain ⟨c, hc, hblank⟩ := hword.tight.starts
    exact ⟨c, List.mem_append_left _ (List.mem_of_head? hc), hblank⟩

/-- Where there is one word and no other token, there are only blanks around the word. -/
theorem exists_blanks_around {chars : List Char} {tokens : List Token} (h : Lexed chars tokens)
    {word : String} (htokens : tokens = [.word word]) :
    ∃ before after, chars = before ++ word.toList ++ after ∧
      (∀ c ∈ before, CharClass.isBlank c = true) ∧ CharClass.Tight word.toList ∧
      ∀ c ∈ after, CharClass.isBlank c = true := by
  induction h with
  | nil => cases htokens
  | @blank c _ _ hc _ ih =>
    obtain ⟨before, after, rfl, hbefore, hword, hafter⟩ := ih htokens
    exact ⟨c :: before, after, rfl, by simpa [hc] using hbefore, hword, hafter⟩
  | mark m _ _ => cases htokens
  | word hword _ hrest _ =>
    cases htokens
    exact ⟨[], _, rfl, by simp, hword.tight, hrest.isBlank_of_nil rfl⟩

end Lexed

/-! ### Reading the tokens -/

namespace Token

@[simp]
theorem ofRun_empty : ofRun "" = [] := rfl

theorem scan_append_run {chars : List Char} (hpart : ∀ c ∈ chars, Word.isPart c = true)
    (run : String) (rest : List Char) :
    scan run (chars ++ rest) = scan (run ++ String.ofList chars) rest := by
  induction chars generalizing run with
  | nil => simp
  | cons c chars ih =>
    have hc := hpart c List.mem_cons_self
    rw [List.cons_append, scan, if_pos hc, ih fun other ho => hpart other (List.mem_cons_of_mem _ ho)]
    congr 1
    apply String.toList_inj.mp
    simp

/-- A run that ends is a token before those that follow. -/
theorem scan_of_endsWord {chars : List Char} (h : endsWord chars = true) (run : String) :
    scan run chars = (scan "" chars).map (ofRun run ++ ·) := by
  cases chars with
  | nil => simp [scan]
  | cons c rest =>
    have hc : Word.isPart c = false := by simpa [endsWord] using h
    simp only [scan, hc, Bool.false_eq_true, if_false]
    split
    · simp [Function.comp_def]
    · split
      · simp
      · rfl

theorem lexed_of_scan {run : String} {chars : List Char} {tokens : List Token}
    (hpart : ∀ c ∈ run.toList, Word.isPart c = true) (h : scan run chars = some tokens) :
    Lexed (run.toList ++ chars) tokens := by
  induction chars generalizing run tokens with
  | nil =>
    cases h
    simpa using Lexed.run hpart rfl .nil
  | cons c rest ih =>
    rw [scan] at h
    split at h
    · next hc =>
      have hpush : ∀ other ∈ (run.push c).toList, Word.isPart other = true := by
        intro other ho
        rw [String.toList_push, List.mem_append, List.mem_singleton] at ho
        rcases ho with ho | rfl
        · exact hpart other ho
        · exact hc
      simpa using ih hpush h
    · next hc =>
      have hend : endsWord (c :: rest) = true := by simpa [endsWord] using hc
      split at h
      · next m hm =>
        obtain ⟨more, hmore, rfl⟩ := Option.map_eq_some_iff.mp h
        have hrest : Lexed rest more := ih (by simp) hmore
        refine Lexed.run hpart hend ?_
        rw [Mark.ofChar?_eq_some_iff.mp hm]
        exact .mark m hrest
      · split at h
        · next hblank =>
          obtain ⟨more, hmore, rfl⟩ := Option.map_eq_some_iff.mp h
          have hrest : Lexed rest more := ih (by simp) hmore
          exact Lexed.run hpart hend (.blank hblank hrest)
        · cases h

theorem scan_of_lexed {chars : List Char} {tokens : List Token} (h : Lexed chars tokens) :
    scan "" chars = some tokens := by
  induction h with
  | nil => rfl
  | blank hc _ ih =>
    simp [scan, Word.isPart_eq_false_of_isBlank hc, Mark.ofChar?_of_isBlank hc, hc, ih]
  | mark m _ ih => simp [scan, m.isPart_char, Mark.ofChar?_eq_some_iff.mpr rfl, ih]
  | word hword hend _ ih =>
    rw [scan_append_run hword.parts, scan_of_endsWord hend, ih]
    simp [ofRun, hword.ne_empty]

/-- Reading a text gives the tokens that it is made up of. -/
theorem read?_eq_some_iff {text : String} {tokens : List Token} :
    read? text = some tokens ↔ Lexed text.toList tokens := by
  constructor
  · intro h
    have hempty : ∀ c ∈ "".toList, Word.isPart c = true := by
      simp
    simpa using lexed_of_scan hempty h
  · exact scan_of_lexed

/-! ### Blanks around a text -/

theorem scan_dropBlanks (chars : List Char) :
    scan "" (chars.dropWhile CharClass.isBlank) = scan "" chars := by
  induction chars with
  | nil => rfl
  | cons c rest ih =>
    cases hc : CharClass.isBlank c with
    | false => rw [List.dropWhile_cons_of_neg (by simp [hc])]
    | true =>
      rw [List.dropWhile_cons_of_pos hc, ih]
      simp [scan, Word.isPart_eq_false_of_isBlank hc, Mark.ofChar?_of_isBlank hc, hc]

theorem scan_append_blanks {blanks : List Char} (h : ∀ c ∈ blanks, CharClass.isBlank c = true)
    (run : String) (chars : List Char) : scan run (chars ++ blanks) = scan run chars := by
  induction chars generalizing run with
  | nil =>
    have hread : Lexed blanks [] := by
      induction blanks with
      | nil => exact .nil
      | cons c rest ih =>
        exact .blank (h c List.mem_cons_self) (ih fun other ho => h other (List.mem_cons_of_mem _ ho))
    have hend : endsWord blanks = true := by
      cases blanks with
      | nil => rfl
      | cons c rest => simp [endsWord, Word.isPart_eq_false_of_isBlank (h c List.mem_cons_self)]
    rw [List.nil_append, scan_of_endsWord hend, scan_of_lexed hread]
    simp [scan]
  | cons c rest ih => simp only [List.cons_append, scan, ih]

/-- A text has the tokens that it has without the blanks around it. -/
theorem read?_trimBlanks (text : String) : read? (CharClass.trimBlanks text) = read? text := by
  obtain ⟨blanks, heq, hblanks⟩ := CharClass.exists_trimEnd (text.toList.dropWhile CharClass.isBlank)
  rw [read?, CharClass.trimBlanks, String.toList_ofList, CharClass.trim,
    ← scan_append_blanks hblanks, ← heq, scan_dropBlanks, read?]

end Token

end RawType

end SpellOut
