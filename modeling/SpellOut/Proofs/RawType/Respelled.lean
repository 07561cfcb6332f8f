import SpellOut.Proofs.Enclosed
import SpellOut.Proofs.RawType.Accepted

/-! What is written is accepted as text.

Types are checked in two ways: a type that is described node by node while it is written, a type that
is given as text by the readers. The two agree on what is written. Every node is written as a text
that the grammar derives from the symbol of its place, at any level that is not deeper than the node
(`SpelledAs.fits`); levels fall behind depths, since an array does not count as a level. So what was
written can be given back as text, and is written the same again (`spell_text`). -/
namespace SpellOut

/-! ### Texts of symbols -/

namespace RawType

/-- A text that is derived from a symbol and has no blanks around it. -/
structure Fits (cap : Nat) (symbol : Symbol) (level : Nat) (text : String) : Prop where
  tight : CharClass.Tight text.toList
  derived : ∃ tokens, Lexed text.toList tokens ∧ Derives cap symbol level tokens

variable {cap level : Nat} {text : String}

theorem Lexed.array {tokens : List Token} (h : Lexed text.toList tokens) :
    Lexed (text ++ "[]").toList (tokens ++ [.mark .leftBracket, .mark .rightBracket]) := by
  rw [String.toList_append]
  exact h.append_mark .leftBracket (.mark .rightBracket .nil)

/-- An array of what a text is a type for. -/
theorem Fits.array (h : Fits cap .type level text) : Fits cap .type level (text ++ "[]") := by
  obtain ⟨tokens, hlexed, hderives⟩ := h.derived
  refine ⟨?_, _, hlexed.array, hderives.array⟩
  rw [String.toList_append]
  exact h.tight.append ((Mark.tight .leftBracket).append (Mark.tight .rightBracket))

/-- Where no word for a primitive type may stand, a text has to be none. -/
theorem Fits.reference (h : Fits cap .type level text) (hprimitive : Word.isPrimitive text = false) :
    Fits cap .reference level text := by
  obtain ⟨tokens, hlexed, hderives⟩ := h.derived
  refine ⟨h.tight, tokens, hlexed, .reference hderives ?_⟩
  have hbare := isPrimitive_trimBlanks text
  rw [CharClass.trimBlanks_of_tight h.tight, hprimitive, Token.read?_eq_some_iff.mpr hlexed] at hbare
  exact hbare.symm

theorem Fits.argument (h : Fits cap .reference level text) : Fits cap .argument level text := by
  obtain ⟨tokens, hlexed, hderives⟩ := h.derived
  exact ⟨h.tight, tokens, hlexed, .plain hderives⟩

theorem isBlank_space : CharClass.isBlank ' ' = true := by
  decide +kernel

theorem Lexed.wildcard {tokens : List Token} (h : Lexed text.toList tokens) :
    Lexed ("? extends " ++ text).toList (.mark .question :: .word "extends" :: tokens) := by
  have hextends : Lexed "extends".toList [.word "extends"] :=
    .single ⟨by decide, List.all_eq_true.mp (by decide +kernel)⟩
  have hquestion : Lexed ['?'] [.mark .question] := .mark .question .nil
  simpa using (hquestion.append_blank isBlank_space hextends).append_blank isBlank_space h

/-- A wildcard with a text for its bound. -/
theorem Fits.wildcard (h : Fits cap .reference (level + 1) text) :
    Fits cap .argument level ("? extends " ++ text) := by
  obtain ⟨tokens, hlexed, hderives⟩ := h.derived
  refine ⟨?_, _, hlexed.wildcard, .bounded (.inl rfl) hderives⟩
  simpa [Mark.char] using (Mark.tight .question).around " extends ".toList h.tight

/-- Arguments after the first one, each led by a comma and a blank. -/
theorem Lexed.textAfter {lead : String} {es : List SpelledType} {e : SpelledType}
    {taken tokens : List Token} (h : Lexed lead.toList taken)
    (hrest : Lexed (e.text ++ SpelledType.textAfter es).toList tokens) :
    Lexed (lead ++ SpelledType.textAfter (e :: es)).toList (taken ++ .mark .comma :: tokens) := by
  simpa [SpelledType.textAfter, Mark.char] using h.append_mark .comma (.blank isBlank_space hrest)

/-! ### Names -/

/-- The tokens of a name. -/
def nameTokens : Name → List Token
  | .simple last => [.word last.text]
  | .qualified owner last => nameTokens owner ++ [.mark .dot, .word last.text]

theorem tight_name {n : Name} (h : n.OfIdentifiers) : CharClass.Tight n.text.toList := by
  induction n with
  | simple last => exact (Word.isWord_of_isIdentifier h.last).tight
  | qualified owner last ih =>
    have hlast : IsWord last.text := Word.isWord_of_isIdentifier h.last
    simpa [Name.text] using (ih h.owner).around ['.'] hlast.tight

theorem lexed_name {n : Name} (h : n.OfIdentifiers) : Lexed n.text.toList (nameTokens n) := by
  induction n with
  | simple last => exact .single (Word.isWord_of_isIdentifier h.last)
  | qualified owner last ih =>
    have hlast : IsWord last.text := Word.isWord_of_isIdentifier h.last
    simpa [Name.text, nameTokens, Mark.char] using (ih h.owner).append_mark .dot (.single hlast)

/-- A name in front of a class type, with a dot between the two. -/
theorem derives_name_dot {n : Name} (h : n.OfIdentifiers) {rest : List Token}
    (hrest : Derives cap .chain level rest) :
    Derives cap .chain level (nameTokens n ++ .mark .dot :: rest) := by
  induction n generalizing rest with
  | simple last => exact .dot h.last .noArguments hrest
  | qualified owner last ih =>
    simpa [Name.last, nameTokens] using ih h.owner (.dot h.last .noArguments hrest)

/-- A name with arguments after its last part, or with none. -/
theorem derives_name {n : Name} (h : n.OfIdentifiers) {arguments : List Token}
    (harguments : Derives cap .arguments level arguments) :
    Derives cap .chain level (nameTokens n ++ arguments) := by
  cases n with
  | simple last => exact .last h.last harguments
  | qualified owner last =>
    simpa [Name.last, nameTokens] using derives_name_dot h.owner (.last h.last harguments)

theorem Fits.name {n : Name} (h : n.OfIdentifiers) (hlevel : level ≤ cap) :
    Fits cap .type level n.text := by
  refine ⟨tight_name h, nameTokens n, lexed_name h, ?_⟩
  simpa [brackets] using Derives.classType hlevel (derives_name h .noArguments) 0

/-- A list between angle brackets, behind a name. -/
theorem Lexed.generic {list : String} {tokens : List Token} (h : Lexed list.toList tokens) {n : Name}
    (hname : n.OfIdentifiers) :
    Lexed (n.text ++ "<" ++ list ++ ">").toList
      (nameTokens n ++ .mark .less :: (tokens ++ [.mark .greater])) := by
  have hclosed : Lexed (list.toList ++ ['>']) (tokens ++ [.mark .greater]) :=
    h.append_mark .greater .nil
  simpa [Mark.char] using (lexed_name hname).append_mark .less hclosed

/-- A name with arguments after its last part. -/
theorem Fits.generic {n : Name} (h : n.OfIdentifiers) (hlevel : level ≤ cap) {list : String}
    {tokens : List Token} (hlexed : Lexed list.toList tokens)
    (hderives : Derives cap .list (level + 1) tokens) :
    Fits cap .type level (n.text ++ "<" ++ list ++ ">") := by
  refine ⟨?_, _, hlexed.generic h, ?_⟩
  · simpa [Mark.char] using (tight_name h).around ('<' :: list.toList) (Mark.tight .greater)
  · simpa [brackets] using Derives.classType hlevel (derives_name h (.arguments hderives)) 0

end RawType

/-! ### Types node by node -/

/-- What a type is derived from where it stands. -/
def Place.symbol : Place → RawType.Symbol
  | whole => .type
  | component => .type
  | argument => .argument
  | bound => .reference

namespace RawType

/-- A type fits its place if it is no bare primitive where there may be none. -/
theorem Fits.atPlace {cap level : Nat} {text : String} (h : Fits cap .type level text)
    {place : Place}
    (hprimitive : place = .argument ∨ place = .bound → Word.isPrimitive text = false) :
    Fits cap place.symbol level text := by
  cases place with
  | whole => exact h
  | component => exact h
  | argument => exact (h.reference (hprimitive (.inl rfl))).argument
  | bound => exact h.reference (hprimitive (.inr rfl))

/-- A text that is accepted fits without the blanks around it, also further down. -/
theorem fits_of_accepts {cap depth level : Nat} {text : String} (hdepth : depth ≤ cap)
    (hlevel : level ≤ depth) (h : accepts (cap - depth) text = true) :
    Fits cap .type level (CharClass.trimBlanks text) := by
  obtain ⟨tokens, hlexed, htype⟩ := exists_lexed_of_accepts h
  have hderives := isType_iff.mp htype
  refine ⟨?_, tokens, ?_, ?_⟩
  · rw [CharClass.trimBlanks, String.toList_ofList]
    refine CharClass.tight_trim (hlexed.exists_not_blank ?_)
    obtain ⟨word, more, rfl⟩ := hderives.exists_word
    simp
  · rw [← Token.read?_eq_some_iff, Token.read?_trimBlanks, Token.read?_eq_some_iff]
    exact hlexed
  · have hcap : cap - depth + level ≤ cap := by
      omega
    simpa using hderives.deepen hcap

end RawType

namespace ResolvedType

open RawType

mutual

/-- A node is written as a text that fits its place, at every level that is not deeper than it. -/
theorem SpelledAs.fits {cap depth : Nat} {place : Place} {type : ResolvedType} {e : SpelledType}
    (h : SpelledAs cap depth place type e)
    (hbare : place = .argument ∨ place = .bound → type.isBareRaw = false)
    (henclosed : ∀ x ∈ type.enclosed, x.isBareRaw = false) {level : Nat} (hlevel : level ≤ depth) :
    Fits cap place.symbol level e.text := by
  have hprimitive : place = .argument ∨ place = .bound → Word.isPrimitive e.text = false :=
    fun hplace => (h.isPrimitive_text hplace).trans (hbare hplace)
  cases h with
  | primitive hdepth hword _ =>
    refine Fits.atPlace ⟨?_, _, ?_, .primitive (Nat.le_trans hlevel hdepth) hword 0⟩ hprimitive
    · exact (Word.isWord_of_isPrimitive hword).tight
    · exact .single (Word.isWord_of_isPrimitive hword)
  | array hdepth h =>
    have hcomponent := h.fits (by simp) henclosed (Nat.le_succ_of_le hlevel)
    exact hcomponent.array.atPlace hprimitive
  | @reference _ _ name arguments es hdepth hname s h =>
    refine Fits.atPlace ?_ hprimitive
    obtain ⟨n, htext, hn⟩ := hname.exists_of_spell s
    have hshallow := Nat.le_trans hlevel hdepth
    cases h with
    | nil =>
      rw [SpelledType.text, ← htext]
      exact Fits.name hn hshallow
    | cons h hrest =>
      obtain ⟨hfirst, hinFirst, hinRest⟩ := forall_enclosedIn_cons.mp henclosed
      have hdeeper := Nat.succ_le_succ hlevel
      obtain ⟨taken, hlexed, hderives⟩ := (h.fits (fun _ => hfirst) hinFirst hdeeper).derived
      obtain ⟨tokens, hlist, hderivesList⟩ := hrest.derives_list hinRest hdeeper hlexed hderives
      simpa [SpelledType.text, htext, String.append_assoc] using
        Fits.generic hn hshallow hlist hderivesList
  | wildcard hdepth h =>
    obtain ⟨hbound, hinBound⟩ := List.forall_mem_cons.mp henclosed
    exact (h.fits (fun _ => hbound) hinBound (Nat.succ_le_succ hlevel)).wildcard
  | typeVariable hdepth hname =>
    have hword := Word.isWord_of_isIdentifier hname
    refine Fits.atPlace ⟨hword.tight, _, .single hword, ?_⟩ hprimitive
    exact .classType (Nat.le_trans hlevel hdepth) (.last hname .noArguments) 0
  | raw hdepth haccepts =>
    exact (fits_of_accepts hdepth hlevel haccepts).atPlace hprimitive

/-- Arguments after a text that is derived from an argument make up a list with it. -/
theorem AllSpelledAs.derives_list {cap depth : Nat} {types : List ResolvedType}
    {es : List SpelledType} (h : AllSpelledAs cap depth types es)
    (henclosed : ∀ x ∈ enclosedIn types, x.isBareRaw = false) {level : Nat} (hlevel : level ≤ depth)
    {lead : String} {taken : List Token} (hlexed : Lexed lead.toList taken)
    (hderives : Derives cap .argument level taken) :
    ∃ tokens, Lexed (lead ++ SpelledType.textAfter es).toList tokens ∧
      Derives cap .list level tokens := by
  cases h with
  | nil => exact ⟨taken, by simpa [SpelledType.textAfter] using hlexed, .single hderives⟩
  | cons h hrest =>
    obtain ⟨hfirst, hinFirst, hinRest⟩ := forall_enclosedIn_cons.mp henclosed
    obtain ⟨next, hnext, hderivesNext⟩ := (h.fits (fun _ => hfirst) hinFirst hlevel).derived
    obtain ⟨tokens, hlist, hderivesList⟩ := hrest.derives_list hinRest hlevel hnext hderivesNext
    exact ⟨taken ++ .mark .comma :: tokens, hlexed.textAfter hlist, .comma hderives hderivesList⟩

end

/-- **What is written is accepted as text, and is written the same again.** A text that is nothing
but the word for a primitive type, and stands as an argument or a bound, is all that could spoil it.
Given back as text the type asks for no import, whatever the scope. -/
theorem spell_text {cap : Nat} {type : ResolvedType} {d d' : Draft} {e : SpelledType}
    (hbare : ∀ x ∈ type.enclosed, x.isBareRaw = false)
    (h : type.spell cap d = (.ok e, d')) :
    RawType.accepts cap e.text = true ∧
      ∀ d : Draft, (raw e.text).spell cap d = (.ok (.raw e.text), d) := by
  have hfits : Fits cap .type 0 e.text :=
    (spellAt_spelledAs h).fits (by simp) hbare (Nat.zero_le 0)
  obtain ⟨tokens, hlexed, hderives⟩ := hfits.derived
  have haccepts : RawType.accepts cap e.text = true := by
    rw [accepts_of_lexed hlexed]
    exact isType_iff.mpr hderives
  refine ⟨haccepts, fun d => ?_⟩
  have htrim := CharClass.trimBlanks_of_tight hfits.tight
  unfold spell spellAt
  simp [flaw?, haccepts, htrim]

/-- A map with an argument of every kind. -/
def mixedMap : ResolvedType :=
  reference (.ofText "a.Map")
    [wildcard (array (reference (.ofText "a.Map.Entry") [typeVariable "K"])),
      raw " c.Key < ? > [ ] ", array (array (primitive "int"))]

theorem mixedMap_text : ∃ e d,
    mixedMap.spell 8 (.ofScope (.ofFile 1 none [.single (.ofText "a.Map")])) = (.ok e, d) ∧
      e.text = "Map<? extends Map.Entry<K>[], c.Key < ? > [ ], int[][]>" ∧
      RawType.accepts 8 e.text = true ∧
      ∀ d : Draft, (raw e.text).spell 8 d = (.ok (.raw e.text), d) := by
  have hrun : mixedMap.spellsTo 8 (.ofFile 1 none [.single (.ofText "a.Map")])
      (fun e _ => e.text == "Map<? extends Map.Entry<K>[], c.Key < ? > [ ], int[][]>") = true := by
    decide +kernel
  obtain ⟨e, d, h, htext⟩ := exists_of_spellsTo hrun
  have hbare : ∀ x ∈ mixedMap.enclosed, x.isBareRaw = false := by
    decide +kernel
  obtain ⟨haccepts, hagain⟩ := spell_text hbare h
  exact ⟨e, d, h, beq_iff_eq.mp htext, haccepts, hagain⟩

end ResolvedType

end SpellOut
