import SpellOut.Proofs.RawType.Lexed
import SpellOut.Proofs.References
import SpellOut.Proofs.SpelledAs

/-! What is written can be read in one way only.

A type that is described node by node is written with its name or word first, then its arguments in
angle brackets, then its pairs of brackets; an argument may have `? extends` in front. A name ends
where a mark follows, and what follows a type is the end, a comma or a closing mark. So of two types
whose texts start alike, each with something behind it that closes a type, neither goes on longer than
the other (`Plain.unique`). All that a text leaves open is whether a word by itself stands for a type
variable or a type, and which type (`spell_text_eq_iff`). That rests on where wildcards may stand: an
array of a wildcard would be written as a wildcard with an array for its bound. -/
namespace SpellOut

/-! ### Names -/

namespace Name

/-- Whether a character may stand in a name that is made of identifiers. -/
def isChar (c : Char) : Bool := Word.isPart c || c == '.'

theorem isChar_of_isPart {c : Char} (h : Word.isPart c = true) : isChar c = true := by
  rw [isChar, h, Bool.true_or]

theorem OfIdentifiers.isChar_text {n : Name} (h : n.OfIdentifiers) :
    ∀ c ∈ n.text.toList, isChar c = true := by
  have hlast : ∀ c ∈ n.last.text.toList, isChar c = true := fun c hc =>
    isChar_of_isPart ((Word.isWord_of_isIdentifier h.last).parts c hc)
  induction n with
  | simple last => exact hlast
  | qualified owner last ih =>
    have howner := ih h.owner fun c hc =>
      isChar_of_isPart ((Word.isWord_of_isIdentifier h.owner.last).parts c hc)
    have hdot : ∀ c ∈ ".".toList, isChar c = true := by
      simp [isChar]
    simp only [text, String.toList_append, List.forall_mem_append]
    exact ⟨⟨howner, hdot⟩, hlast⟩

/-- An identifier is a name by itself. -/
theorem exists_of_isIdentifier {text : String} (h : Word.isIdentifier text = true) :
    ∃ n : Name, n.text = text ∧ n.OfIdentifiers := by
  have hdotFree : '.' ∉ text.toList := by
    intro hdot
    have hpart : Word.isPart '.' = false := RawType.Mark.isPart_char .dot
    rw [(Word.isWord_of_isIdentifier h).parts '.' hdot] at hpart
    cases hpart
  refine ⟨simple ⟨text, hdotFree⟩, rfl, fun segment hsegment => ?_⟩
  rw [List.mem_singleton.mp hsegment]
  exact h

theorem OfIdentifiers.text_ne_empty {n : Name} (h : n.OfIdentifiers) : n.text ≠ "" := by
  cases n with
  | simple last => exact (Word.isWord_of_isIdentifier h.last).ne_empty
  | qualified owner last => simp [text]

end Name

/-! ### Types without texts -/

namespace ResolvedType

mutual

/-- Whether the type is described node by node, with no part that is known only as text. -/
def isStructured : ResolvedType → Bool
  | primitive _ => true
  | array component => component.isStructured
  | reference _ arguments => areStructured arguments
  | wildcard bound => bound.isStructured
  | typeVariable _ => true
  | raw _ => false

def areStructured : List ResolvedType → Bool
  | [] => true
  | first :: rest => first.isStructured && areStructured rest

end

end ResolvedType

/-! ### Types that look alike -/

namespace SpelledType

/-- The name of a class type or type variable as it is written, with the arguments, if it is one. -/
def named? : SpelledType → Option (String × List SpelledType)
  | reference _ spelling arguments => some (spelling.text, arguments)
  | typeVariable name => some (name, [])
  | _ => none

mutual

/-- The types are made the same way of the same words. Which types the names belong to makes no
difference, and neither does whether a name without arguments is a type variable. -/
inductive SameForm : SpelledType → SpelledType → Prop where
  | primitive (word : String) : SameForm (primitive word) (primitive word)
  | array {a b : SpelledType} (h : SameForm a b) : SameForm (array a) (array b)
  | named {a b : SpelledType} {word : String} {arguments arguments' : List SpelledType}
      (ha : a.named? = some (word, arguments)) (hb : b.named? = some (word, arguments'))
      (h : AllSameForm arguments arguments') : SameForm a b
  | wildcard {a b : SpelledType} (h : SameForm a b) : SameForm (wildcard a) (wildcard b)

inductive AllSameForm : List SpelledType → List SpelledType → Prop where
  | nil : AllSameForm [] []
  | cons {a b : SpelledType} {rest rest' : List SpelledType} (h : SameForm a b)
      (hrest : AllSameForm rest rest') : AllSameForm (a :: rest) (b :: rest')

end

/-- The arguments between angle brackets, if there are any. -/
def angled : List SpelledType → String
  | [] => ""
  | first :: rest => "<" ++ first.text ++ textAfter rest ++ ">"

theorem text_of_named? {e : SpelledType} {word : String} {arguments : List SpelledType}
    (h : e.named? = some (word, arguments)) : e.text = word ++ angled arguments := by
  cases e with
  | reference name spelling arguments =>
    cases h
    cases arguments <;> simp [text, angled, String.append_assoc]
  | typeVariable name =>
    cases h
    simp [text, angled]
  | _ => cases h

mutual

/-- Types of the same form are written alike. -/
theorem SameForm.text_eq : ∀ {a b : SpelledType}, SameForm a b → a.text = b.text
  | _, _, .primitive _ => rfl
  | _, _, .array h => by simp only [text, h.text_eq]
  | _, _, .named ha hb h => by rw [text_of_named? ha, text_of_named? hb, h.text_eq.1]
  | _, _, .wildcard h => by simp only [text, h.text_eq]

theorem AllSameForm.text_eq : ∀ {as bs : List SpelledType}, AllSameForm as bs →
    angled as = angled bs ∧ textAfter as = textAfter bs
  | _, _, .nil => ⟨rfl, rfl⟩
  | _, _, .cons h hrest => by simp only [angled, textAfter, h.text_eq, hrest.text_eq.2, and_self]

end

/-! ### What a type is written as -/

/-- A type that starts with a word, to which arguments are added. -/
inductive Headed : SpelledType → String → List SpelledType → Prop where
  | primitive {word : String} (h : Word.isPrimitive word = true) : Headed (primitive word) word []
  | named {e : SpelledType} {n : Name} {arguments : List SpelledType}
      (h : e.named? = some (n.text, arguments)) (hname : n.OfIdentifiers) :
      Headed e n.text arguments

mutual

/-- A type as it is written where no wildcard may stand. -/
inductive Plain : SpelledType → Prop where
  | headed {e : SpelledType} {word : String} {arguments : List SpelledType}
      (h : Headed e word arguments) (harguments : Arguments arguments) : Plain e
  | array {e : SpelledType} (h : Plain e) : Plain (array e)

/-- A type as it is written as an argument. -/
inductive Argument : SpelledType → Prop where
  | plain {e : SpelledType} (h : Plain e) : Argument e
  | wildcard {e : SpelledType} (h : Plain e) : Argument (wildcard e)

inductive Arguments : List SpelledType → Prop where
  | nil : Arguments []
  | cons {first : SpelledType} {rest : List SpelledType} (h : Argument first)
      (hrest : Arguments rest) : Arguments (first :: rest)

end

theorem Headed.text_eq {e : SpelledType} {word : String} {arguments : List SpelledType}
    (h : Headed e word arguments) : e.text = word ++ angled arguments := by
  cases h with
  | primitive h => simp [text, angled]
  | named h _ => exact text_of_named? h

theorem Headed.sameForm {a b : SpelledType} {word word' : String} {as bs : List SpelledType}
    (ha : Headed a word as) (hb : Headed b word' bs) (hword : word = word')
    (h : AllSameForm as bs) : SameForm a b := by
  cases ha with
  | primitive hprimitive =>
    cases hb with
    | primitive _ => exact hword ▸ .primitive _
    | named _ hname => rw [hword, hname.isPrimitive_text] at hprimitive; cases hprimitive
  | named hnamed hname =>
    cases hb with
    | primitive hprimitive => rw [← hword, hname.isPrimitive_text] at hprimitive; cases hprimitive
    | named hnamed' _ => exact .named hnamed (hword ▸ hnamed') h

/-! ### Where a text ends -/

theorem Headed.isNameChar {e : SpelledType} {word : String} {arguments : List SpelledType}
    (h : Headed e word arguments) : ∀ c ∈ word.toList, Name.isChar c = true := by
  cases h with
  | primitive hprimitive =>
    exact fun c hc => Name.isChar_of_isPart ((Word.isWord_of_isPrimitive hprimitive).parts c hc)
  | named _ hname => exact hname.isChar_text

theorem Headed.ne_empty {e : SpelledType} {word : String} {arguments : List SpelledType}
    (h : Headed e word arguments) : word ≠ "" := by
  cases h with
  | primitive hprimitive => exact (Word.isWord_of_isPrimitive hprimitive).ne_empty
  | named _ hname => exact hname.text_ne_empty

/-- A type that is no wildcard starts with a name. -/
theorem Plain.exists_isChar : ∀ {e : SpelledType}, Plain e →
    ∃ c rest, e.text.toList = c :: rest ∧ Name.isChar c = true
  | _, @Plain.headed _ _ es h _ => by
    obtain ⟨c, rest, hword⟩ := List.exists_cons_of_ne_nil (mt String.toList_eq_nil_iff.mp h.ne_empty)
    refine ⟨c, rest ++ (angled es).toList, ?_, h.isNameChar c (hword ▸ List.mem_cons_self)⟩
    rw [h.text_eq, String.toList_append, hword, List.cons_append]
  | _, .array h => by
    obtain ⟨c, rest, htext, hc⟩ := h.exists_isChar
    exact ⟨c, rest ++ ['[', ']'], by simp [text, htext], hc⟩

/-- Where `p` holds up to the end of each part and no longer, two texts fall into the same parts. -/
theorem eq_of_append_eq {p : Char → Bool} {a b r s : List Char} (ha : ∀ c ∈ a, p c = true)
    (hb : ∀ c ∈ b, p c = true) (hr : ∀ c, r.head? = some c → p c = false)
    (hs : ∀ c, s.head? = some c → p c = false) (h : a ++ r = b ++ s) : a = b ∧ r = s := by
  induction a generalizing b with
  | nil =>
    cases b with
    | nil => exact ⟨rfl, h⟩
    | cons c rest =>
      have hc := hr c (by rw [← List.nil_append r, h]; rfl)
      rw [hb c List.mem_cons_self] at hc
      cases hc
  | cons first rest ih =>
    cases b with
    | nil =>
      have hc := hs first (by rw [← List.nil_append s, ← h]; rfl)
      rw [ha first List.mem_cons_self] at hc
      cases hc
    | cons c others =>
      injection h with hc h
      obtain ⟨hrest, hrs⟩ := ih (fun c hc => ha c (List.mem_cons_of_mem _ hc))
        (fun c hc => hb c (List.mem_cons_of_mem _ hc)) h
      exact ⟨by rw [hc, hrest], hrs⟩

/-- Whether a type that stands before these characters ends there, with its pairs of brackets. -/
def closes (rest : List Char) : Bool := rest.head?.all fun c => c == ',' || c == '>'

/-- The characters of `k` pairs of brackets. -/
def bracketChars : Nat → List Char
  | 0 => []
  | k + 1 => '[' :: ']' :: bracketChars k

/-- The type with `k` pairs of brackets behind it. -/
def arrays : Nat → SpelledType → SpelledType
  | 0, e => e
  | k + 1, e => arrays k (array e)

theorem SameForm.arrays {a b : SpelledType} (h : SameForm a b) (k : Nat) :
    SameForm (SpelledType.arrays k a) (SpelledType.arrays k b) := by
  induction k generalizing a b with
  | zero => exact h
  | succ k ih => exact ih (.array h)

theorem toList_text_array (e : SpelledType) (k : Nat) (rest : List Char) :
    (array e).text.toList ++ (bracketChars k ++ rest) =
      e.text.toList ++ (bracketChars (k + 1) ++ rest) := by
  simp [text, bracketChars]

/-- A type ends with all its pairs of brackets. -/
theorem bracketChars_unique {j k : Nat} {r s : List Char} (hr : closes r = true)
    (hs : closes s = true) (h : bracketChars j ++ r = bracketChars k ++ s) : j = k ∧ r = s := by
  induction j generalizing k with
  | zero =>
    cases k with
    | zero => exact ⟨rfl, h⟩
    | succ k =>
      rw [show r = bracketChars (k + 1) ++ s from h] at hr
      cases hr
  | succ j ih =>
    cases k with
    | zero =>
      rw [← show bracketChars (j + 1) ++ r = s from h] at hs
      cases hs
    | succ k =>
      obtain ⟨hjk, hrs⟩ := ih (List.cons.inj (List.cons.inj h).2).2
      exact ⟨congrArg _ hjk, hrs⟩

theorem closes_textAfter (es : List SpelledType) (rest : List Char) :
    closes ((textAfter es).toList ++ '>' :: rest) = true := by
  cases es <;> simp [textAfter, closes]

/-- A name ends before arguments, before brackets and where a type ends. -/
theorem isNameChar_angled {es : List SpelledType} {k : Nat} {rest : List Char}
    (h : closes rest = true) (c : Char)
    (hc : ((angled es).toList ++ (bracketChars k ++ rest)).head? = some c) :
    Name.isChar c = false := by
  have hmark : ∀ m : RawType.Mark, m ≠ .dot → Name.isChar m.char = false := by
    intro m hm
    simp only [Name.isChar, m.isPart_char, Bool.false_or]
    cases m <;> first | rfl | exact absurd rfl hm
  cases es with
  | cons first later =>
    have hless : c = '<' := by simpa [angled] using hc.symm
    exact hless ▸ hmark .less (by decide)
  | nil =>
    cases k with
    | succ k =>
      have hbracket : c = '[' := by simpa [angled, bracketChars] using hc.symm
      exact hbracket ▸ hmark .leftBracket (by decide)
    | zero =>
      have hhead : rest.head? = some c := by simpa [angled, bracketChars] using hc
      have hcloses : c = ',' ∨ c = '>' := by simpa [closes, hhead] using h
      rcases hcloses with rfl | rfl
      · exact hmark .comma (by decide)
      · exact hmark .greater (by decide)

theorem head?_ne_less {k : Nat} {rest : List Char} (h : closes rest = true) :
    (bracketChars k ++ rest).head? ≠ some '<' := by
  cases k with
  | zero =>
    intro hless
    rw [bracketChars, List.nil_append] at hless
    simp [closes, hless] at h
  | succ k => simp [bracketChars]

/-! ### One type after the other -/

/-- Where no arguments go on, neither these nor any others that are written alike, in angle brackets,
go on longer than the other. -/
def AngledUnique (es : List SpelledType) : Prop :=
  ∀ {es' : List SpelledType} {r r' : List Char}, Arguments es' → r.head? ≠ some '<' →
    r'.head? ≠ some '<' → (angled es).toList ++ r = (angled es').toList ++ r' →
    AllSameForm es es' ∧ r = r'

theorem Headed.unique {e : SpelledType} {word : String} {es : List SpelledType}
    (h : Headed e word es) (hes : AngledUnique es) :
    ∀ {e' : SpelledType}, Plain e' → ∀ {j k : Nat} {r r' : List Char}, closes r = true →
      closes r' = true →
      e.text.toList ++ (bracketChars j ++ r) = e'.text.toList ++ (bracketChars k ++ r') →
      SameForm (arrays j e) (arrays k e') ∧ r = r'
  | _, .array h', j, k, r, r', hr, hr', heq => by
    rw [toList_text_array] at heq
    exact h.unique hes h' hr hr' heq
  | _, .headed h' hes', j, k, r, r', hr, hr', heq => by
    rw [h.text_eq, h'.text_eq, String.toList_append, String.toList_append, List.append_assoc,
      List.append_assoc] at heq
    obtain ⟨hword, heq⟩ := eq_of_append_eq h.isNameChar h'.isNameChar (isNameChar_angled hr)
      (isNameChar_angled hr') heq
    obtain ⟨hform, heq⟩ := hes hes' (head?_ne_less hr) (head?_ne_less hr') heq
    obtain ⟨rfl, hrest⟩ := bracketChars_unique hr hr' heq
    exact ⟨(h.sameForm h' (String.toList_inj.mp hword) hform).arrays j, hrest⟩

/-- No wildcard is written like the start of another type. -/
theorem Plain.ne_wildcard {e e' : SpelledType} (h : Plain e) (r r' : List Char) :
    e.text.toList ++ r ≠ (wildcard e').text.toList ++ r' := by
  obtain ⟨c, rest, htext, hc⟩ := h.exists_isChar
  intro heq
  have hquestion : c = '?' := by
    simp only [htext, text, String.toList_append, List.append_assoc] at heq
    exact (List.cons.inj heq).1
  have hchar : Name.isChar '?' = false := by
    decide +kernel
  rw [hquestion, hchar] at hc
  cases hc

mutual

/-- Of two types that are no wildcards, each followed by brackets and then by what closes a type,
neither goes on longer than the other. -/
theorem Plain.unique : ∀ {e : SpelledType}, Plain e → ∀ {e' : SpelledType}, Plain e' →
    ∀ {j k : Nat} {r r' : List Char}, closes r = true → closes r' = true →
      e.text.toList ++ (bracketChars j ++ r) = e'.text.toList ++ (bracketChars k ++ r') →
      SameForm (arrays j e) (arrays k e') ∧ r = r'
  | _, .headed h hes, _, h', _, _, _, _, hr, hr', heq => h.unique hes.unique.1 h' hr hr' heq
  | _, .array h, _, h', j, k, r, r', hr, hr', heq => by
    rw [toList_text_array] at heq
    exact h.unique h' hr hr' heq

theorem Argument.unique : ∀ {e : SpelledType}, Argument e → ∀ {e' : SpelledType}, Argument e' →
    ∀ {r r' : List Char}, closes r = true → closes r' = true →
      e.text.toList ++ r = e'.text.toList ++ r' → SameForm e e' ∧ r = r'
  | _, .plain h, _, .plain h', r, r', hr, hr', heq => h.unique (j := 0) (k := 0) h' hr hr' heq
  | _, .plain h, _, .wildcard _, r, r', _, _, heq => absurd heq (h.ne_wildcard r r')
  | _, .wildcard _, _, .plain h', r, r', _, _, heq => absurd heq.symm (h'.ne_wildcard r' r)
  | _, .wildcard h, _, .wildcard h', r, r', hr, hr', heq => by
    simp only [text, String.toList_append, List.append_assoc] at heq
    obtain ⟨hform, hrest⟩ := h.unique (j := 0) (k := 0) h' hr hr' (List.append_cancel_left heq)
    exact ⟨.wildcard hform, hrest⟩

theorem Arguments.unique : ∀ {es : List SpelledType}, Arguments es →
    AngledUnique es ∧ ∀ {es' : List SpelledType} {r r' : List Char}, Arguments es' →
      (textAfter es).toList ++ '>' :: r = (textAfter es').toList ++ '>' :: r' →
      AllSameForm es es' ∧ r = r'
  | _, .nil => by
    constructor
    · intro es' r r' hes' hr hr' heq
      cases hes' with
      | nil => exact ⟨.nil, heq⟩
      | cons _ _ =>
        rw [angled, String.toList_empty, List.nil_append] at heq
        exact absurd (by simp [heq, angled]) hr
    · intro es' r r' hes' heq
      cases hes' with
      | nil => exact ⟨.nil, (List.cons.inj heq).2⟩
      | cons _ _ => simp [textAfter] at heq
  | _, @Arguments.cons first rest h hrest => by
    -- the first argument ends where the others or the closing mark begin
    have hlist : ∀ {first' : SpelledType} {rest' : List SpelledType} {r r' : List Char},
        Argument first' → Arguments rest' →
        first.text.toList ++ ((textAfter rest).toList ++ '>' :: r) =
          first'.text.toList ++ ((textAfter rest').toList ++ '>' :: r') →
        AllSameForm (first :: rest) (first' :: rest') ∧ r = r' := by
      intro first' rest' r r' h' hrest' heq
      obtain ⟨hform, heq⟩ := h.unique h' (closes_textAfter rest r) (closes_textAfter rest' r') heq
      obtain ⟨hforms, hr⟩ := hrest.unique.2 hrest' heq
      exact ⟨.cons hform hforms, hr⟩
    constructor
    · intro es' r r' hes' hr hr' heq
      cases hes' with
      | nil =>
        rw [angled, angled, String.toList_empty, List.nil_append] at heq
        exact absurd (by simp [← heq]) hr'
      | cons h' hrest' => exact hlist h' hrest' (by simpa [angled] using heq)
    · intro es' r r' hes' heq
      cases hes' with
      | nil => simp [textAfter] at heq
      | cons h' hrest' => exact hlist h' hrest' (by simpa [textAfter] using heq)

end

end SpelledType

/-! ### What is written -/

namespace ResolvedType

open SpelledType

mutual

/-- What a type without texts is written as, and where no wildcard may stand it is none. -/
theorem SpelledAs.argument {cap depth : Nat} {place : Place} {type : ResolvedType}
    {e : SpelledType} (h : SpelledAs cap depth place type e) (htype : type.isStructured = true) :
    Argument e ∧ (place ≠ .argument → Plain e) := by
  have hplain : Plain e → Argument e ∧ (place ≠ .argument → Plain e) :=
    fun hp => ⟨.plain hp, fun _ => hp⟩
  cases h with
  | primitive _ hword _ => exact hplain (.headed (.primitive hword) .nil)
  | array _ h => exact hplain (.array ((h.argument htype).2 (by decide)))
  | @reference _ _ name arguments es _ hname s h =>
    obtain ⟨n, htext, hn⟩ := hname.exists_of_spell s
    exact hplain (.headed (.named (by rw [named?, htext]) hn) (h.arguments htype))
  | wildcard _ h => exact ⟨.wildcard ((h.argument htype).2 (by decide)), fun hne => absurd rfl hne⟩
  | @typeVariable _ _ name _ hname =>
    obtain ⟨n, rfl, hn⟩ := Name.exists_of_isIdentifier hname
    exact hplain (.headed (.named rfl hn) .nil)
  | raw _ _ => cases htype

theorem AllSpelledAs.arguments {cap depth : Nat} {types : List ResolvedType}
    {es : List SpelledType} (h : AllSpelledAs cap depth types es)
    (htypes : areStructured types = true) : Arguments es := by
  cases h with
  | nil => exact .nil
  | cons h hrest =>
    obtain ⟨hfirst, hlater⟩ := Bool.and_eq_true_iff.mp htypes
    exact .cons (h.argument hfirst).1 (hrest.arguments hlater)

end

/-- **What is written can be read in one way only.** Of types without texts, two are written alike, in
whatever scopes and under whatever caps, exactly if they are written in the same form. -/
theorem spell_text_eq_iff {cap cap' : Nat} {type type' : ResolvedType} {d d' left left' : Draft}
    {e e' : SpelledType} (htype : type.isStructured = true) (htype' : type'.isStructured = true)
    (h : type.spell cap d = (.ok e, left)) (h' : type'.spell cap' d' = (.ok e', left')) :
    e.text = e'.text ↔ SameForm e e' := by
  refine ⟨fun htext => ?_, SameForm.text_eq⟩
  have hplain := ((spellAt_spelledAs h).argument htype).2 (by decide)
  have hplain' := ((spellAt_spelledAs h').argument htype').2 (by decide)
  have heq : e.text.toList ++ (bracketChars 0 ++ []) = e'.text.toList ++ (bracketChars 0 ++ []) := by
    rw [htext]
  exact (hplain.unique hplain' rfl rfl heq).1

/-- An array of a wildcard, which is never written, would be taken for a wildcard. -/
example : (SpelledType.array (.wildcard (.typeVariable "T"))).text =
    (SpelledType.wildcard (.array (.typeVariable "T"))).text := by
  decide +kernel

/-- A map with a type variable, the map being imported. -/
def variableMap : ResolvedType :=
  reference (.ofText "a.Map")
    [wildcard (array (typeVariable "T")), reference (.ofText "a.Map.Entry") []]

/-- A map of another package with types that have none. -/
def looseMap : ResolvedType :=
  reference (.ofText "b.Map")
    [wildcard (array (reference (.ofText "T") [])), reference (.ofText "Map.Entry") []]

/-- The two are written alike, the entry once below an imported type and once in full. -/
theorem variableMap_text_eq : ∃ e e' left left',
    variableMap.spell 3 (.ofScope (.ofFile 1 none [.single (.ofText "a.Map")])) = (.ok e, left) ∧
      looseMap.spell 9 (.ofScope (.ofFile 2 none [])) = (.ok e', left') ∧
      e.text = "Map<? extends T[], Map.Entry>" ∧ e'.text = e.text ∧ SameForm e e' := by
  have hrun : variableMap.spellsTo 3 (.ofFile 1 none [.single (.ofText "a.Map")])
      (fun e _ => e.text == "Map<? extends T[], Map.Entry>") = true := by
    decide +kernel
  have hrun' : looseMap.spellsTo 9 (.ofFile 2 none [])
      (fun e _ => e.text == "Map<? extends T[], Map.Entry>") = true := by
    decide +kernel
  obtain ⟨e, left, h, htext⟩ := exists_of_spellsTo hrun
  obtain ⟨e', left', h', htext'⟩ := exists_of_spellsTo hrun'
  rw [beq_iff_eq] at htext htext'
  exact ⟨e, e', left, left', h, h', htext, htext'.trans htext.symm,
    (spell_text_eq_iff rfl rfl h h').mp (htext.trans htext'.symm)⟩

end ResolvedType

end SpellOut
