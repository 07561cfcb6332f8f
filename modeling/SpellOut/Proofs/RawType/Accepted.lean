import SpellOut.Proofs.RawType.Grammar
import SpellOut.Proofs.RawType.Lexed

/-! The readers accept the grammar, all of it and nothing else.

What a reader takes is derived from its symbol (`readReference_derives` and its siblings). The other
way round, a reader takes all of what is derived from its symbol, if it has fuel for it and what
follows does not go on with it (`Derives.reads`): the readers take as much as they can, and where a
symbol may end, no token that may follow it there could also belong to it. So a text is accepted
exactly if its tokens are derived from the symbol of a type (`accepts_iff`). -/
namespace SpellOut.RawType

variable {cap : Nat}

/-! ### What is taken is derived -/

mutual

theorem readReference_derives {fuel level : Nat} {tokens rest : List Token}
    (h : readReference cap fuel level tokens = some rest) :
    ∃ taken, tokens = taken ++ rest ∧ Derives cap .reference level taken := by
  match fuel, tokens with
  | 0, _ => simp [readReference] at h
  | _ + 1, [] => simp [readReference] at h
  | _ + 1, .mark _ :: _ => simp [readReference] at h
  | fuel + 1, .word head :: more =>
    unfold readReference at h
    split at h
    · cases h
    · next hlevel =>
      have hlevel : level ≤ cap := Nat.le_of_not_lt hlevel
      split at h
      · next hprimitive =>
        split at h
        · next after =>
          cases h
          obtain ⟨k, hk⟩ := exists_brackets after
          refine ⟨.word head :: brackets (k + 1), ?_, ?_⟩
          · rw [brackets, List.cons_append, List.cons_append, List.cons_append, ← hk]
          · exact .reference (.primitive hlevel hprimitive (k + 1)) rfl
        · cases h
      · obtain ⟨left, hclass, rfl⟩ := Option.map_eq_some_iff.mp h
        obtain ⟨taken, heq, hderives⟩ := readClass_derives hclass
        obtain ⟨k, hk⟩ := exists_brackets left
        refine ⟨taken ++ brackets k, ?_, ?_⟩
        · rw [heq, List.append_assoc, ← hk]
        · exact .reference (.classType hlevel hderives k) (hderives.isBarePrimitive_chain _)

theorem readClass_derives {fuel level : Nat} {tokens rest : List Token}
    (h : readClass cap fuel level tokens = some rest) :
    ∃ taken, tokens = taken ++ rest ∧ Derives cap .chain level taken := by
  match fuel, tokens with
  | 0, _ => simp [readClass] at h
  | _ + 1, [] => simp [readClass] at h
  | _ + 1, .mark _ :: _ => simp [readClass] at h
  | fuel + 1, .word name :: more =>
    unfold readClass at h
    split at h
    · next hname =>
      split at h
      · next after harguments =>
        obtain ⟨taken, heq, hderives⟩ := readArguments_derives harguments
        obtain ⟨further, rfl, hrest⟩ := readClass_derives h
        exact ⟨.word name :: (taken ++ .mark .dot :: further), by simp [heq],
          .dot hname hderives hrest⟩
      · obtain ⟨taken, heq, hderives⟩ := readArguments_derives h
        exact ⟨.word name :: taken, by simp [heq], .last hname hderives⟩
    · cases h

theorem readArguments_derives {fuel level : Nat} {tokens rest : List Token}
    (h : readArguments cap fuel level tokens = some rest) :
    ∃ taken, tokens = taken ++ rest ∧ Derives cap .arguments level taken := by
  cases fuel with
  | zero => simp [readArguments] at h
  | succ fuel =>
    unfold readArguments at h
    split at h
    · obtain ⟨taken, heq, hderives⟩ := readList_derives h
      exact ⟨.mark .less :: (taken ++ [.mark .greater]), by simp [heq], .arguments hderives⟩
    · cases h
      exact ⟨[], rfl, .noArguments⟩
    · cases h

/-- The mark that closes a list is taken with it. -/
theorem readList_derives {fuel level : Nat} {tokens rest : List Token}
    (h : readList cap fuel level tokens = some rest) :
    ∃ taken, tokens = taken ++ .mark .greater :: rest ∧ Derives cap .list level taken := by
  cases fuel with
  | zero => simp [readList] at h
  | succ fuel =>
    unfold readList at h
    split at h
    · next hargument =>
      cases h
      obtain ⟨taken, heq, hderives⟩ := readArgument_derives hargument
      exact ⟨taken, heq, .single hderives⟩
    · next hargument =>
      obtain ⟨taken, heq, hderives⟩ := readArgument_derives hargument
      obtain ⟨further, rfl, hrest⟩ := readList_derives h
      exact ⟨taken ++ .mark .comma :: further, by simp [heq], .comma hderives hrest⟩
    · cases h

theorem readArgument_derives {fuel level : Nat} {tokens rest : List Token}
    (h : readArgument cap fuel level tokens = some rest) :
    ∃ taken, tokens = taken ++ rest ∧ Derives cap .argument level taken := by
  cases fuel with
  | zero => simp [readArgument] at h
  | succ fuel =>
    unfold readArgument at h
    split at h
    · split at h
      · next hword =>
        obtain ⟨taken, rfl, hderives⟩ := readReference_derives h
        exact ⟨.mark .question :: .word _ :: taken, rfl, .bounded hword hderives⟩
      · cases h
        exact ⟨[.mark .question], rfl, .unbounded⟩
    · cases h
      exact ⟨[.mark .question], rfl, .unbounded⟩
    · obtain ⟨taken, heq, hderives⟩ := readReference_derives h
      exact ⟨taken, heq, .plain hderives⟩
    · cases h

end

/-! ### One step of a reader -/

section Steps
variable {fuel level : Nat} {tokens rest : List Token}

theorem readReference_primitive {word : String} (hlevel : level ≤ cap)
    (hword : Word.isPrimitive word = true) (k : Nat)
    (hrest : rest.head? ≠ some (.mark .leftBracket)) :
    readReference cap (fuel + 1) level (.word word :: (brackets (k + 1) ++ rest)) = some rest := by
  unfold readReference
  rw [if_neg (Nat.not_lt.mpr hlevel), if_pos hword]
  exact congrArg some (dropBrackets_brackets k hrest)

theorem readReference_chain {name : String} (hlevel : level ≤ cap)
    (hname : Word.isIdentifier name = true)
    (h : readClass cap fuel level (.word name :: tokens) = some rest) :
    readReference cap (fuel + 1) level (.word name :: tokens) = some (dropBrackets rest) := by
  unfold readReference
  rw [if_neg (Nat.not_lt.mpr hlevel),
    if_neg (by simp [Word.isPrimitive_eq_false_of_isIdentifier hname]), h]
  rfl

theorem readClass_last {name : String} (hname : Word.isIdentifier name = true)
    (h : readArguments cap fuel level tokens = some rest)
    (hrest : rest.head? ≠ some (.mark .dot)) :
    readClass cap (fuel + 1) level (.word name :: tokens) = some rest := by
  unfold readClass
  rw [if_pos hname, h]
  split
  · next heq =>
    cases heq
    exact absurd rfl hrest
  · rfl

theorem readClass_dot {name : String} (hname : Word.isIdentifier name = true)
    (h : readArguments cap fuel level tokens = some (.mark .dot :: rest)) :
    readClass cap (fuel + 1) level (.word name :: tokens) = readClass cap fuel level rest := by
  conv => lhs; unfold readClass
  rw [if_pos hname, h]

theorem readArguments_less :
    readArguments cap (fuel + 1) level (.mark .less :: rest) = readList cap fuel (level + 1) rest := by
  rw [readArguments]

theorem readArguments_none (h : rest.head? ≠ some (.mark .less)) :
    readArguments cap (fuel + 1) level rest = some rest := by
  unfold readArguments
  split
  · exact absurd rfl h
  · rfl
  · next heq => cases heq

theorem readList_greater (h : readArgument cap fuel level tokens = some (.mark .greater :: rest)) :
    readList cap (fuel + 1) level tokens = some rest := by
  rw [readList, h]

theorem readList_comma (h : readArgument cap fuel level tokens = some (.mark .comma :: rest)) :
    readList cap (fuel + 1) level tokens = readList cap fuel level rest := by
  rw [readList, h]

theorem readArgument_bounded {word : String} (hword : word = "extends" ∨ word = "super") :
    readArgument cap (fuel + 1) level (.mark .question :: .word word :: rest) =
      readReference cap fuel (level + 1) rest := by
  rw [readArgument, if_pos hword]

theorem readArgument_unbounded (h : ∀ word, rest.head? ≠ some (.word word)) :
    readArgument cap (fuel + 1) level (.mark .question :: rest) = some rest := by
  unfold readArgument
  match rest with
  | [] => rfl
  | .mark m :: after => rfl
  | .word word :: after => exact absurd rfl (h word)

theorem readArgument_plain {word : String} :
    readArgument cap (fuel + 1) level (.word word :: rest) =
      readReference cap fuel level (.word word :: rest) := by
  conv => lhs; unfold readArgument

end Steps

/-! ### What is derived is taken -/

namespace Symbol

/-- The calls that a reader makes before the first token that it takes, but for its own. -/
def overhead : Symbol → Nat
  | type => 1
  | reference => 1
  | chain => 0
  | arguments => 0
  | list => 3
  | argument => 2

/-- The marks with which the symbol could go on where it might end. A list goes on until it is
closed. -/
def openers : Symbol → List Mark
  | type => [.less, .dot, .leftBracket]
  | reference => [.less, .dot, .leftBracket]
  | chain => [.less, .dot]
  | arguments => [.less]
  | list => []
  | argument => [.less, .dot, .leftBracket]

/-- Whether the symbol could go on with a word where it might end, as a wildcard can. -/
def opensWithWord : Symbol → Bool
  | argument => true
  | _ => false

/-- Whether the symbol, where it might end, could go on with a token. -/
def goesOn (symbol : Symbol) : Token → Bool
  | .word _ => symbol.opensWithWord
  | .mark m => m ∈ symbol.openers

/-- Whether the symbol ends before these tokens, wherever it might. -/
def endsAt (symbol : Symbol) (rest : List Token) : Bool :=
  rest.head?.all fun token => !symbol.goesOn token

theorem head?_ne_of_endsAt {symbol : Symbol} {rest : List Token} (h : symbol.endsAt rest = true)
    {token : Token} (htoken : symbol.goesOn token = true) : rest.head? ≠ some token := by
  intro hhead
  simp [endsAt, hhead, htoken] at h

/-- What goes on with less ends at more. -/
theorem endsAt_mono {symbol other : Symbol} {rest : List Token} (h : symbol.endsAt rest = true)
    (hmarks : ∀ m ∈ other.openers, m ∈ symbol.openers)
    (hwords : other.opensWithWord = true → symbol.opensWithWord = true) :
    other.endsAt rest = true := by
  have hle : ∀ token, other.goesOn token = true → symbol.goesOn token = true := by
    intro token htoken
    cases token with
    | word text => exact hwords htoken
    | mark m => exact decide_eq_true (hmarks m (of_decide_eq_true htoken))
  cases rest with
  | nil => rfl
  | cons token rest =>
    cases hother : other.goesOn token with
    | false => simp [endsAt, hother]
    | true => simp [endsAt, hle token hother] at h

/-- A symbol ends before every token that it cannot go on with. -/
theorem endsAt_cons {symbol : Symbol} {token : Token} (h : symbol.goesOn token = false)
    (rest : List Token) : symbol.endsAt (token :: rest) = true := by
  simp [endsAt, h]

theorem endsAt_list (rest : List Token) : list.endsAt rest = true := by
  cases rest with
  | nil => rfl
  | cons token rest =>
    refine endsAt_cons ?_ rest
    cases token <;> rfl

/-- The reader of the symbol takes these tokens and leaves the rest. That of a list takes the mark
that closes it too, and no reader takes a bare primitive. -/
def Reads (cap fuel level : Nat) (tokens rest : List Token) : Symbol → Prop
  | type => isBarePrimitive tokens = false →
    readReference cap fuel level (tokens ++ rest) = some rest
  | reference => readReference cap fuel level (tokens ++ rest) = some rest
  | chain => readClass cap fuel level (tokens ++ rest) = some rest
  | arguments => readArguments cap fuel level (tokens ++ rest) = some rest
  | list => readList cap fuel level (tokens ++ .mark .greater :: rest) = some rest
  | argument => readArgument cap fuel level (tokens ++ rest) = some rest

end Symbol

/-- With fuel for it, a reader takes all of what is derived from its symbol, up to where the symbol
ends. -/
theorem Derives.reads {symbol : Symbol} {level : Nat} {tokens : List Token}
    (h : Derives cap symbol level tokens) (fuel : Nat) (rest : List Token)
    (hend : symbol.endsAt rest = true) (hfuel : 4 * tokens.length + symbol.overhead < fuel) :
    symbol.Reads cap fuel level tokens rest := by
  induction h generalizing fuel rest with
  | @primitive level word hlevel hword k =>
    obtain ⟨spare, rfl⟩ := Nat.exists_eq_add_of_lt hfuel
    intro hbare
    cases k with
    | zero => cases hword.symm.trans hbare
    | succ k =>
      exact readReference_primitive hlevel hword k (Symbol.head?_ne_of_endsAt hend (by decide))
  | @classType level tokens hlevel h k ih =>
    obtain ⟨spare, rfl⟩ := Nat.exists_eq_add_of_lt hfuel
    intro _
    obtain ⟨name, more, rfl, hname⟩ := h.exists_name
    rw [List.append_assoc]
    refine (readReference_chain hlevel hname (ih _ (brackets k ++ rest) ?_ ?_)).trans ?_
    · cases k with
      | zero => exact Symbol.endsAt_mono hend (by decide) (by decide)
      | succ k => rfl
    · grind [Symbol.overhead]
    · rw [dropBrackets_brackets k (Symbol.head?_ne_of_endsAt hend (by decide))]
  | reference h hbare ih => exact ih fuel rest hend hfuel hbare
  | @last level name tokens hname h ih =>
    obtain ⟨spare, rfl⟩ := Nat.exists_eq_add_of_lt hfuel
    refine readClass_last hname (ih _ rest ?_ ?_) (Symbol.head?_ne_of_endsAt hend (by decide))
    · exact Symbol.endsAt_mono hend (by decide) (by decide)
    · grind [Symbol.overhead]
  | @dot level name tokens more hname h hrest ih ihrest =>
    obtain ⟨spare, rfl⟩ := Nat.exists_eq_add_of_lt hfuel
    simp only [Symbol.Reads, List.cons_append, List.append_assoc]
    refine (readClass_dot hname (ih _ (.mark .dot :: (more ++ rest)) ?_ ?_)).trans
      (ihrest _ rest hend ?_)
    · exact Symbol.endsAt_cons (by decide) _
    · grind [Symbol.overhead]
    · grind [Symbol.overhead]
  | noArguments =>
    obtain ⟨spare, rfl⟩ := Nat.exists_eq_add_of_lt hfuel
    exact readArguments_none (Symbol.head?_ne_of_endsAt hend (by decide))
  | @arguments level tokens h ih =>
    obtain ⟨spare, rfl⟩ := Nat.exists_eq_add_of_lt hfuel
    simp only [Symbol.Reads, List.cons_append, List.append_assoc, List.nil_append]
    refine readArguments_less.trans (ih _ rest (Symbol.endsAt_list rest) ?_)
    grind [Symbol.overhead]
  | single h ih =>
    obtain ⟨spare, rfl⟩ := Nat.exists_eq_add_of_lt hfuel
    refine readList_greater (ih _ (.mark .greater :: rest) ?_ ?_)
    · exact Symbol.endsAt_cons (by decide) rest
    · grind [Symbol.overhead]
  | @comma level tokens more h hrest ih ihrest =>
    obtain ⟨spare, rfl⟩ := Nat.exists_eq_add_of_lt hfuel
    simp only [Symbol.Reads, List.cons_append, List.append_assoc]
    refine (readList_comma (ih _ (.mark .comma :: (more ++ .mark .greater :: rest)) ?_ ?_)).trans
      (ihrest _ rest hend ?_)
    · exact Symbol.endsAt_cons (by decide) _
    · grind [Symbol.overhead]
    · grind [Symbol.overhead]
  | unbounded =>
    obtain ⟨spare, rfl⟩ := Nat.exists_eq_add_of_lt hfuel
    exact readArgument_unbounded fun word => Symbol.head?_ne_of_endsAt hend rfl
  | @bounded level word tokens hword h ih =>
    obtain ⟨spare, rfl⟩ := Nat.exists_eq_add_of_lt hfuel
    refine (readArgument_bounded hword).trans (ih _ rest ?_ ?_)
    · exact Symbol.endsAt_mono hend (by decide) (by decide)
    · grind [Symbol.overhead]
  | @plain level tokens h ih =>
    obtain ⟨spare, rfl⟩ := Nat.exists_eq_add_of_lt hfuel
    cases h with
    | reference h _ =>
      obtain ⟨word, more, rfl⟩ := h.exists_word
      refine readArgument_plain.trans (ih _ rest ?_ ?_)
      · exact Symbol.endsAt_mono hend (by decide) (by decide)
      · grind [Symbol.overhead]

/-! ### Whole texts -/

/-- Tokens are a type if the grammar derives them, all of them, from that of a type. -/
theorem isType_iff {tokens : List Token} : isType cap tokens = true ↔ Derives cap .type 0 tokens := by
  unfold isType
  rw [Bool.or_eq_true, beq_iff_eq]
  constructor
  · intro h
    rcases h with hbare | hread
    · unfold isBarePrimitive at hbare
      split at hbare
      · exact .primitive (Nat.zero_le cap) hbare 0
      · cases hbare
    · obtain ⟨taken, rfl, hderives⟩ := readReference_derives hread
      rw [List.append_nil]
      cases hderives with
      | reference h _ => exact h
  · intro h
    cases hbare : isBarePrimitive tokens with
    | true => exact .inl rfl
    | false =>
      have hread := h.reads (enough tokens) [] rfl (by simp [enough, Symbol.overhead]) hbare
      rw [List.append_nil] at hread
      exact .inr hread

/-- Whether a text is accepted depends on its tokens only. -/
theorem accepts_of_lexed {text : String} {tokens : List Token} (h : Lexed text.toList tokens) :
    accepts cap text = isType cap tokens := by
  rw [accepts, Token.read?_eq_some_iff.mpr h]

theorem exists_lexed_of_accepts {text : String} (h : accepts cap text = true) :
    ∃ tokens, Lexed text.toList tokens ∧ isType cap tokens = true := by
  unfold accepts at h
  split at h
  · next tokens hread => exact ⟨tokens, Token.read?_eq_some_iff.mp hread, h⟩
  · cases h

/-- **A text is accepted exactly if it is a type.** It holds nothing but parts of words, blanks and
marks, and its tokens, all of them, are derived from the symbol of a type at level 0. -/
theorem accepts_iff {text : String} :
    accepts cap text = true ↔ (∀ c ∈ text.toList, isReadable c = true) ∧
      ∃ tokens, Lexed text.toList tokens ∧ Derives cap .type 0 tokens := by
  constructor
  · intro h
    obtain ⟨tokens, hlexed, htype⟩ := exists_lexed_of_accepts h
    exact ⟨hlexed.readable, tokens, hlexed, isType_iff.mp htype⟩
  · intro h
    obtain ⟨-, tokens, hlexed, hderives⟩ := h
    rw [accepts_of_lexed hlexed]
    exact isType_iff.mpr hderives

/-- The bound of a wildcard lies two levels below the type whose argument the wildcard is. -/
example : accepts 2 "a.Map<?, ? extends b.Key[]> []" = true ∧
    accepts 1 "a.Map<?, ? extends b.Key[]> []" = false := by
  decide +kernel

end SpellOut.RawType
