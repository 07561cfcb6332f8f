import SpellOut.Proofs.Identifiers
import SpellOut.RawType.Reader

/-! The grammar of types that are given as text.

```
type      ::= primitive brackets | chain brackets
reference ::= type, but not a primitive without brackets
chain     ::= name arguments | name arguments . chain
arguments ::= nothing | < list >
list      ::= argument | argument , list
argument  ::= ? | ? extends reference | ? super reference | reference
brackets  ::= nothing | [ ] brackets
```

The productions derive tokens from symbols, with no regard to how a reader goes about them. Every
type in a derivation has a level: the whole type has level 0, an argument lies one level below its
type and the bound of a wildcard two; brackets and wildcards without a bound do not count. No type
lies deeper than `cap`, and a derivation can be moved down as far as `cap` is raised
(`Derives.deepen`). -/
namespace SpellOut.RawType

/-- What the grammar derives. -/
inductive Symbol where
  /-- Any type. -/
  | type
  /-- Any type but a primitive type without brackets. -/
  | reference
  /-- A class type without brackets: identifiers joined by dots, each with arguments or without. -/
  | chain
  /-- The arguments of an identifier, if it has any. -/
  | arguments
  /-- Arguments separated by commas, one at least. -/
  | list
  | argument

/-- The tokens of `k` pairs of brackets. -/
def brackets : Nat → List Token
  | 0 => []
  | k + 1 => .mark .leftBracket :: .mark .rightBracket :: brackets k

/-- The tokens that the productions derive from a symbol at a level. -/
inductive Derives (cap : Nat) : Symbol → (level : Nat) → List Token → Prop where
  | primitive {level : Nat} {word : String} (hlevel : level ≤ cap)
      (hword : Word.isPrimitive word = true) (k : Nat) :
      Derives cap .type level (.word word :: brackets k)
  | classType {level : Nat} {tokens : List Token} (hlevel : level ≤ cap)
      (h : Derives cap .chain level tokens) (k : Nat) :
      Derives cap .type level (tokens ++ brackets k)
  | reference {level : Nat} {tokens : List Token} (h : Derives cap .type level tokens)
      (hbare : isBarePrimitive tokens = false) : Derives cap .reference level tokens
  | last {level : Nat} {name : String} {tokens : List Token}
      (hname : Word.isIdentifier name = true) (h : Derives cap .arguments level tokens) :
      Derives cap .chain level (.word name :: tokens)
  | dot {level : Nat} {name : String} {tokens rest : List Token}
      (hname : Word.isIdentifier name = true) (h : Derives cap .arguments level tokens)
      (hrest : Derives cap .chain level rest) :
      Derives cap .chain level (.word name :: (tokens ++ .mark .dot :: rest))
  | noArguments {level : Nat} : Derives cap .arguments level []
  | arguments {level : Nat} {tokens : List Token} (h : Derives cap .list (level + 1) tokens) :
      Derives cap .arguments level (.mark .less :: (tokens ++ [.mark .greater]))
  | single {level : Nat} {tokens : List Token} (h : Derives cap .argument level tokens) :
      Derives cap .list level tokens
  | comma {level : Nat} {tokens rest : List Token} (h : Derives cap .argument level tokens)
      (hrest : Derives cap .list level rest) :
      Derives cap .list level (tokens ++ .mark .comma :: rest)
  | unbounded {level : Nat} : Derives cap .argument level [.mark .question]
  | bounded {level : Nat} {word : String} {tokens : List Token}
      (hword : word = "extends" ∨ word = "super") (h : Derives cap .reference (level + 1) tokens) :
      Derives cap .argument level (.mark .question :: .word word :: tokens)
  | plain {level : Nat} {tokens : List Token} (h : Derives cap .reference level tokens) :
      Derives cap .argument level tokens

/-! ### Brackets -/

theorem brackets_append_pair (k : Nat) :
    brackets k ++ [.mark .leftBracket, .mark .rightBracket] = brackets (k + 1) := by
  induction k with
  | zero => rfl
  | succ k ih =>
    rw [brackets, List.cons_append, List.cons_append, ih]
    rfl

/-- The pairs of brackets that are dropped. -/
theorem exists_brackets (tokens : List Token) : ∃ k, tokens = brackets k ++ dropBrackets tokens := by
  fun_induction dropBrackets tokens with
  | case1 rest ih =>
    obtain ⟨k, hk⟩ := ih
    exact ⟨k + 1, by rw [brackets, List.cons_append, List.cons_append, ← hk]⟩
  | case2 tokens _ => exact ⟨0, rfl⟩

/-- All pairs of brackets are dropped, and nothing else that starts with no bracket. -/
theorem dropBrackets_brackets (k : Nat) {rest : List Token}
    (h : rest.head? ≠ some (.mark .leftBracket)) : dropBrackets (brackets k ++ rest) = rest := by
  induction k with
  | zero =>
    rw [brackets, List.nil_append]
    unfold dropBrackets
    split
    · exact absurd rfl h
    · rfl
  | succ k ih => simpa only [brackets, List.cons_append, dropBrackets] using ih

/-! ### How derived tokens start -/

namespace Derives

variable {cap level : Nat} {tokens rest : List Token}

theorem exists_name (h : Derives cap .chain level tokens) :
    ∃ name more, tokens = .word name :: more ∧ Word.isIdentifier name = true := by
  cases h with
  | last hname _ => exact ⟨_, _, rfl, hname⟩
  | dot hname _ _ => exact ⟨_, _, rfl, hname⟩

theorem exists_word (h : Derives cap .type level tokens) : ∃ word more, tokens = .word word :: more := by
  cases h with
  | primitive _ _ k => exact ⟨_, _, rfl⟩
  | classType _ h k =>
    obtain ⟨name, more, rfl, _⟩ := h.exists_name
    exact ⟨name, _, rfl⟩

/-- No class type is a bare primitive, with brackets or without. -/
theorem isBarePrimitive_chain (h : Derives cap .chain level tokens) (more : List Token) :
    isBarePrimitive (tokens ++ more) = false := by
  obtain ⟨name, tail, rfl, hname⟩ := h.exists_name
  rw [List.cons_append]
  cases tail ++ more with
  | nil => exact Word.isPrimitive_eq_false_of_isIdentifier hname
  | cons next after => rfl

/-! ### Types from types -/

/-- A type with one more pair of brackets. -/
theorem array (h : Derives cap .type level tokens) :
    Derives cap .type level (tokens ++ [.mark .leftBracket, .mark .rightBracket]) := by
  cases h with
  | primitive hlevel hword k =>
    rw [List.cons_append, brackets_append_pair]
    exact .primitive hlevel hword (k + 1)
  | classType hlevel h k =>
    rw [List.append_assoc, brackets_append_pair]
    exact .classType hlevel h (k + 1)

/-- What is derived under a cap is derived further down under a cap that is raised as much. -/
theorem deepen {symbol : Symbol} (h : Derives cap symbol level tokens) {cap' k : Nat}
    (hcap : cap + k ≤ cap') : Derives cap' symbol (level + k) tokens := by
  induction h with
  | primitive hlevel hword n => exact .primitive (by omega) hword n
  | classType hlevel _ n ih => exact .classType (by omega) ih n
  | reference _ hbare ih => exact .reference ih hbare
  | last hname _ ih => exact .last hname ih
  | dot hname _ _ ih ihrest => exact .dot hname ih ihrest
  | noArguments => exact .noArguments
  | arguments _ ih =>
    rw [Nat.add_right_comm] at ih
    exact .arguments ih
  | single _ ih => exact .single ih
  | comma _ _ ih ihrest => exact .comma ih ihrest
  | unbounded => exact .unbounded
  | bounded hword _ ih =>
    rw [Nat.add_right_comm] at ih
    exact .bounded hword ih
  | plain _ ih => exact .plain ih

end Derives

end SpellOut.RawType
