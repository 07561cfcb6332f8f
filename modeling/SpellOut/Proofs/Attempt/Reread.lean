import SpellOut.Proofs.Attempt.Calls
import SpellOut.Proofs.SpelledAs

/-! Whether a type that was written out reads as one.

In front of a variable the word `var` leaves the type to inference. It is not a reserved word, so
there are types that are written just so: a type variable, a text, or a simple name. An attempt does
not refuse them, and what it puts in the place of the declaration has the same text as before. All
other types are told from the word wherever they come from, so the replacement reads as a declaration
with its type written out (`applied_reread_iff`). -/
namespace SpellOut

/-! ### Reading a declaration -/

/-- The type in front of a variable, as its text is read. -/
def DeclaredType.read (text : String) : DeclaredType :=
  if text = "var" then .inferred else .explicit text

namespace Declaration

/-- The declaration as it is read off its text. -/
def reread (d : Declaration) : Declaration :=
  { d with declarators := d.declarators.map fun v => { v with type := .read v.type.text } }

variable (d : Declaration) (name : String) (i : Option Initializer)

/-- The text of a declaration of one variable tells which text stands for the type. -/
theorem text_eq_iff (a b : DeclaredType) :
    { d with declarators := [⟨name, a, i⟩] }.text = { d with declarators := [⟨name, b, i⟩] }.text ↔
      a.text = b.text := by
  simp [text, lead, Declarator.text, String.join_append]

/-- Where a type is written out for one variable with a supported initializer, the declaration reads
as a candidate exactly if the type is written as the word for an inferred one. -/
theorem isEligible_reread_iff {i : Initializer} (hi : i.unsupported? = none) (text : String) :
    { d with declarators := [⟨name, .explicit text, some i⟩] }.reread.isEligible = true ↔
      text = "var" := by
  by_cases h : text = "var"
  · simp [reread, DeclaredType.read, DeclaredType.text, isEligible, candidate, h, hi]
  · simp [reread, DeclaredType.read, DeclaredType.text, isEligible, candidate, h]

end Declaration

/-! ### Types that are written as the word -/

namespace ResolvedType

/-- The type is written as the word `var` in the scope: it is a type variable of this name, a text
that is the word but for blanks around it, or a reference of this simple name without arguments,
which has no owner or is written short. -/
inductive ReadAsInferred (s : Scope) : ResolvedType → Prop where
  | typeVariable : ReadAsInferred s (.typeVariable "var")
  | raw {text : String} (h : CharClass.trimBlanks text = "var") : ReadAsInferred s (.raw text)
  | reference {name : Name} (hlast : name.last.text = "var")
      (hspell : name.owner? = none ∨ (s.spell name).isShort = true) :
      ReadAsInferred s (.reference name [])

theorem ne_var_of_mem {text : String} {c : Char} (hc : c ∈ text.toList)
    (hvar : c ∉ "var".toList) : text ≠ "var" :=
  fun h => hvar (h ▸ hc)

/-- A name is spelled as the word if it has this simple name and its owner is not written. -/
theorem text_spell_eq_var_iff (s : Scope) (name : Name) :
    (s.spell name).text = "var" ↔
      name.last.text = "var" ∧ (name.owner? = none ∨ (s.spell name).isShort = true) := by
  rcases s.spell_cases name with h | ⟨owner, path, hnearest, h⟩ | ⟨-, -, h⟩
  · cases name with
    | simple last => simp [h, Spelling.text, Name.text, Name.last, Name.owner?]
    | qualified owner last =>
      have hdot : '.' ∈ (Name.qualified owner last).text.toList := by simp [Name.text]
      have hne := ne_var_of_mem hdot (by decide)
      simp [h, Spelling.text, hne, Name.owner?, Spelling.isShort]
  · have hdot : '.' ∈ (owner.last.text ++ "." ++ path).toList := by simp
    have hne := ne_var_of_mem hdot (by decide)
    have howned : name.owner? ≠ none := by
      cases name with
      | simple last => cases hnearest
      | qualified direct last => exact Option.some_ne_none direct
    simp [h, Spelling.text, hne, howned, Spelling.isShort]
  · simp [h, Spelling.text, Spelling.isShort]

/-- What a type is written as is the word in the cases that are told of, and in no other. -/
theorem text_eq_var_iff {cap : Nat} {type : ResolvedType} {s : Scope} {e : SpelledType} {d : Draft}
    (h : type.spell cap (.ofScope s) = (.ok e, d)) :
    e.text = "var" ↔ type.ReadAsInferred s := by
  have hspelled : SpelledAs cap 0 .whole type e := spellAt_spelledAs h
  obtain ⟨-, hreferences, -⟩ := spell_written h
  cases hspelled with
  | primitive _ hword _ =>
    have hnot : Word.isPrimitive "var" = false := by decide
    refine iff_of_false (fun hvar => ?_) (fun h => by cases h)
    rw [SpelledType.text] at hvar
    rw [← hvar, hword] at hnot
    cases hnot
  | array _ _ =>
    refine iff_of_false (ne_var_of_mem (c := '[') ?_ (by decide)) (fun h => by cases h)
    simp [SpelledType.text]
  | @reference _ _ name arguments es _ _ t hes =>
    have hspell : t.spell name = s.spell name := by
      simp only [SpelledType.references, references, Scope.spellAll] at hreferences
      injection hreferences with hfirst _
      injection hfirst
    cases hes with
    | nil =>
      rw [SpelledType.text, hspell, text_spell_eq_var_iff]
      constructor
      · intro h
        exact .reference h.1 h.2
      · intro h
        cases h with
        | reference hlast hspell => exact ⟨hlast, hspell⟩
    | cons _ _ =>
      refine iff_of_false (ne_var_of_mem (c := '<') ?_ (by decide)) (fun h => by cases h)
      simp [SpelledType.text]
  | typeVariable _ _ =>
    constructor
    · intro hvar
      rw [SpelledType.text] at hvar
      exact hvar ▸ .typeVariable
    · intro h
      cases h with
      | typeVariable => rfl
  | raw _ _ =>
    constructor
    · intro hvar
      exact .raw hvar
    · intro h
      cases h with
      | raw hvar => exact hvar

end ResolvedType

/-! ### Attempts -/

/-- An attempt that succeeds carried out the request that it came to. -/
theorem Course.exists_spelled {cap : Nat} {d r : Declaration} {log : List Exchange}
    {result : Except (Stage × Halt) Declaration} (h : Course cap d log result)
    (hresult : result = .ok r) :
    ∃ q asked rest, log = asked ++ rest ∧ Spelled cap d q asked ∧ r = q.replacement := by
  cases h with
  | @committed q asked rest _ hspelled hcommit =>
    cases hcommit with
    | completed _ =>
      cases hresult
      exact ⟨q, asked, _, rfl, hspelled, rfl⟩
    | broke _ => cases hresult
    | refused => cases hresult
    | interrupted _ => cases hresult
  | _ => cases hresult

/-- **A replacement reads as a declaration with its type written out, unless that is the word for an
inferred type.** Whatever the host answers, an attempt that succeeds has written out the type that
it was told, for the one variable of the declaration. What stands for the type is `var` exactly if
the type is read so in the scope of the file; and exactly then the replacement has the text of the
original, and exactly then it reads as a declaration whose type is still to be spelled out. -/
theorem Host.applied_reread_iff {σ : Type} (host : Host σ) (cap : Nat) (d : Declaration) (s : σ)
    {r : Declaration} (h : (host.spellOut cap d s).outcome = .applied r) :
    ∃ name text i type package imports,
      d.declarators = [⟨name, .inferred, some i⟩] ∧
      r = { d with declarators := [⟨name, .explicit text, some i⟩] } ∧
      [.resolve i (.ok (some type)), .package (.ok package), .imports (.ok imports)] <+:
        host.exchanges cap d s ∧
      (text = "var" ↔ type.ReadAsInferred (.ofFile d.id package imports)) ∧
      (r.text = d.text ↔ text = "var") ∧ (r.reread.isEligible = true ↔ text = "var") := by
  have hresult : (host.spellOut cap d s).result = .ok r := by
    unfold Attempt.outcome at h
    split at h
    · next hok =>
      cases h
      exact hok
    · cases h
  obtain ⟨q, asked, rest, hlog, hspelled, rfl⟩ :=
    (host.spellOut_traced cap d s).course.exists_spelled hresult
  obtain ⟨hc, type, package, imports, draft, rfl, hspell, -⟩ := hspelled
  obtain ⟨hone, hsupported, hd⟩ := Declaration.candidate_eq_ok_iff.mp hc
  have hreplacement : q.replacement = { d with declarators :=
      [⟨q.candidate.variableName, .explicit q.type.text, some q.candidate.initializer⟩] } := by
    rw [Request.replacement, Candidate.withType, hd]
  have hd' : d = { d with declarators :=
      [⟨q.candidate.variableName, .inferred, some q.candidate.initializer⟩] } := by
    rw [← hone]
  refine ⟨_, q.type.text, _, type, package, imports, hone, hreplacement, ⟨rest, hlog.symm⟩,
    ResolvedType.text_eq_var_iff hspell, ?_, ?_⟩
  · rw [hreplacement]
    conv => lhs; rhs; rw [hd']
    exact d.text_eq_iff _ _ _ _
  · rw [hreplacement]
    exact d.isEligible_reread_iff _ hsupported _

namespace Workspace

/-- A declaration `var x = load()`. -/
def loaded : Declaration := ⟨1, [], [], [⟨"x", .inferred, some (.other "load()")⟩]⟩

/-- The declaration in a file, with a type for its initializer. -/
def loadedWorkspace (file : SourceFile) (type : ResolvedType) : Workspace where
  file := file
  types := TypeTable.empty.insert "load()" type
  declarations := Declarations.empty.insert loaded

/-- Where the simple name is taken, a type of this simple name is written in full, and reads as a
type. -/
theorem qualified_reread :
    let file := (SourceFile.empty (some (.ofText "app"))).declare (.single (.ofText "b.var"))
    let w := loadedWorkspace file (.reference (.ofText "a.var") [])
    let r : Declaration := ⟨1, [], [], [⟨"x", .explicit "a.var", some (.other "load()")⟩]⟩
    (host.spellOut 32 loaded w).outcome = .applied r ∧ r.text = "a.var x = load()" ∧
      r.text ≠ loaded.text ∧ r.reread.isEligible = false := by
  intro file w r
  have houtcome : (host.spellOut 32 loaded w).outcome = .applied r := by
    decide +kernel
  obtain ⟨name, text, i, _, _, _, -, hr, -, -, htext, heligible⟩ :=
    host.applied_reread_iff 32 loaded w houtcome
  have hdeclarators : r.declarators = [⟨name, .explicit text, some i⟩] := congrArg _ hr
  have hne : text ≠ "var" := by
    simp only [r, List.cons.injEq, Declarator.mk.injEq, DeclaredType.explicit.injEq] at hdeclarators
    rw [← hdeclarators.1.2.1]
    decide
  refine ⟨houtcome, by decide +kernel, fun he => hne (htext.mp he), ?_⟩
  rw [Bool.eq_false_iff]
  exact fun he => hne (heligible.mp he)

/-- A type variable of the name `var` is written out, and nothing is gained by it: the replacement
has the text of the original and reads as the original. -/
theorem typeVariable_reread :
    let w := loadedWorkspace (.empty (some (.ofText "app"))) (.typeVariable "var")
    let r : Declaration := ⟨1, [], [], [⟨"x", .explicit "var", some (.other "load()")⟩]⟩
    (host.spellOut 32 loaded w).outcome = .applied r ∧ r.text = "var x = load()" ∧
      r.text = loaded.text ∧ r.reread = loaded ∧ loaded.isEligible = true := by
  decide +kernel

end Workspace

end SpellOut
