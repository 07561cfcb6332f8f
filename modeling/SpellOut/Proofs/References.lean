import SpellOut.ResolvedType.Spelled

/-! The references of a type, in the order in which they are written.

Writing a type touches the scope at its references only, and there as if their names were written
one after the other (`spellAt_written`). So what a type looks like in a scope, and what it leaves of
the scope, is a matter of one list of names. -/
namespace SpellOut

/-! ### The names in a type -/

namespace ResolvedType

mutual

/-- The names in the type, from left to right, that of a reference before those in its arguments. -/
def references : ResolvedType → List Name
  | primitive _ => []
  | array component => component.references
  | reference name arguments => name :: referencesIn arguments
  | wildcard bound => bound.references
  | typeVariable _ => []
  | raw _ => []

def referencesIn : List ResolvedType → List Name
  | [] => []
  | first :: rest => first.references ++ referencesIn rest

end

mutual

/-- The type without the blanks around the texts in it. -/
def trimmed : ResolvedType → ResolvedType
  | primitive word => primitive word
  | array component => array component.trimmed
  | reference name arguments => reference name (trimmedAll arguments)
  | wildcard bound => wildcard bound.trimmed
  | typeVariable name => typeVariable name
  | raw text => raw (CharClass.trimBlanks text)

def trimmedAll : List ResolvedType → List ResolvedType
  | [] => []
  | first :: rest => first.trimmed :: trimmedAll rest

end

end ResolvedType

namespace SpelledType

mutual

/-- The names in the type with their spellings, from left to right. -/
def references : SpelledType → List (Name × Spelling)
  | primitive _ => []
  | array component => component.references
  | reference name spelling arguments => (name, spelling) :: referencesIn arguments
  | wildcard bound => bound.references
  | typeVariable _ => []
  | raw _ => []

def referencesIn : List SpelledType → List (Name × Spelling)
  | [] => []
  | first :: rest => first.references ++ referencesIn rest

end

mutual

/-- The type without the spellings. -/
def unspelled : SpelledType → ResolvedType
  | primitive word => .primitive word
  | array component => .array component.unspelled
  | reference name _ arguments => .reference name (unspelledAll arguments)
  | wildcard bound => .wildcard bound.unspelled
  | typeVariable name => .typeVariable name
  | raw text => .raw text

def unspelledAll : List SpelledType → List ResolvedType
  | [] => []
  | first :: rest => first.unspelled :: unspelledAll rest

end

end SpelledType

/-! ### Writing one name after the other -/

namespace Scope

/-- The scope after writing the names. -/
def mentionAll (s : Scope) (names : List Name) : Scope := names.foldl mention s

/-- The names as they are spelled, each in the scope that the names before it leave. -/
def spellAll (s : Scope) : List Name → List (Name × Spelling)
  | [] => []
  | name :: rest => (name, s.spell name) :: (s.mention name).spellAll rest

@[simp]
theorem mentionAll_nil (s : Scope) : s.mentionAll [] = s := rfl

@[simp]
theorem mentionAll_cons (s : Scope) (name : Name) (rest : List Name) :
    s.mentionAll (name :: rest) = (s.mention name).mentionAll rest := rfl

theorem spellAll_append (s : Scope) (a b : List Name) :
    s.spellAll (a ++ b) = s.spellAll a ++ (s.mentionAll a).spellAll b := by
  induction a generalizing s with
  | nil => rfl
  | cons name rest ih => simp only [List.cons_append, spellAll, mentionAll_cons, ih]

end Scope

namespace Draft

/-- The draft after writing the names. -/
def writeAll (d : Draft) (names : List Name) : Draft := names.foldl write d

theorem writeAll_append (d : Draft) (a b : List Name) :
    d.writeAll (a ++ b) = (d.writeAll a).writeAll b := List.foldl_append

@[simp]
theorem scope_writeAll (d : Draft) (names : List Name) :
    (d.writeAll names).scope = d.scope.mentionAll names := by
  induction names generalizing d with
  | nil => rfl
  | cons name rest ih => exact ih _

end Draft

/-! ### Writing a type -/

namespace ResolvedType

/-- What writing a type gives: the type again, its names spelled one after the other, and the draft
that writing just the names would leave. -/
structure Written (type : ResolvedType) (d : Draft) (e : SpelledType) (d' : Draft) : Prop where
  shape : e.unspelled = type.trimmed
  references : e.references = d.scope.spellAll type.references
  draft : d' = d.writeAll type.references

structure WrittenAll (types : List ResolvedType) (d : Draft) (es : List SpelledType) (d' : Draft) :
    Prop where
  shape : SpelledType.unspelledAll es = trimmedAll types
  references : SpelledType.referencesIn es = d.scope.spellAll (referencesIn types)
  draft : d' = d.writeAll (referencesIn types)

mutual

theorem spellAt_written {cap depth : Nat} {place : Place} {type : ResolvedType} {d d' : Draft}
    {e : SpelledType} (h : type.spellAt cap depth place d = (.ok e, d')) : Written type d e d' := by
  unfold spellAt at h
  split at h
  · cases h
  · cases type with
    | primitive word =>
      cases h
      exact ⟨rfl, rfl, rfl⟩
    | array component =>
      simp only at h
      split at h
      · next hc =>
        cases h
        have w := spellAt_written hc
        exact ⟨by simp only [SpelledType.unspelled, trimmed, w.shape], w.references, w.draft⟩
      · cases h
    | reference name arguments =>
      simp only at h
      split at h
      · next hc =>
        cases h
        have w := spellArguments_written hc
        refine ⟨?_, ?_, w.draft⟩
        · simp only [SpelledType.unspelled, trimmed, w.shape]
        · simp only [SpelledType.references, references, Scope.spellAll, w.references]
          rfl
      · cases h
    | wildcard bound =>
      simp only at h
      split at h
      · next hc =>
        cases h
        have w := spellAt_written hc
        exact ⟨by simp only [SpelledType.unspelled, trimmed, w.shape], w.references, w.draft⟩
      · cases h
    | typeVariable name =>
      cases h
      exact ⟨rfl, rfl, rfl⟩
    | raw text =>
      cases h
      exact ⟨rfl, rfl, rfl⟩

theorem spellArguments_written {cap depth : Nat} {types : List ResolvedType} {d d' : Draft}
    {es : List SpelledType} (h : spellArguments cap depth types d = (.ok es, d')) :
    WrittenAll types d es d' := by
  cases types with
  | nil =>
    unfold spellArguments at h
    cases h
    exact ⟨rfl, rfl, rfl⟩
  | cons first rest =>
    unfold spellArguments at h
    split at h
    · cases h
    · next hfirst =>
      split at h
      · cases h
      · next hrest =>
        cases h
        have wf := spellAt_written hfirst
        have wr := spellArguments_written hrest
        refine ⟨?_, ?_, ?_⟩
        · simp only [SpelledType.unspelledAll, trimmedAll, wf.shape, wr.shape]
        · simp only [SpelledType.referencesIn, referencesIn, Scope.spellAll_append, wf.references,
            wr.references, wf.draft, Draft.scope_writeAll]
        · rw [wr.draft, wf.draft, referencesIn, Draft.writeAll_append]

end

mutual

/-- A walk that ends early has written the first names of the type, and nothing else. -/
theorem spellAt_writeAll (cap depth : Nat) (place : Place) (type : ResolvedType) (d : Draft) :
    ∃ names, names <+: type.references ∧
      (type.spellAt cap depth place d).2 = d.writeAll names := by
  unfold spellAt
  split
  · exact ⟨[], List.nil_prefix, rfl⟩
  · cases type with
    | primitive word => exact ⟨[], List.nil_prefix, rfl⟩
    | array component =>
      obtain ⟨names, hnames, hend⟩ := spellAt_writeAll cap (depth + 1) .component component d
      refine ⟨names, hnames, ?_⟩
      rw [← hend]
      simp only
      split <;> next hc => rw [hc]
    | reference name arguments =>
      obtain ⟨names, hnames, hend⟩ :=
        spellArguments_writeAll cap (depth + 1) arguments (d.write name)
      refine ⟨name :: names, (List.prefix_cons_inj name).mpr hnames, ?_⟩
      have hwrite : d.writeAll (name :: names) = (d.write name).writeAll names := rfl
      rw [hwrite, ← hend]
      simp only
      split <;> next hc => rw [hc]
    | wildcard bound =>
      obtain ⟨names, hnames, hend⟩ := spellAt_writeAll cap (depth + 1) .bound bound d
      refine ⟨names, hnames, ?_⟩
      rw [← hend]
      simp only
      split <;> next hc => rw [hc]
    | typeVariable name => exact ⟨[], List.nil_prefix, rfl⟩
    | raw text => exact ⟨[], List.nil_prefix, rfl⟩

theorem spellArguments_writeAll (cap depth : Nat) (types : List ResolvedType) (d : Draft) :
    ∃ names, names <+: referencesIn types ∧
      (spellArguments cap depth types d).2 = d.writeAll names := by
  unfold spellArguments
  cases types with
  | nil => exact ⟨[], List.nil_prefix, rfl⟩
  | cons first rest =>
    simp only
    split
    · next hfirst =>
      obtain ⟨names, hnames, hend⟩ := spellAt_writeAll cap depth .argument first d
      rw [hfirst] at hend
      exact ⟨names, hnames.trans (List.prefix_append _ _), hend⟩
    · next d' hfirst =>
      -- only an argument that is written whole lets the walk go on to the next one
      have hd' := (spellAt_written hfirst).draft
      obtain ⟨names, hnames, hend⟩ := spellArguments_writeAll cap depth rest d'
      refine ⟨first.references ++ names, (List.prefix_append_right_inj _).mpr hnames, ?_⟩
      rw [Draft.writeAll_append, ← hd', ← hend]
      split <;> next hrest => rw [hrest]

end

/-- A type that stands for itself, written in a scope without notes. -/
theorem spell_written {cap : Nat} {type : ResolvedType} {s : Scope} {e : SpelledType} {d : Draft}
    (h : type.spell cap (.ofScope s) = (.ok e, d)) :
    e.unspelled = type.trimmed ∧ e.references = s.spellAll type.references ∧
      d.scope = s.mentionAll type.references := by
  have w := spellAt_written h
  refine ⟨w.shape, w.references, ?_⟩
  rw [w.draft, Draft.scope_writeAll]
  rfl

/-- Whether the type can be written in the scope, with a result that passes the test. -/
def spellsTo (type : ResolvedType) (cap : Nat) (s : Scope) (test : SpelledType → Scope → Bool) :
    Bool :=
  match type.spell cap (.ofScope s) with
  | (.ok e, d) => test e d.scope
  | (.error _, _) => false

theorem exists_of_spellsTo {type : ResolvedType} {cap : Nat} {s : Scope}
    {test : SpelledType → Scope → Bool} (h : type.spellsTo cap s test = true) :
    ∃ e d, type.spell cap (.ofScope s) = (.ok e, d) ∧ test e d.scope = true := by
  unfold spellsTo at h
  split at h
  · next e d hs => exact ⟨e, d, hs, h⟩
  · cases h

end ResolvedType

end SpellOut
