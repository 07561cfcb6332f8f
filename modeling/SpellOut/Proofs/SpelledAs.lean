import SpellOut.Proofs.Identifiers
import SpellOut.ResolvedType.Spelled

/-! What a type is spelled as, without the walk that spells it.

A node that is spelled has no flaw where it stands. `SpelledAs` says what that is for each kind of
node and what the node is spelled as; what becomes of the scope on the way does not matter, so any
scope may have spelled a name. Whatever a walk spells is spelled so (`spellAt_spelledAs`). -/
namespace SpellOut.ResolvedType

mutual

/-- What a type may be spelled as that lies at a depth and stands in a place. -/
inductive SpelledAs (cap : Nat) :
    (depth : Nat) → Place → ResolvedType → SpelledType → Prop where
  | primitive {depth : Nat} {place : Place} {word : String} (hdepth : depth ≤ cap)
      (hword : Word.isPrimitive word = true) (hplace : place ≠ .argument ∧ place ≠ .bound) :
      SpelledAs cap depth place (.primitive word) (.primitive word)
  | array {depth : Nat} {place : Place} {component : ResolvedType} {e : SpelledType}
      (hdepth : depth ≤ cap) (h : SpelledAs cap (depth + 1) .component component e) :
      SpelledAs cap depth place (.array component) (.array e)
  | reference {depth : Nat} {place : Place} {name : Name} {arguments : List ResolvedType}
      {es : List SpelledType} (hdepth : depth ≤ cap) (hname : name.OfIdentifiers) (s : Scope)
      (h : AllSpelledAs cap (depth + 1) arguments es) :
      SpelledAs cap depth place (.reference name arguments) (.reference name (s.spell name) es)
  | wildcard {depth : Nat} {bound : ResolvedType} {e : SpelledType} (hdepth : depth ≤ cap)
      (h : SpelledAs cap (depth + 1) .bound bound e) :
      SpelledAs cap depth .argument (.wildcard bound) (.wildcard e)
  | typeVariable {depth : Nat} {place : Place} {name : String} (hdepth : depth ≤ cap)
      (hname : Word.isIdentifier name = true) :
      SpelledAs cap depth place (.typeVariable name) (.typeVariable name)
  | raw {depth : Nat} {place : Place} {text : String} (hdepth : depth ≤ cap)
      (h : RawType.accepts (cap - depth) text = true) :
      SpelledAs cap depth place (.raw text) (.raw (CharClass.trimBlanks text))

/-- What type arguments at a depth may be spelled as, one after the other. -/
inductive AllSpelledAs (cap : Nat) :
    (depth : Nat) → List ResolvedType → List SpelledType → Prop where
  | nil {depth : Nat} : AllSpelledAs cap depth [] []
  | cons {depth : Nat} {first : ResolvedType} {rest : List ResolvedType} {e : SpelledType}
      {es : List SpelledType} (h : SpelledAs cap depth .argument first e)
      (hrest : AllSpelledAs cap depth rest es) :
      AllSpelledAs cap depth (first :: rest) (e :: es)

end

theorem depth_le_of_flaw? {cap depth : Nat} {place : Place} {type : ResolvedType}
    (h : type.flaw? cap depth place = none) :
    depth ≤ cap := by
  unfold flaw? at h
  split at h
  · cases h
  · next hdepth => exact Nat.le_of_not_lt hdepth

mutual

/-- What a type is spelled as when a walk spells it. -/
theorem spellAt_spelledAs {cap depth : Nat} {place : Place} {type : ResolvedType} {d d' : Draft}
    {e : SpelledType} (h : type.spellAt cap depth place d = (.ok e, d')) :
    SpelledAs cap depth place type e := by
  unfold spellAt at h
  split at h
  · cases h
  · next hflaw =>
    have hdepth := depth_le_of_flaw? hflaw
    have hshallow := Nat.not_lt.mpr hdepth
    cases type with
    | primitive word =>
      cases h
      cases hword : Word.isPrimitive word with
      | false => simp [flaw?, hshallow, hword] at hflaw
      | true => exact .primitive hdepth hword (by simpa [flaw?, hshallow, hword] using hflaw)
    | array component =>
      simp only at h
      split at h
      · next hc =>
        cases h
        exact .array hdepth (spellAt_spelledAs hc)
      · cases h
    | reference name arguments =>
      simp only at h
      split at h
      · next hc =>
        cases h
        refine .reference hdepth ?_ d.scope (spellArguments_allSpelledAs hc)
        simpa [flaw?, hshallow, Name.OfIdentifiers] using hflaw
      · cases h
    | wildcard bound =>
      have hplace : place = .argument := by simpa [flaw?, hshallow] using hflaw
      subst hplace
      simp only at h
      split at h
      · next hc =>
        cases h
        exact .wildcard hdepth (spellAt_spelledAs hc)
      · cases h
    | typeVariable name =>
      cases h
      exact .typeVariable hdepth (by simpa [flaw?, hshallow] using hflaw)
    | raw text =>
      cases h
      exact .raw hdepth (by simpa [flaw?, hshallow] using hflaw)

theorem spellArguments_allSpelledAs {cap depth : Nat} {types : List ResolvedType} {d d' : Draft}
    {es : List SpelledType} (h : spellArguments cap depth types d = (.ok es, d')) :
    AllSpelledAs cap depth types es := by
  cases types with
  | nil =>
    unfold spellArguments at h
    cases h
    exact .nil
  | cons first rest =>
    unfold spellArguments at h
    split at h
    · cases h
    · next hfirst =>
      split at h
      · cases h
      · next hrest =>
        cases h
        exact .cons (spellAt_spelledAs hfirst) (spellArguments_allSpelledAs hrest)

end

end SpellOut.ResolvedType
