import SpellOut.Proofs.References

/-! Writing one type in two scopes at once.

The walk over a type looks at the scope where it spells a name, and nowhere else; what ends it early
is a flaw of the type itself. So two walks over one type go on side by side for as long as their
scopes spell its names alike. A relation between scopes that is enough for that, and that writing
the names keeps, leads to the same end in both scopes, whether the type is written or has a flaw
(`spellAt_lockstep`). -/
namespace SpellOut

/-- Scopes in the relation spell the names alike, and are still in it after writing one of them. -/
structure Lockstep (names : List Name) (Alike : Scope → Scope → Prop) : Prop where
  spell : ∀ {s t : Scope}, Alike s t → ∀ name ∈ names, s.spell name = t.spell name
  mention : ∀ {s t : Scope}, Alike s t → ∀ name ∈ names, Alike (s.mention name) (t.mention name)

namespace ResolvedType

variable {names : List Name} {Alike : Scope → Scope → Prop}

/-- Two walks come to the same result, in scopes that are alike. -/
def SameEnd {α : Type} (Alike : Scope → Scope → Prop) (a b : Except TypeFlaw α × Draft) : Prop :=
  ∃ result d d', a = (result, d) ∧ b = (result, d') ∧ Alike d.scope d'.scope

theorem SameEnd.intro {α : Type} (result : Except TypeFlaw α) {d d' : Draft}
    (h : Alike d.scope d'.scope) : SameEnd Alike (result, d) (result, d') :=
  ⟨result, d, d', rfl, rfl, h⟩

mutual

/-- Two walks over a type from scopes that are alike come to the same end. -/
theorem spellAt_lockstep (hstep : Lockstep names Alike) (cap depth : Nat) (place : Place)
    {type : ResolvedType} (hnames : type.references ⊆ names) {d d' : Draft}
    (h : Alike d.scope d'.scope) :
    SameEnd Alike (type.spellAt cap depth place d) (type.spellAt cap depth place d') := by
  unfold spellAt
  cases type.flaw? cap depth place with
  | some flaw => exact .intro _ h
  | none =>
    cases type with
    | primitive word => exact .intro _ h
    | array component =>
      have hcomponent : component.references ⊆ names := hnames
      obtain ⟨result, e, e', he, he', hend⟩ :=
        spellAt_lockstep hstep cap (depth + 1) .component hcomponent h
      simp only [he, he']
      cases result <;> exact .intro _ hend
    | reference name arguments =>
      obtain ⟨hname, harguments⟩ := List.cons_subset.mp hnames
      have hwrite : Alike (d.write name).scope (d'.write name).scope := hstep.mention h name hname
      obtain ⟨result, e, e', he, he', hend⟩ :=
        spellArguments_lockstep hstep cap (depth + 1) harguments hwrite
      simp only [he, he', hstep.spell h name hname]
      cases result <;> exact .intro _ hend
    | wildcard bound =>
      have hbound : bound.references ⊆ names := hnames
      obtain ⟨result, e, e', he, he', hend⟩ :=
        spellAt_lockstep hstep cap (depth + 1) .bound hbound h
      simp only [he, he']
      cases result <;> exact .intro _ hend
    | typeVariable name => exact .intro _ h
    | raw text => exact .intro _ h

/-- Two walks over type arguments from scopes that are alike come to the same end. -/
theorem spellArguments_lockstep (hstep : Lockstep names Alike) (cap depth : Nat)
    {types : List ResolvedType} (hnames : referencesIn types ⊆ names) {d d' : Draft}
    (h : Alike d.scope d'.scope) :
    SameEnd Alike (spellArguments cap depth types d) (spellArguments cap depth types d') := by
  unfold spellArguments
  cases types with
  | nil => exact .intro _ h
  | cons first rest =>
    obtain ⟨hfirst, hrest⟩ := List.append_subset.mp hnames
    obtain ⟨result, e, e', he, he', hend⟩ :=
      spellAt_lockstep hstep cap depth .argument hfirst h
    simp only [he, he']
    cases result with
    | error flaw => exact .intro _ hend
    | ok first =>
      obtain ⟨result, e, e', he, he', hend⟩ :=
        spellArguments_lockstep hstep cap depth hrest hend
      simp only [he, he']
      cases result <;> exact .intro _ hend

end

end ResolvedType

end SpellOut
