import SpellOut.Draft
import SpellOut.TypeFlaw

/-! Writing a resolved type in a scope.

The type is walked from left to right, each node before its parts. A node with a flaw ends the walk;
what the nodes before it asked for stays asked for. The name of a reference is written before its
arguments, so the spelling of a name depends on the names to its left and on none to its right. -/
namespace SpellOut.ResolvedType

mutual

/-- The type as it is written at a given place and depth, with the draft afterwards. -/
def spellAt (cap depth : Nat) (place : Place) :
    ResolvedType → Draft → Except TypeFlaw SpelledType × Draft
  | type, d =>
    match type.flaw? cap depth place with
    | some flaw => (.error flaw, d)
    | none =>
      match type with
      | primitive word => (.ok (.primitive word), d)
      | array component =>
        match component.spellAt cap (depth + 1) .component d with
        | (.ok component, d) => (.ok (.array component), d)
        | (.error flaw, d) => (.error flaw, d)
      | reference name arguments =>
        match spellArguments cap (depth + 1) arguments (d.write name) with
        | (.ok arguments, d') => (.ok (.reference name (d.scope.spell name) arguments), d')
        | (.error flaw, d') => (.error flaw, d')
      | wildcard bound =>
        match bound.spellAt cap (depth + 1) .bound d with
        | (.ok bound, d) => (.ok (.wildcard bound), d)
        | (.error flaw, d) => (.error flaw, d)
      | typeVariable name => (.ok (.typeVariable name), d)
      | raw text => (.ok (.raw (CharClass.trimBlanks text)), d)

/-- Type arguments as they are written at a given depth, with the draft afterwards. -/
def spellArguments (cap depth : Nat) :
    List ResolvedType → Draft → Except TypeFlaw (List SpelledType) × Draft
  | [], d => (.ok [], d)
  | first :: rest, d =>
    match first.spellAt cap depth .argument d with
    | (.error flaw, d) => (.error flaw, d)
    | (.ok first, d) =>
      match spellArguments cap depth rest d with
      | (.error flaw, d) => (.error flaw, d)
      | (.ok rest, d) => (.ok (first :: rest), d)

end

/-- The type as it is written when it stands for itself, nesting no deeper than `cap`, with the
draft afterwards. -/
def spell (type : ResolvedType) (cap : Nat) (d : Draft) : Except TypeFlaw SpelledType × Draft :=
  type.spellAt cap 0 .whole d

end SpellOut.ResolvedType
