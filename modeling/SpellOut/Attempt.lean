import SpellOut.Event
import SpellOut.Host
import SpellOut.ResolvedType.Spelled

/-! Spelling out the type of one declaration.

An attempt goes through four stages: it looks whether the declaration is a candidate, asks the host
for the type of the initializer, spells that type in the scope of the source file, and has the host
replace the declaration and add the imports that the spelling asked for. The first thing that goes
wrong ends it. A host that breaks down ends it too, and the breakdown is reported like any other
reason to abstain. Imports are added last, so an attempt that ends for a reason of its own leaves no
trace. -/
namespace SpellOut

/-- What ended an attempt early: a reason to abstain, or a host that broke down. -/
inductive Halt where
  | abstention (reason : Abstention)
  | breakdown (cause : Breakdown)
deriving DecidableEq

namespace Halt

/-- The reason that is reported. -/
def reason : Halt → Abstention
  | abstention reason => reason
  | breakdown cause => .fault cause.message

/-- The events that tell of the end itself: a breakdown is worth a warning. -/
def events (id : NodeId) (stage : Stage) : Halt → List Event
  | abstention _ => []
  | breakdown cause => [.fault id stage cause.message]

end Halt

/-- How an attempt ended: with the replacement made, or with nothing to show for a reason. -/
inductive Outcome where
  | applied (replacement : Declaration)
  | abstained (stage : Stage) (reason : Abstention)
deriving DecidableEq

namespace Outcome

def isApplied : Outcome → Bool
  | applied _ => true
  | abstained _ _ => false

/-- The replacement, or the reason there is none. -/
def toExcept : Outcome → Except Abstention Declaration
  | applied replacement => .ok replacement
  | abstained _ reason => .error reason

/-- The event that closes an attempt on the declaration `id`. -/
def event (id : NodeId) : Outcome → Event
  | applied replacement => .applied id replacement
  | abstained stage reason => .abstained id stage reason

end Outcome

/-- An attempt on the declaration `id` that has come to an end: its result, the host afterwards, and
the notes of the spelling as far as it went. -/
structure Attempt (σ : Type) where
  id : NodeId
  result : Except (Stage × Halt) Declaration
  host : σ
  notes : List Note

namespace Attempt

variable {σ : Type}

def outcome (a : Attempt σ) : Outcome :=
  match a.result with
  | .ok replacement => .applied replacement
  | .error (stage, halt) => .abstained stage halt.reason

/-- Everything logged of the attempt, in order. -/
def events (a : Attempt σ) : List Event :=
  let halted := match a.result with
    | .ok _ => []
    | .error (stage, halt) => halt.events a.id stage
  a.notes.map .note ++ halted ++ [a.outcome.event a.id]

end Attempt

namespace Host

variable {σ : Type} (host : Host σ)

/-- Adds imports one after the other, until the host breaks down. -/
def addImports (types : List Name) (s : σ) : Except Breakdown Unit × σ :=
  match types with
  | [] => (.ok (), s)
  | type :: rest =>
    match host.addImport type s with
    | (.ok (), s) => addImports rest s
    | (.error cause, s) => (.error cause, s)

/-- Replaces a candidate by the declaration with its type written out and, once the host has
accepted that, adds the imports. -/
def commit (c : Candidate) (type : SpelledType) (imports : List Name) (s : σ) :
    Except Halt Declaration × σ :=
  let id := c.declaration.id
  match host.replace id (c.withType type) s with
  | (.error cause, s) => (.error (.breakdown cause), s)
  | (.ok false, s) => (.error (.abstention (.rejected id)), s)
  | (.ok true, s) =>
    match host.addImports imports s with
    | (.error cause, s) => (.error (.breakdown cause), s)
    | (.ok (), s) => (.ok (c.withType type), s)

/-- Spells out the type of a declaration, nesting no deeper than `cap`. -/
def spellOut (cap : Nat) (d : Declaration) (s : σ) : Attempt σ :=
  match d.candidate with
  | .error why => ⟨d.id, .error (.filtering, .abstention why.abstention), s, []⟩
  | .ok c =>
  match host.resolve c.initializer s with
  | (.error cause, s) => ⟨d.id, .error (.resolving, .breakdown cause), s, []⟩
  | (.ok none, s) =>
    ⟨d.id, .error (.resolving, .abstention (.unresolved c.initializer.text)), s, []⟩
  | (.ok (some type), s) =>
  match host.package s with
  | (.error cause, s) => ⟨d.id, .error (.spelling, .breakdown cause), s, []⟩
  | (.ok package, s) =>
  match host.imports s with
  | (.error cause, s) => ⟨d.id, .error (.spelling, .breakdown cause), s, []⟩
  | (.ok imports, s) =>
  match type.spell cap (.ofScope (.ofFile d.id package imports)) with
  | (.error flaw, draft) => ⟨d.id, .error (.spelling, .abstention (.flawed flaw)), s, draft.notes⟩
  | (.ok spelled, draft) =>
  match host.commit c spelled draft.scope.staged s with
  | (.error halt, s) => ⟨d.id, .error (.replacing, halt), s, draft.notes⟩
  | (.ok replacement, s) => ⟨d.id, .ok replacement, s, draft.notes⟩

end Host

end SpellOut
