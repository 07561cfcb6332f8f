import SpellOut.Host

/-! Hosts with a fault.

A fault lasts for one attempt: one kind of call breaks down whenever it is made, or replacements
are refused. Of the calls that add imports a single one breaks down, so a host with a fault counts
them. -/
namespace SpellOut

/-- Where a host breaks down. -/
inductive FaultPoint where
  | resolve
  | package
  | imports
  /-- Before the declaration is replaced. -/
  | replace
  /-- After the declaration was replaced. -/
  | afterReplace
  /-- Before an import is added, at the call with this number, counted from zero. -/
  | addImport (index : Nat)
deriving DecidableEq

/-- How a host fails to do its part. -/
inductive Fault where
  | breakdown (point : FaultPoint) (cause : Breakdown)
  /-- Replacements are refused. -/
  | refusal
deriving DecidableEq

namespace Fault

variable {σ α : Type}

/-- What makes a host break down at a point, if anything does. -/
def strikes? (fault : Option Fault) (point : FaultPoint) : Option Breakdown :=
  match fault with
  | some (breakdown struck cause) => if struck = point then some cause else none
  | some refusal => none
  | none => none

/-- The call, unless the host breaks down before it. -/
def guard (fault : Option Fault) (point : FaultPoint) (call : Call σ α) : Call σ α := fun s =>
  match strikes? fault point with
  | some cause => (.error cause, s)
  | none => call s

end Fault

namespace Host

variable {σ α : Type}

/-- The call on the host's own state, beside a count. -/
def besideCount (call : Call σ α) : Call (σ × Nat) α := fun (s, count) =>
  let (answer, s) := call s
  (answer, s, count)

/-- The host with a fault, if any. Its state has the number of imports added beside it. -/
def withFault (host : Host σ) (fault : Option Fault) : Host (σ × Nat) where
  resolve initializer := Fault.guard fault .resolve (besideCount (host.resolve initializer))
  package := Fault.guard fault .package (besideCount host.package)
  imports := Fault.guard fault .imports (besideCount host.imports)
  replace id d :=
    if fault = some .refusal then fun s => (.ok false, s)
    else Fault.guard fault .replace fun s =>
      match besideCount (host.replace id d) s with
      | (.ok accepted, s) => Fault.guard fault .afterReplace (fun s => (.ok accepted, s)) s
      | (.error cause, s) => (.error cause, s)
  addImport type := fun (s, count) =>
    Fault.guard fault (.addImport count) (fun (s, count) =>
      let (answer, s) := host.addImport type s
      (answer, s, count + 1)) (s, count)

end Host

end SpellOut
