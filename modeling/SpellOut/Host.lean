import SpellOut.Declaration
import SpellOut.Import
import SpellOut.ResolvedType

/-! The host: what an attempt to spell out a type needs of the world around it.

A host has a state of some type, and every call may move the state on. A call may also break down
instead of giving an answer; what it did to the state before stays done. -/
namespace SpellOut

/-- How a call broke down: with a message, or with something that is none. -/
inductive Breakdown where
  | text (message : String)
  | other
deriving DecidableEq

def Breakdown.message : Breakdown → String
  | text message => message
  | other => "non-string panic payload"

/-- A call to a host in some state: the answer or the breakdown, and the state afterwards. -/
abbrev Call (σ α : Type) := σ → Except Breakdown α × σ

/-- The calls a host answers. -/
structure Host (σ : Type) where
  /-- The type of an initializer, if it can be told. -/
  resolve : Initializer → Call σ (Option ResolvedType)
  /-- The package of the source file. -/
  package : Call σ (Option Name)
  /-- The imports of the source file. -/
  imports : Call σ (List Import)
  /-- Puts a declaration in the place of another, and tells whether that was accepted. -/
  replace : NodeId → Declaration → Call σ Bool
  /-- Adds the import of a type to the source file. -/
  addImport : Name → Call σ Unit

end SpellOut
