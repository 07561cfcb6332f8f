import SpellOut.Attempt

/-! What an attempt and its host say to each other.

A call together with its answer is an exchange. A host that keeps a log gives the answers that it
gives without one, and puts every exchange at the end of the log. So what an attempt asks of a host,
and in which order, is in the log that the host has at the end (`Host.exchanges`). -/
namespace SpellOut

/-- A call to a host, without its answer. -/
inductive Query where
  | resolve (initializer : Initializer)
  | package
  | imports
  | replace (id : NodeId) (d : Declaration)
  | addImport (type : Name)
deriving DecidableEq

/-- A call to a host, with its answer. -/
inductive Exchange where
  | resolve (initializer : Initializer) (answer : Except Breakdown (Option ResolvedType))
  | package (answer : Except Breakdown (Option Name))
  | imports (answer : Except Breakdown (List Import))
  | replace (id : NodeId) (d : Declaration) (answer : Except Breakdown Bool)
  | addImport (type : Name) (answer : Except Breakdown Unit)

namespace Exchange

/-- The call that is answered. -/
def query : Exchange → Query
  | resolve initializer _ => .resolve initializer
  | package _ => .package
  | imports _ => .imports
  | replace id d _ => .replace id d
  | addImport type _ => .addImport type

/-- How the host broke down instead of giving an answer, if it did. -/
def breakdown? : Exchange → Option Breakdown
  | resolve _ (.error cause) => some cause
  | package (.error cause) => some cause
  | imports (.error cause) => some cause
  | replace _ _ (.error cause) => some cause
  | addImport _ (.error cause) => some cause
  | _ => none

/-- The stage of an attempt that makes such a call. -/
def stage : Exchange → Stage
  | resolve _ _ => .resolving
  | package _ => .spelling
  | imports _ => .spelling
  | replace _ _ _ => .replacing
  | addImport _ _ => .replacing

end Exchange

namespace Host

variable {σ α : Type}

/-- In the state `s` the host answers the call as in the exchange, and is in the state `t` then. -/
def Answers (host : Host σ) (s : σ) : Exchange → σ → Prop
  | .resolve initializer answer, t => host.resolve initializer s = (answer, t)
  | .package answer, t => host.package s = (answer, t)
  | .imports answer, t => host.imports s = (answer, t)
  | .replace id d answer, t => host.replace id d s = (answer, t)
  | .addImport type answer, t => host.addImport type s = (answer, t)

/-- From the state `s` on, the host answers the calls as in the exchanges, one after the other, and
is in the state `t` at the end. -/
def AnswersAll (host : Host σ) (s : σ) : List Exchange → σ → Prop
  | [], t => t = s
  | x :: rest, t => ∃ next, host.Answers s x next ∧ host.AnswersAll next rest t

theorem AnswersAll.append {host : Host σ} {s t u : σ} {a b : List Exchange}
    (ha : host.AnswersAll s a t) (hb : host.AnswersAll t b u) : host.AnswersAll s (a ++ b) u := by
  induction a generalizing s with
  | nil =>
    have hst : t = s := ha
    exact hst ▸ hb
  | cons x rest ih =>
    obtain ⟨next, hx, hrest⟩ := ha
    exact ⟨next, hx, ih hrest⟩

/-- The call, with the exchange put at the end of a log. -/
def logCall (exchange : Except Breakdown α → Exchange) (call : Call σ α) :
    Call (σ × List Exchange) α := fun (s, log) =>
  let (answer, s) := call s
  (answer, s, log ++ [exchange answer])

theorem logCall_eq {exchange : Except Breakdown α → Exchange} {call : Call σ α} {s t : σ}
    {answer : Except Breakdown α} (h : call s = (answer, t)) (log : List Exchange) :
    logCall exchange call (s, log) = (answer, t, log ++ [exchange answer]) := by
  simp only [logCall, h]

/-- The host, with a log of all exchanges beside its state. -/
def logged (host : Host σ) : Host (σ × List Exchange) where
  resolve initializer := logCall (.resolve initializer) (host.resolve initializer)
  package := logCall .package host.package
  imports := logCall .imports host.imports
  replace id d := logCall (.replace id d) (host.replace id d)
  addImport type := logCall (.addImport type) (host.addImport type)

/-- The exchanges of an attempt with the host, from first to last. -/
def exchanges (host : Host σ) (cap : Nat) (d : Declaration) (s : σ) : List Exchange :=
  (host.logged.spellOut cap d (s, [])).host.2

end Host

end SpellOut
