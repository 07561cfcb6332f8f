import SpellOut.Candidate
import SpellOut.TypeFlaw

/-! How an attempt to spell out a type can end without a change: the reasons, and the stages of an
attempt at which they arise. -/
namespace SpellOut

/-- Why a declaration was left as it is. -/
inductive Abstention where
  | notCandidate (why : Ineligible)
  | unsupported (kind : Unsupported)
  /-- The initializer with this text has no known type. -/
  | unresolved (initializer : String)
  | flawed (flaw : TypeFlaw)
  /-- The host did not accept the replacement. -/
  | rejected (id : NodeId)
  /-- The host broke down. -/
  | fault (message : String)
deriving DecidableEq

def Abstention.message : Abstention → String
  | notCandidate why => "not a candidate: " ++ why.message
  | unsupported kind => "unsupported initializer: " ++ kind.message
  | unresolved initializer => "type oracle could not resolve `" ++ initializer ++ "`"
  | flawed flaw => "type synthesis failed: " ++ flaw.message
  | rejected id => "mutation engine rejected the replacement of node " ++ toString id
  | fault message => "unexpected fault: " ++ message

/-- The reason to leave a declaration that is no candidate. An unsupported initializer is a reason
of its own. -/
def Ineligible.abstention : Ineligible → Abstention
  | unsupported kind => .unsupported kind
  | why => .notCandidate why

/-- What an attempt is at, from first to last. -/
inductive Stage where
  | filtering
  | resolving
  | spelling
  | replacing
deriving DecidableEq

def Stage.text : Stage → String
  | filtering => "filtered"
  | resolving => "resolving"
  | spelling => "synthesizing"
  | replacing => "rewriting"

end SpellOut
