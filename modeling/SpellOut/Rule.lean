import SpellOut.Attempt
import SpellOut.Settings

/-! The rule, made from settings: it spells out the types of declarations one at a time, and nests
none deeper than its settings allow. -/
namespace SpellOut

structure Rule where
  settings : Settings
  /-- The deepest nesting that it spells out, fixed when the rule is made. -/
  cap : Nat
deriving DecidableEq

namespace Rule

def ofSettings (settings : Settings) : Rule := ⟨settings, settings.maxDepth⟩

/-- Runs the rule on a declaration. -/
def spellOut {σ : Type} (rule : Rule) (host : Host σ) (d : Declaration) (s : σ) : Attempt σ :=
  host.spellOut rule.cap d s

end Rule

end SpellOut
