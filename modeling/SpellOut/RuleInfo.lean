import SpellOut.Settings

/-! What a host is told about the rule: its name, the sources it applies to, and where it is
described. -/
namespace SpellOut

structure RuleInfo where
  id : String
  /-- The first version of the language whose sources can leave types to inference. -/
  minimalVersion : Nat
  tags : List String
  seeUrls : List String
  sonarId : Option String
  jsparrowId : Option String
  pmdUrl : Option String
deriving DecidableEq

namespace RuleInfo

/-- The rule that local variables are declared with explicit types. -/
def useExplicitTypes : RuleInfo where
  id := "UseExplicitTypes"
  minimalVersion := 10
  tags := ["ImplicitToExplicit"]
  seeUrls :=
    ["https://openjdk.org/jeps/286",
     "https://pmd.github.io/latest/pmd_rules_java_codestyle.html#useexplicittypes"]
  sonarId := none
  jsparrowId := none
  pmdUrl := some "https://pmd.github.io/latest/pmd_rules_java_codestyle.html#useexplicittypes"

/-- Whether sources of a language version can hold anything for the rule to do. -/
def acceptsVersion (info : RuleInfo) (version : Nat) : Bool := info.minimalVersion ≤ version

/-- Writes a description, in the notation that is given. -/
def toToon (write : RuleInfo → Except String String) (info : RuleInfo) :
    Except SettingsError String :=
  (write info).mapError .unwritable

end RuleInfo

end SpellOut
