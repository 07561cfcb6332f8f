/-! Settings: how deep a type may nest. They are kept as a document with the field `max_depth`. The
notation of documents is not fixed here: how settings are written and read is a codec. -/
namespace SpellOut

/-- A notation for values of a type. Writing and reading may both fail, and then say why. -/
structure Codec (α : Type) where
  write : α → Except String String
  read : String → Except String α

structure Settings where
  /-- The deepest nesting of components, arguments and bounds that is spelled out. -/
  maxDepth : Nat := 32
deriving DecidableEq

/-- Why settings are refused, or not written. -/
inductive SettingsError where
  | unreadable (why : String)
  | unwritable (why : String)
  | zeroDepth
deriving DecidableEq

def SettingsError.message : SettingsError → String
  | unreadable why => "invalid rule configuration: " ++ why
  | unwritable why => "could not encode rule configuration: " ++ why
  | zeroDepth => "max_depth must be at least 1"

namespace Settings

/-- What is wrong with the settings, if anything is: some nesting has to be allowed. -/
def error? (s : Settings) : Option SettingsError :=
  if s.maxDepth = 0 then some .zeroDepth else none

/-- Writes settings, unchecked. -/
def toToon (codec : Codec Settings) (s : Settings) : Except SettingsError String :=
  (codec.write s).mapError .unwritable

/-- Reads settings and checks them. -/
def ofToon (codec : Codec Settings) (text : String) : Except SettingsError Settings :=
  match codec.read text with
  | .error why => .error (.unreadable why)
  | .ok settings =>
    match settings.error? with
    | some error => .error error
    | none => .ok settings

end Settings

end SpellOut
