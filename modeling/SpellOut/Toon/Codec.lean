import SpellOut.RuleInfo
import SpellOut.Settings
import SpellOut.Toon.Document

/-! Settings and rule descriptions in the TOON notation, as the program is run with them. What is
proved of settings does not rest on this codec, but on what it is assumed to do with `max_depth`. -/
namespace SpellOut.Toon

namespace Document

/-! ### Settings -/

def ofSettings (s : Settings) : Document := [("max_depth", .whole s.maxDepth)]

/-- The settings in a document. A depth that is not given is the usual one. What is read as a whole
number reaches less far than what can be written. -/
def settings? (document : Document) : Option Settings :=
  match document.find? "max_depth" with
  | none => some {}
  | some (.whole n) => if 0 ≤ n then some ⟨n.toNat⟩ else none
  | some _ => none

/-! ### Rule descriptions -/

def ofRuleInfo (info : RuleInfo) : Document :=
  let optional : Option String → Value
    | some s => .text s
    | none => .null
  [("id", .text info.id),
   ("minimal_language_version", .whole info.minimalVersion),
   ("tags", .list info.tags),
   ("see_urls", .list info.seeUrls),
   ("sonar_id", optional info.sonarId),
   ("jsparrow_id", optional info.jsparrowId),
   ("pmd_url", optional info.pmdUrl)]

end Document

def settings : Codec Settings where
  write s := .ok (Document.ofSettings s).text
  read text :=
    match Document.ofText? text with
    | none => .error "not a document"
    | some document =>
      match document.settings? with
      | none => .error "max_depth is not a whole number"
      | some settings => .ok settings

def writeRuleInfo (info : RuleInfo) : Except String String := .ok (Document.ofRuleInfo info).text

end SpellOut.Toon
