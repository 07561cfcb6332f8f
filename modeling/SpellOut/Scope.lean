import SpellOut.Import
import SpellOut.NodeId
import SpellOut.RootPackage
import SpellOut.SpelledType

/-! The scope in which a type is spelled: the package of a source file, its imports, and those that
spelling has asked for so far.

Two decisions are made from a scope and change nothing: whether a simple name may stand for a type
(`mayShorten`), and how a type is spelled (`spell`). One step changes it: where a short spelling
relies on an import that nothing provides yet, `mention` asks for that import. -/
namespace SpellOut

/-- What is in sight at the declaration `site`. -/
structure Scope where
  site : NodeId
  package : Option Name
  /-- The imports the file declares, none twice. -/
  declared : List Import
  /-- The types whose import was asked for, in the order of asking. -/
  staged : List Name

namespace Scope

/-- The scope of a file, before any import is asked for. -/
def ofFile (site : NodeId) (package : Option Name) (imports : List Import) : Scope :=
  ⟨site, package, imports.foldl Import.extend [], []⟩

theorem nodup_declared_ofFile (site : NodeId) (package : Option Name) (imports : List Import) :
    (ofFile site package imports).declared.Nodup :=
  Import.nodup_foldl_extend List.nodup_nil imports

/-- Every import in sight: the declared ones, then the staged ones. -/
def imports (s : Scope) : List Import := s.declared ++ s.staged.map .single

/-- Whether `type` is imported by its own name. -/
def importsType (s : Scope) (type : Name) : Bool := s.imports.contains (.single type)

/-- Whether all types of `owner` are imported on demand. -/
def importsOnDemand (s : Scope) (owner : Name) : Bool := s.imports.contains (.onDemand owner)

/-- Whether the simple name `word` is bound to a type other than `type`. -/
def bindsOther (s : Scope) (word : String) (type : Name) : Bool :=
  s.imports.any fun
    | .single other => other != type && other.last.text == word
    | .onDemand _ => false

/-- Whether `word` may stand for `type`. A type of the root package may always be shortened, and
so may one that is imported by name or on demand. A nested type that is not imported may not, and
neither may one whose simple name is taken, by an import of another type by name or, outside the
own package, by the root package. What else an on-demand import brings into sight takes no name. -/
def mayShorten (s : Scope) (word : String) (type : Name) : Bool :=
  if type.inRootPackage then true
  else if type.isMarked then false
  else if s.importsType type then true
  else if type.owner?.any s.importsOnDemand then true
  else if type.ownerLooksLikeType then false
  else if s.bindsOther word type then false
  else if type.owner?.isSome && type.owner? == s.package then true
  else !isRootType word

/-- How the name of `type` is written. A marked name is written in full. An owner that is imported
by name leads the path to the type, the nearest one first; else the simple name is used where it
may be. -/
def spell (s : Scope) (type : Name) : Spelling :=
  if type.isMarked then .full type.text
  else match type.nearestOwner? s.importsType with
    | some (owner, path) => .within owner.last.text path
    | none =>
      if s.mayShorten type.last.text type then .short type.last.text else .full type.text

/-! ### Asking for imports -/

/-- Whether an import in sight already settles what the simple name of `type`, which `owner` owns,
stands for: by importing the owner on demand, or by binding that simple name. -/
def settles (s : Scope) (owner type : Name) : Bool :=
  s.imports.any fun
    | .single other => other.last == type.last
    | .onDemand other => other == owner

/-- Whether `type` has to be imported before its simple name can stand for it. A type without an
owner, of the root package or of the file's own package needs no import. -/
def needsImport (s : Scope) (type : Name) : Bool :=
  match type.owner? with
  | none => false
  | some owner => owner != rootPackage && s.package != some owner && !s.settles owner type

/-- The scope after asking for the import of `type`. -/
def provide (s : Scope) (type : Name) : Scope :=
  if s.needsImport type then { s with staged := s.staged ++ [type] } else s

/-- Asking for an import puts it after all that are in sight, or changes nothing. -/
theorem imports_provide (s : Scope) (type : Name) :
    (s.provide type).imports =
      s.imports ++ if s.needsImport type then [.single type] else [] := by
  unfold provide
  split <;> simp [imports]

/-- The scope after writing `type` as it is spelled there: a short spelling asks for its import. -/
def mention (s : Scope) (type : Name) : Scope :=
  if (s.spell type).isShort then s.provide type else s

end Scope

end SpellOut
