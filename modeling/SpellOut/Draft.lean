import SpellOut.Scope

/-! A scope while types are being spelled in it, with notes of what was done. -/
namespace SpellOut

/-- What is noted at a declaration site while a type is spelled. -/
inductive Note where
  | staged (site : NodeId) (type : Name)
  | spelled (site : NodeId) (type : Name) (spelling : Spelling)
deriving DecidableEq

/-- A scope and the notes taken so far, in order. -/
structure Draft where
  scope : Scope
  notes : List Note

namespace Draft

/-- A scope of which nothing is noted yet. -/
def ofScope (scope : Scope) : Draft := ⟨scope, []⟩

/-- Asks for the import of `type`, and notes it if there was need to. -/
def provide (d : Draft) (type : Name) : Draft :=
  ⟨d.scope.provide type,
    if d.scope.needsImport type then d.notes ++ [.staged d.scope.site type] else d.notes⟩

/-- Asks for the import that the spelling of `type` relies on. -/
def mention (d : Draft) (type : Name) : Draft :=
  if (d.scope.spell type).isShort then d.provide type else d

@[simp]
theorem scope_provide (d : Draft) (type : Name) :
    (d.provide type).scope = d.scope.provide type := rfl

@[simp]
theorem scope_mention (d : Draft) (type : Name) :
    (d.mention type).scope = d.scope.mention type := by
  unfold mention Scope.mention
  split <;> rfl

/-- Writes the name of `type`: asks for what its spelling relies on, and notes the spelling. -/
def write (d : Draft) (type : Name) : Draft :=
  ⟨d.scope.mention type,
    (d.mention type).notes ++ [.spelled d.scope.site type (d.scope.spell type)]⟩

end Draft

end SpellOut
