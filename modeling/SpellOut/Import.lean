import SpellOut.Name

/-! Import declarations, and lists of them without repetition. -/
namespace SpellOut

/-- An import declaration of a source file. -/
inductive Import where
  /-- One type, which its simple name then stands for. -/
  | single (type : Name)
  /-- Every type that a package or a type owns, each when it is asked for. -/
  | onDemand (owner : Name)
deriving DecidableEq

namespace Import

/-- The name written in the declaration. -/
def name : Import → Name
  | single type => type
  | onDemand owner => owner

/-- The simple name that the declaration binds, if it binds one. -/
def boundName? : Import → Option Segment
  | single type => some type.last
  | onDemand _ => none

def text : Import → String
  | single type => "import " ++ type.text ++ ";"
  | onDemand owner => "import " ++ owner.text ++ ".*;"

/-- The list with `i` at its end, unless it is there already. -/
def extend (imports : List Import) (i : Import) : List Import :=
  if i ∈ imports then imports else imports ++ [i]

theorem mem_extend {imports : List Import} {i j : Import} :
    j ∈ extend imports i ↔ j ∈ imports ∨ j = i := by
  unfold extend
  split
  · next hi => exact ⟨.inl, fun h => h.elim id fun he => he ▸ hi⟩
  · simp

theorem mem_foldl_extend {imports more : List Import} {j : Import} :
    j ∈ more.foldl extend imports ↔ j ∈ imports ∨ j ∈ more := by
  induction more generalizing imports with
  | nil => simp
  | cons i rest ih => rw [List.foldl_cons, ih, mem_extend, List.mem_cons, or_assoc]

theorem nodup_extend {imports : List Import} (h : imports.Nodup) (i : Import) :
    (extend imports i).Nodup := by
  unfold extend
  split
  · exact h
  · next hi =>
    rw [List.nodup_append]
    refine ⟨h, by simp, ?_⟩
    intro a ha b hb
    rw [List.mem_singleton.mp hb]
    exact fun he => hi (he ▸ ha)

theorem nodup_foldl_extend {imports : List Import} (h : imports.Nodup) (more : List Import) :
    (more.foldl extend imports).Nodup := by
  induction more generalizing imports with
  | nil => exact h
  | cons i rest ih => exact ih (nodup_extend h i)

end Import

end SpellOut
