import SpellOut.Proofs.Scope.Wanted

/-! No import is missing, and none is asked for without use.

A type lacks an import if nothing in sight brings it into sight. One that lacks its import and is
written short asks for it there and then (`wants_eq_lacks`), and lacks it no longer. So the imports
asked for can be read off the type as it is written, with the scope in which the writing began
(`staged_mentionAll`): they are those of the names that are written short and lacked an import, each
where it is written short for the first time. -/
namespace SpellOut

namespace Scope

/-- Whether nothing brings the type into sight: it is not imported by name, and it has an owner,
which is neither the root package nor the file's own nor imported on demand. -/
def lacks (s : Scope) (type : Name) : Bool :=
  !s.importsType type && type.owner?.any fun owner =>
    owner != rootPackage && s.package != some owner && !s.importsOnDemand owner

theorem lacks_iff {s : Scope} {type : Name} :
    s.lacks type = true ↔ .single type ∉ s.imports ∧ ∃ owner, type.owner? = some owner ∧
      owner ≠ rootPackage ∧ s.package ≠ some owner ∧ .onDemand owner ∉ s.imports := by
  simp [lacks, ← importsType_iff, ← importsOnDemand_iff, Option.any_eq_true, and_assoc]

/-- A type that lacks its import and is written short has a simple name that is free. -/
theorem needsImport_of_lacks {s : Scope} {type : Name} (hshort : (s.spell type).isShort = true)
    (hlacks : s.lacks type = true) : s.needsImport type = true := by
  obtain ⟨-, -, hmay⟩ := spell_eq_short (isShort_iff.mp hshort)
  obtain ⟨hnamed, owner, howner, hroot, hpackage, hdemand⟩ := lacks_iff.mp hlacks
  refine needsImport_iff.mpr ⟨owner, howner, hroot, hpackage, hdemand, fun other hother hlast => ?_⟩
  have hother' : other ≠ type := fun he => hnamed (he ▸ hother)
  have hbinds : s.bindsOther type.last.text type = true :=
    bindsOther_iff.mpr ⟨other, hother, hother', by rw [hlast]⟩
  have hunnamed : s.importsType type = false := by
    rw [Bool.eq_false_iff, Ne, importsType_iff]
    exact hnamed
  have hdemands : s.importsOnDemand owner = false := by
    rw [Bool.eq_false_iff, Ne, importsOnDemand_iff]
    exact hdemand
  simp [mayShorten, Name.inRootPackage, howner, hroot, hunnamed, hdemands, hbinds] at hmay

/-- What asks for its import is what is written short and lacks it. -/
theorem wants_eq_lacks (s : Scope) (type : Name) :
    s.wants type = ((s.spell type).isShort && s.lacks type) := by
  unfold wants
  cases hshort : (s.spell type).isShort with
  | false => rfl
  | true =>
    rw [Bool.true_and, Bool.true_and, Bool.eq_iff_iff]
    refine ⟨fun hneeds => ?_, needsImport_of_lacks hshort⟩
    obtain ⟨owner, howner, hroot, hpackage, hdemand, hfree⟩ := needsImport_iff.mp hneeds
    exact lacks_iff.mpr ⟨fun hi => hfree type hi rfl, owner, howner, hroot, hpackage, hdemand⟩

/-- What is asked for is lacking no longer, and nothing else changes. -/
theorem lacks_mention (s : Scope) (name type : Name) :
    (s.mention name).lacks type = (s.lacks type && !(s.wants name && type == name)) := by
  rw [Bool.eq_iff_iff, Bool.and_eq_true_iff, lacks_iff, lacks_iff, package_mention,
    imports_mention]
  cases s.wants name with
  | false => simp
  | true => simp [not_or, and_right_comm]

/-- Writing names asks for the imports of those that are written short and lacked one, each once, in
the order in which they are first written so. -/
theorem staged_mentionAll (s : Scope) (names : List Name) :
    (s.mentionAll names).staged = s.staged ++
      (((s.spellAll names).filter fun r => r.2.isShort && s.lacks r.1).map Prod.fst).eraseDups := by
  induction names generalizing s with
  | nil => simp [spellAll]
  | cons name rest ih =>
    rw [mentionAll_cons, ih, spellAll, List.filter_cons, ← wants_eq_lacks]
    cases hwants : s.wants name with
    | false =>
      have hsame : s.mention name = s := by simp [mention_eq, hwants]
      rw [hsame, if_neg Bool.false_ne_true]
    | true =>
      have hstaged : (s.mention name).staged = s.staged ++ [name] := by simp [mention_eq, hwants]
      have hlater : (fun r : Name × Spelling => r.2.isShort && (s.mention name).lacks r.1) =
          fun r => !(r.1 == name) && (r.2.isShort && s.lacks r.1) := by
        funext r
        rw [lacks_mention, hwants, Bool.true_and, ← Bool.and_assoc, Bool.and_comm]
      rw [if_pos rfl, List.map_cons, List.eraseDups_cons, List.filter_map, List.filter_filter,
        hstaged, hlater, List.append_assoc]
      rfl

end Scope

/-- **The imports asked for are those that are lacking, in order.** A type that is written in the
scope of a file asks for the imports of the names that are written short and lacked one in that
scope: each once, in the order in which they are first written so. -/
theorem ResolvedType.spell_staged {cap : Nat} {type : ResolvedType} {site : NodeId}
    {package : Option Name} {imports : List Import} {e : SpelledType} {d : Draft}
    (h : type.spell cap (.ofScope (.ofFile site package imports)) = (.ok e, d)) :
    d.scope.staged = ((e.references.filter fun r =>
      r.2.isShort && (Scope.ofFile site package imports).lacks r.1).map Prod.fst).eraseDups := by
  obtain ⟨-, hreferences, hscope⟩ := spell_written h
  rw [hscope, hreferences, Scope.staged_mentionAll]
  rfl

/-- A map of types that come into sight in every way there is, one of them twice. -/
def ResolvedType.assortment : ResolvedType :=
  reference (.ofText "a.Map")
    (["java.time.Instant", "java.util.List", "java.time.Instant", "y.Key", "c.Thing", "app.Own",
      "Loose", "java.lang.String", "a.Map.Entry", "b.Map"].map fun name =>
        reference (.ofText name) [])

def assortmentImports : List Import := [.onDemand (.ofText "c"), .single (.ofText "x.Key")]

theorem ResolvedType.assortment_staged : ∃ e d,
    assortment.spell 32 (.ofScope (.ofFile 1 (some (.ofText "app")) assortmentImports)) =
        (.ok e, d) ∧
      e.text = "Map<Instant, List, Instant, y.Key, Thing, Own, Loose, String, Map.Entry, b.Map>" ∧
      d.scope.staged = [.ofText "a.Map", .ofText "java.time.Instant", .ofText "java.util.List"] ∧
      d.scope.staged = ((e.references.filter fun r => r.2.isShort &&
        (Scope.ofFile 1 (some (.ofText "app")) assortmentImports).lacks r.1).map
          Prod.fst).eraseDups := by
  have hrun : assortment.spellsTo 32 (.ofFile 1 (some (.ofText "app")) assortmentImports)
      (fun e s => e.text ==
          "Map<Instant, List, Instant, y.Key, Thing, Own, Loose, String, Map.Entry, b.Map>" &&
        s.staged == [.ofText "a.Map", .ofText "java.time.Instant", .ofText "java.util.List"]) =
      true := by
    decide +kernel
  obtain ⟨e, d, h, htest⟩ := exists_of_spellsTo hrun
  obtain ⟨htext, hstaged⟩ := Bool.and_eq_true_iff.mp htest
  exact ⟨e, d, h, beq_iff_eq.mp htext, beq_iff_eq.mp hstaged, spell_staged h⟩

end SpellOut
