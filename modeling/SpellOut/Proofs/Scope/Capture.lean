import SpellOut.Proofs.Scope.Justified

/-! When a short spelling is captured by another type.

A short spelling is captured where an import binds its simple name to another type, or where another
reference is spelled alike. Types that are imported by name are safe from that. The others that are
written short outside the root package have no import of their own: they have no owner, or their
owner is the own package or imported on demand. Such a type is on loan, and nothing reserves its
simple name: later references may take it. `captureFree_iff` says that this is all that can go
wrong, and exactly when it does. -/
namespace SpellOut.Scope

/-- No short spelling of a type outside the root package is captured: the imports that bind its
simple name are of that type, and so are the other references outside the root package that are
spelled alike. -/
def CaptureFree (s : Scope) (references : List (Name × Spelling)) : Prop :=
  ∀ r ∈ references, r.2.isShort = true → r.1.inRootPackage = false →
    (∀ i ∈ s.binders r.2.text, i = .single r.1) ∧
    ∀ other ∈ references, other.2 = r.2 → other.1.inRootPackage = false → other.1 = r.1

instance (s : Scope) (references : List (Name × Spelling)) :
    Decidable (s.CaptureFree references) := by
  unfold CaptureFree
  infer_instance

/-- Whether the simple name of a type is on loan: the type is outside the root package and not
imported by name, and it has no owner, or one whose types are all in sight. -/
def lends (s : Scope) (type : Name) : Bool :=
  !type.inRootPackage && !s.importsType type &&
    type.owner?.all fun owner => s.package == some owner || s.importsOnDemand owner

theorem lends_iff {s : Scope} {type : Name} :
    s.lends type = true ↔ type.inRootPackage = false ∧ .single type ∉ s.imports ∧
      ∀ owner, type.owner? = some owner → s.package = some owner ∨ .onDemand owner ∈ s.imports := by
  simp [lends, ← importsType_iff, ← importsOnDemand_iff, Option.all_eq_true, and_assoc]

/-- No simple name that is on loan and used is wanted by another type: no import binds it, and no
other reference outside the root package is spelled with it. -/
def LoansUncontested (s : Scope) (references : List (Name × Spelling)) : Prop :=
  ∀ r ∈ references, r.2.isShort = true → s.lends r.1 = true →
    s.binders r.2.text = [] ∧
    ∀ other ∈ references, other.2 = r.2 → other.1.inRootPackage = false → other.1 = r.1

instance (s : Scope) (references : List (Name × Spelling)) :
    Decidable (s.LoansUncontested references) := by
  unfold LoansUncontested
  infer_instance

/-- Outside the root package, what is written short is imported by name in the end or was on loan
from the start. -/
theorem lends_of_short {s : Scope} (hs : s.Unambiguous) {names : List Name} {type : Name}
    {word : String} (h : (type, .short word) ∈ s.spellAll names)
    (hroot : type.inRootPackage = false)
    (hunnamed : .single type ∉ (s.mentionAll names).imports) : s.lends type = true := by
  have hbefore : .single type ∉ s.imports := fun hi => hunnamed (mem_mentionAll hi names)
  refine lends_iff.mpr ⟨hroot, hbefore, fun owner howner => ?_⟩
  cases justified_of_mem_spellAll hs h with
  | short hm hin =>
    cases hin with
    | root hr => exact absurd hr (by simp [hroot])
    | unowned hn => cases howner.symm.trans hn
    | ownPackage ho hp =>
      cases howner.symm.trans ho
      exact .inl (by rw [← package_mentionAll s names, hp])
    | onDemand ho hi =>
      cases howner.symm.trans ho
      exact .inr (onDemand_mem_mentionAll.mp hi)
    | byName hb =>
      have hmem : .single type ∈ (s.mentionAll names).binders type.last.text := by
        rw [hb]
        exact List.mem_cons_self
      obtain ⟨_, heq, hi, _⟩ := mem_binders.mp hmem
      cases heq
      exact absurd hi hunnamed

theorem word_of_short {s : Scope} (hs : s.Unambiguous) {names : List Name} {type : Name}
    {word : String} (h : (type, .short word) ∈ s.spellAll names) : word = type.last.text := by
  cases justified_of_mem_spellAll hs h with
  | short hm hin => rfl

/-- A type that needs an import is outside the root package. -/
theorem outside_of_needsImport {s : Scope} {type : Name} (h : s.needsImport type = true) :
    type.inRootPackage = false := by
  obtain ⟨owner, howner, hroot, _⟩ := needsImport_iff.mp h
  simp [Name.inRootPackage, howner, hroot]

/-- Names written one after the other are free from capture exactly if what they borrow is
uncontested. -/
theorem captureFree_spellAll {s : Scope} (hs : s.Unambiguous) (names : List Name) :
    (s.mentionAll names).CaptureFree (s.spellAll names) ↔
      s.LoansUncontested (s.spellAll names) := by
  have hfinal := hs.mentionAll names
  constructor
  · intro hfree r hr hshort hlends
    obtain ⟨type, spelling⟩ := r
    obtain ⟨houtside, hunnamed, -⟩ := lends_iff.mp hlends
    obtain ⟨hbinders, halike⟩ := hfree _ hr hshort houtside
    refine ⟨List.eq_nil_iff_forall_not_mem.mpr fun i hi => ?_, halike⟩
    obtain ⟨other, rfl, hother, hword⟩ := mem_binders.mp hi
    have heq := hbinders _ (mem_binders.mpr ⟨other, rfl, mem_mentionAll hother names, hword⟩)
    cases heq
    exact hunnamed hother
  · intro hloan r hr hshort hroot
    obtain ⟨type, spelling⟩ := r
    cases spelling with
    | full text => cases hshort
    | within outer path => cases hshort
    | short word =>
      have hword := word_of_short hs hr
      subst hword
      by_cases hnamed : .single type ∈ (s.mentionAll names).imports
      · -- the import of the type itself keeps its simple name for it
        refine ⟨fun i hi => ?_, ?_⟩
        · rw [Spelling.text, hfinal.binders_eq hnamed] at hi
          exact List.mem_singleton.mp hi
        · intro r' hother halike hroot'
          obtain ⟨other, spelling⟩ := r'
          cases halike
          have hlast := Segment.text_inj.mp (word_of_short hs hother)
          by_cases hnamed' : .single other ∈ (s.mentionAll names).imports
          · exact hfinal.eq_of_last hnamed' hnamed hlast.symm
          · have hlends := lends_of_short hs hother hroot' hnamed'
            exact ((hloan _ hother rfl hlends).2 _ hr rfl hroot).symm
      · have hlends := lends_of_short hs hr hroot hnamed
        obtain ⟨hbinders, halike⟩ := hloan _ hr hshort hlends
        refine ⟨fun i hi => ?_, halike⟩
        obtain ⟨other, rfl, hother, hlast⟩ := mem_binders.mp hi
        rcases single_mem_mentionAll hother with hbefore | ⟨hneeds, hwritten⟩
        · have hmem : .single other ∈ s.binders (Spelling.short type.last.text).text :=
            mem_binders.mpr ⟨other, rfl, hbefore, hlast⟩
          rw [hbinders] at hmem
          cases hmem
        · have hlast' : other.last.text = type.last.text := hlast
          rw [hlast'] at hwritten
          exact congrArg _ (halike _ hwritten rfl (outside_of_needsImport hneeds))

end SpellOut.Scope

namespace SpellOut.ResolvedType

/-- **A type is written without capture exactly if no simple name on loan is wanted twice.** In the
scope of a file that binds no simple name twice, only types without an import of their own are
captured: by a type that the file imports, or by another reference that is spelled alike. -/
theorem captureFree_iff {cap : Nat} {type : ResolvedType} {site : NodeId} {package : Option Name}
    {imports : List Import} {e : SpelledType} {d : Draft}
    (hdistinct : (Scope.ofFile site package imports).Unambiguous)
    (h : type.spell cap (.ofScope (.ofFile site package imports)) = (.ok e, d)) :
    d.scope.CaptureFree e.references ↔
      (Scope.ofFile site package imports).LoansUncontested e.references := by
  obtain ⟨-, hreferences, hscope⟩ := spell_written h
  rw [hreferences, hscope]
  exact Scope.captureFree_spellAll hdistinct _

/-- A pair of two types, which owners other than the root package own. -/
def pairOf (first second : String) : ResolvedType :=
  reference (.ofText "util.Pair")
    [reference (.ofText first) [], reference (.ofText second) []]

/-- A type of the own package that comes second is written in full, so nothing is captured. -/
theorem captureFree_own_second : ∃ e d,
    (pairOf "lib.Node" "app.Node").spell 32 (.ofScope (.ofFile 1 (some (.ofText "app")) [])) =
        (.ok e, d) ∧
      e.text = "Pair<Node, app.Node>" ∧ d.scope.CaptureFree e.references := by
  have hrun : (pairOf "lib.Node" "app.Node").spellsTo 32 (.ofFile 1 (some (.ofText "app")) [])
      (fun e _ => e.text == "Pair<Node, app.Node>" &&
        decide ((Scope.ofFile 1 (some (.ofText "app")) []).LoansUncontested e.references)) =
      true := by
    decide +kernel
  obtain ⟨e, d, h, htest⟩ := exists_of_spellsTo hrun
  obtain ⟨htext, hloans⟩ := Bool.and_eq_true_iff.mp htest
  exact ⟨e, d, h, beq_iff_eq.mp htext,
    (captureFree_iff (by decide) h).mpr (of_decide_eq_true hloans)⟩

/-- A type of the own package that comes first lends its simple name, and the import that the second
type asks for captures it. -/
theorem captured_own_first : ∃ e d,
    (Scope.ofFile 1 (some (.ofText "app")) []).Unambiguous ∧
      (pairOf "app.Node" "lib.Node").spell 32 (.ofScope (.ofFile 1 (some (.ofText "app")) [])) =
        (.ok e, d) ∧
      e.text = "Pair<Node, Node>" ∧ ¬ d.scope.CaptureFree e.references := by
  have hrun : (pairOf "app.Node" "lib.Node").spellsTo 32 (.ofFile 1 (some (.ofText "app")) [])
      (fun e s => e.text == "Pair<Node, Node>" && !decide (s.CaptureFree e.references)) = true := by
    decide +kernel
  obtain ⟨e, d, h, htest⟩ := exists_of_spellsTo hrun
  obtain ⟨htext, hcaptured⟩ := Bool.and_eq_true_iff.mp htest
  exact ⟨e, d, by decide, h, beq_iff_eq.mp htext, by simpa using hcaptured⟩

end SpellOut.ResolvedType
