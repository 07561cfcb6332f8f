import SpellOut.Proofs.Lockstep
import SpellOut.Proofs.Scope.Wanted

/-! Which imports have a say in how a type is written.

To spell a name, a scope is asked four things: which of the name's owners are imported by name,
whether its direct owner is imported on demand, whether the name itself is imported, and what else
its simple name is bound to. The same answers settle whether an import has to be asked for. So only
imports that concern the name matter, and only whether they are there (`AgreeOn.spell_eq`,
`AgreeOn.wants_eq`); and a type is written alike in two scopes that have the same imports of those
that concern one of its names (`spell_eq_of_relevant`). -/
namespace SpellOut

/-! ### Imports that concern a name -/

/-- What an import has to be to have a say in how a name is spelled: of all types of its owner, of a
type with its simple name, or of one of its owners. -/
def Import.Concerns (name : Name) : Import → Prop
  | single type => type.last = name.last ∨ type ∈ name.owners
  | onDemand owner => name.owner? = some owner

instance (name : Name) (i : Import) : Decidable (i.Concerns name) := by
  cases i <;> unfold Import.Concerns <;> infer_instance

namespace Scope

/-- Two scopes of one package have the same imports of those that concern a name. -/
structure AgreeOn (s t : Scope) (name : Name) : Prop where
  package : s.package = t.package
  imports : ∀ i : Import, i.Concerns name → (i ∈ s.imports ↔ i ∈ t.imports)

namespace AgreeOn

variable {s t : Scope} {name : Name}

theorem single_mem_iff (h : s.AgreeOn t name) {type : Name}
    (htype : type.last = name.last ∨ type ∈ name.owners) :
    .single type ∈ s.imports ↔ .single type ∈ t.imports := h.imports (.single type) htype

theorem importsType_eq (h : s.AgreeOn t name) {type : Name}
    (htype : type.last = name.last ∨ type ∈ name.owners) :
    s.importsType type = t.importsType type := by
  rw [Bool.eq_iff_iff, importsType_iff, importsType_iff, h.single_mem_iff htype]

theorem importsOnDemand_eq (h : s.AgreeOn t name) :
    name.owner?.any s.importsOnDemand = name.owner?.any t.importsOnDemand := by
  cases howner : name.owner? with
  | none => rfl
  | some owner =>
    rw [Option.any_some, Option.any_some, Bool.eq_iff_iff, importsOnDemand_iff, importsOnDemand_iff]
    exact h.imports (.onDemand owner) howner

theorem bindsOther_eq (h : s.AgreeOn t name) :
    s.bindsOther name.last.text name = t.bindsOther name.last.text name := by
  rw [Bool.eq_iff_iff, bindsOther_iff, bindsOther_iff]
  exact exists_congr fun other => and_congr_left fun hother =>
    h.single_mem_iff (.inl (Segment.text_inj.mp hother.2))

theorem mayShorten_eq (h : s.AgreeOn t name) :
    s.mayShorten name.last.text name = t.mayShorten name.last.text name := by
  unfold mayShorten
  rw [h.importsType_eq (.inl rfl), h.importsOnDemand_eq, h.bindsOther_eq, h.package]

/-- A name is spelled alike. -/
theorem spell_eq (h : s.AgreeOn t name) : s.spell name = t.spell name := by
  unfold spell
  rw [Name.nearestOwner?_congr fun owner howner => h.importsType_eq (.inr howner), h.mayShorten_eq]

theorem needsImport_eq (h : s.AgreeOn t name) : s.needsImport name = t.needsImport name := by
  rw [Bool.eq_iff_iff, needsImport_iff, needsImport_iff, h.package]
  refine exists_congr fun owner => and_congr_right fun howner => ?_
  have hdemand := h.imports (.onDemand owner) howner
  have hfree : (∀ other, .single other ∈ s.imports → other.last ≠ name.last) ↔
      ∀ other, .single other ∈ t.imports → other.last ≠ name.last := by
    constructor
    · exact fun hfree other hi hlast => hfree other ((h.single_mem_iff (.inl hlast)).mpr hi) hlast
    · exact fun hfree other hi hlast => hfree other ((h.single_mem_iff (.inl hlast)).mp hi) hlast
  rw [hdemand, hfree]

/-- Writing a name asks for its import in both scopes or in neither. -/
theorem wants_eq (h : s.AgreeOn t name) : s.wants name = t.wants name := by
  rw [wants, wants, h.spell_eq, h.needsImport_eq]

/-- Writing some other name leaves the scopes in agreement, if it asks for the same in both. -/
theorem mention (h : s.AgreeOn t name) {other : Name} (hother : s.wants other = t.wants other) :
    (s.mention other).AgreeOn (t.mention other) name := by
  refine ⟨by simp only [package_mention, h.package], fun i hi => ?_⟩
  rw [imports_mention, imports_mention, hother, List.mem_append, List.mem_append, h.imports i hi]

end AgreeOn

end Scope

/-! ### Imports that are relevant to a type -/

/-- The import concerns one of the names in the type. -/
def Import.RelevantTo (type : ResolvedType) (i : Import) : Prop :=
  ∃ name ∈ type.references, i.Concerns name

instance (type : ResolvedType) (i : Import) : Decidable (i.RelevantTo type) := by
  unfold Import.RelevantTo
  infer_instance

/-- Two scopes that agree on the names have grown by the same imports since they were `start` and
`start'`. -/
structure Scope.GrownAlike (names : List Name) (start start' s t : Scope) : Prop where
  agree : ∀ name ∈ names, s.AgreeOn t name
  grown : ∃ added, s = { start with staged := start.staged ++ added } ∧
    t = { start' with staged := start'.staged ++ added }

theorem Scope.lockstep_grownAlike (names : List Name) (start start' : Scope) :
    Lockstep names (GrownAlike names start start') where
  spell h name hname := (h.agree name hname).spell_eq
  mention := by
    intro s t h name hname
    have hwants := (h.agree name hname).wants_eq
    obtain ⟨added, hs, ht⟩ := h.grown
    refine ⟨fun other hother => (h.agree other hother).mention hwants, ?_⟩
    refine ⟨added ++ if t.wants name then [name] else [], ?_, ?_⟩
    · rw [mention_eq, hwants, hs]
      simp only [List.append_assoc]
    · rw [mention_eq, ht]
      simp only [List.append_assoc]

/-- **How a type is written depends on the relevant imports alone.** Two scopes of one package that
have the same imports of those that are relevant to a type, declared or staged and in whatever
order, write it alike or find the same flaw, and the same imports are asked for in both. -/
theorem ResolvedType.spell_eq_of_relevant (cap : Nat) {type : ResolvedType} {d d' : Draft}
    (hpackage : d.scope.package = d'.scope.package)
    (himports : ∀ i : Import, i.RelevantTo type → (i ∈ d.scope.imports ↔ i ∈ d'.scope.imports)) :
    (type.spell cap d).1 = (type.spell cap d').1 ∧
      ∃ added, (type.spell cap d).2.scope =
          { d.scope with staged := d.scope.staged ++ added } ∧
        (type.spell cap d').2.scope = { d'.scope with staged := d'.scope.staged ++ added } := by
  have hstart : Scope.GrownAlike type.references d.scope d'.scope d.scope d'.scope := by
    refine ⟨fun name hname => ⟨hpackage, fun i hi => himports i ⟨name, hname, hi⟩⟩, [], ?_, ?_⟩
    · rw [List.append_nil]
    · rw [List.append_nil]
  have hstep := Scope.lockstep_grownAlike type.references d.scope d'.scope
  obtain ⟨result, e, e', he, he', hend⟩ :=
    spellAt_lockstep hstep cap 0 .whole (List.Subset.refl _) hstart
  rw [spell, spell, he, he']
  exact ⟨rfl, hend.grown⟩

/-- A map from moments to its own entries. -/
def ResolvedType.moments : ResolvedType :=
  reference (.ofText "a.Map")
    [reference (.ofText "java.time.Instant") [], reference (.ofText "a.Map.Entry") []]

/-- The map is imported by the file. -/
def momentsScope : Scope := .ofFile 1 (some (.ofText "app")) [.single (.ofText "a.Map")]

/-- The import of the map was asked for; what else the file imports is not relevant. -/
def otherMomentsScope : Scope :=
  ⟨7, some (.ofText "app"), [.single (.ofText "x.Clock"), .onDemand (.ofText "b")],
    [.ofText "a.Map"]⟩

/-- Two scopes with the one relevant import ask for the one that is missing. -/
theorem ResolvedType.moments_eq : ∃ e,
    (moments.spell 32 (.ofScope momentsScope)).1 = .ok e ∧
      (moments.spell 32 (.ofScope otherMomentsScope)).1 = .ok e ∧
      e.text = "Map<Instant, Map.Entry>" ∧
      (moments.spell 32 (.ofScope momentsScope)).2.scope.staged = [.ofText "java.time.Instant"] ∧
      (moments.spell 32 (.ofScope otherMomentsScope)).2.scope.staged =
        [.ofText "a.Map", .ofText "java.time.Instant"] := by
  have hrun : moments.spellsTo 32 momentsScope (fun e s =>
      e.text == "Map<Instant, Map.Entry>" && s.staged == [.ofText "java.time.Instant"]) = true := by
    decide +kernel
  obtain ⟨e, d, h, htest⟩ := exists_of_spellsTo hrun
  obtain ⟨htext, hstaged⟩ := Bool.and_eq_true_iff.mp htest
  have hrelevant : ∀ i ∈ momentsScope.imports ++ otherMomentsScope.imports, i.RelevantTo moments →
      (i ∈ momentsScope.imports ↔ i ∈ otherMomentsScope.imports) := by
    decide +kernel
  have hpackage : (Draft.ofScope momentsScope).scope.package =
      (Draft.ofScope otherMomentsScope).scope.package := rfl
  have hsame : ∀ i : Import, i.RelevantTo moments →
      (i ∈ (Draft.ofScope momentsScope).scope.imports ↔
        i ∈ (Draft.ofScope otherMomentsScope).scope.imports) := by
    intro i hi
    constructor
    · exact fun hm => (hrelevant i (List.mem_append_left _ hm) hi).mp hm
    · exact fun hm => (hrelevant i (List.mem_append_right _ hm) hi).mpr hm
  obtain ⟨hresult, added, hscope, hother⟩ := spell_eq_of_relevant 32 hpackage hsame
  rw [h] at hresult hscope
  have hadded : added = [.ofText "java.time.Instant"] := by
    rw [beq_iff_eq, hscope] at hstaged
    exact hstaged
  subst hadded
  refine ⟨e, by rw [h], hresult.symm, beq_iff_eq.mp htext, ?_, ?_⟩
  · rw [h]
    exact beq_iff_eq.mp hstaged
  · rw [hother]
    rfl

end SpellOut
