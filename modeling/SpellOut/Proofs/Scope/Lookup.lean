import SpellOut.Proofs.Scope.Justified

/-! Reading a spelled type back, as whoever compiles the file does.

A simple name is looked up in levels: what an import binds it to, a known type of the own package, a
known type that exactly one of the owners imported on demand has, a known type of the root package.
The first level with a hit decides, and a name without a hit stands for itself. Where the known
types leave a reference no rival, every level hits it or nothing (`lookup_eq`); so the last scope
reads a type back from how it was written (`spell_read`). -/
namespace SpellOut

/-- The name of the member that the text `word` leads to. -/
def Name.member (owner : Name) (word : String) : Name := ofText (owner.text ++ "." ++ word)

@[simp]
theorem Name.member_last (owner : Name) (last : Segment) :
    owner.member last.text = qualified owner last := ofText_text (qualified owner last)

theorem Name.eq_qualified {type owner : Name} (h : type.owner? = some owner) :
    type = qualified owner type.last := by
  cases type with
  | simple last => cases h
  | qualified direct last =>
    cases h
    rfl

theorem Name.text_of_unowned {type : Name} (h : type.owner? = none) :
    ofText type.last.text = type := by
  cases type with
  | simple last => exact ofText_text (simple last)
  | qualified owner last => cases h

/-- The owner whose types the declaration brings into sight, if it does. -/
def Import.demanded? : Import → Option Name
  | single _ => none
  | onDemand owner => some owner

theorem Import.nodup_demanded {imports : List Import} (h : imports.Nodup) :
    (imports.filterMap demanded?).Nodup := by
  refine List.pairwise_filterMap.mpr (h.imp ?_)
  intro i j hij a ha b hb hab
  cases i with
  | single type => cases ha
  | onDemand owner =>
    cases j with
    | single type => cases hb
    | onDemand other =>
      cases ha
      cases hb
      exact hij (congrArg _ hab)

namespace Scope

variable (known : Name → Prop) [DecidablePred known]

/-! ### Looking up a simple name -/

/-- The owners imported on demand. -/
def demanded (s : Scope) : List Name := s.imports.filterMap Import.demanded?

/-- The owners whose known types a simple name finds: the own package, those imported on demand,
and the root package. -/
def Searches (s : Scope) (owner : Name) : Prop :=
  s.package = some owner ∨ .onDemand owner ∈ s.imports ∨ owner = rootPackage

instance (s : Scope) (owner : Name) : Decidable (s.Searches owner) := by
  unfold Searches
  infer_instance

/-- What an import binds the simple name to. -/
def namedType? (s : Scope) (word : String) : Option Name := (s.binders word).head?.map Import.name

/-- The known type of the own package. -/
def ownType? (s : Scope) (word : String) : Option Name :=
  (s.package.map (·.member word)).filter fun type => known type

/-- The known type that exactly one of the owners imported on demand has. -/
def demandedType? (s : Scope) (word : String) : Option Name :=
  match s.demanded.filter fun owner => known (owner.member word) with
  | [owner] => some (owner.member word)
  | _ => none

/-- The known type of the root package. -/
def rootType? (word : String) : Option Name :=
  (some (rootPackage.member word)).filter fun type => known type

/-- What each level makes of a simple name, the first level first. -/
def levels (s : Scope) (word : String) : List (Option Name) :=
  [s.namedType? word, s.ownType? known word, s.demandedType? known word, rootType? known word]

/-- What a simple name stands for. -/
def lookup (s : Scope) (word : String) : Name :=
  ((s.levels known word).findSome? id).getD (.ofText word)

/-- What a spelling stands for. -/
def read (s : Scope) : Spelling → Name
  | .short word => s.lookup known word
  | .full text => .ofText text
  | .within outer path => (s.lookup known outer).member path

/-! ### Names without a rival -/

/-- The simple name of `type` leads to no other type: no import binds it to one, and no owner that
is searched has a known one. -/
structure Unrivalled (s : Scope) (type : Name) : Prop where
  unbound : ∀ i ∈ s.binders type.last.text, i = .single type
  unknown : ∀ owner, s.Searches owner → known (owner.member type.last.text) →
    owner.member type.last.text = type

variable {known}

omit [DecidablePred known] in
theorem Unrivalled.owner_eq {s : Scope} {type owner other : Name} (h : s.Unrivalled known type)
    (howner : type.owner? = some owner) (hsearch : s.Searches other)
    (hknown : known (other.member type.last.text)) : other = owner := by
  have heq := h.unknown other hsearch hknown
  rw [Name.member_last, Name.eq_qualified howner] at heq
  injection heq

theorem mem_demanded {s : Scope} {owner : Name} :
    owner ∈ s.demanded ↔ .onDemand owner ∈ s.imports := by
  unfold demanded
  rw [List.mem_filterMap]
  constructor
  · intro h
    obtain ⟨i, hi, heq⟩ := h
    cases i with
    | single type => cases heq
    | onDemand other =>
      cases heq
      exact hi
  · exact fun h => ⟨.onDemand owner, h, rfl⟩

/-- No level makes a wrong hit. -/
theorem Unrivalled.eq_of_level {s : Scope} {type found : Name} (h : s.Unrivalled known type)
    (hfound : some found ∈ s.levels known type.last.text) : found = type := by
  simp only [levels, List.mem_cons, List.not_mem_nil, or_false] at hfound
  rcases hfound with hnamed | hown | hdemanded | hroot
  · obtain ⟨i, hi, hname⟩ := Option.map_eq_some_iff.mp hnamed.symm
    rw [← hname, h.unbound i (List.mem_of_mem_head? hi)]
    rfl
  · obtain ⟨hmember, hknown⟩ := Option.filter_eq_some_iff.mp hown.symm
    obtain ⟨owner, hpackage, rfl⟩ := Option.map_eq_some_iff.mp hmember
    exact h.unknown owner (.inl hpackage) (of_decide_eq_true hknown)
  · unfold demandedType? at hdemanded
    split at hdemanded
    · next owner hfilter =>
      cases hdemanded
      have hmem : owner ∈ s.demanded.filter fun owner => known (owner.member type.last.text) := by
        rw [hfilter]
        exact List.mem_cons_self
      obtain ⟨hdemand, hknown⟩ := List.mem_filter.mp hmem
      exact h.unknown owner (.inr (.inl (mem_demanded.mp hdemand))) (of_decide_eq_true hknown)
    · cases hdemanded
  · obtain ⟨hmember, hknown⟩ := Option.filter_eq_some_iff.mp hroot.symm
    cases hmember
    exact h.unknown rootPackage (.inr (.inr rfl)) (of_decide_eq_true hknown)

/-- One owner imported on demand has the type, and no other has one of its simple name. -/
theorem Unrivalled.demandedType?_eq {s : Scope} {type owner : Name} (h : s.Unrivalled known type)
    (hnodup : s.demanded.Nodup) (htype : known type) (howner : type.owner? = some owner)
    (hdemand : .onDemand owner ∈ s.imports) :
    s.demandedType? known type.last.text = some type := by
  have hmember : owner.member type.last.text = type := by
    rw [Name.member_last, ← Name.eq_qualified howner]
  have hperm : (s.demanded.filter fun o => known (o.member type.last.text)).Perm [owner] := by
    refine (List.perm_ext_iff_of_nodup (hnodup.filter _) (List.pairwise_singleton _ owner)).mpr
      fun other => ?_
    rw [List.mem_filter, List.mem_singleton, decide_eq_true_iff]
    constructor
    · intro hother
      obtain ⟨hdemanded, hknown⟩ := hother
      exact h.owner_eq howner (.inr (.inl (mem_demanded.mp hdemanded))) hknown
    · intro heq
      subst heq
      exact ⟨mem_demanded.mpr hdemand, hmember.symm ▸ htype⟩
  unfold demandedType?
  rw [List.perm_singleton.mp hperm]
  exact congrArg some hmember

/-- A known type in sight without a rival is what its simple name stands for. -/
theorem Unrivalled.lookup_eq {s : Scope} {type : Name} (h : s.Unrivalled known type)
    (hnodup : s.demanded.Nodup) (htype : known type) (hsight : s.InSight type) :
    s.lookup known type.last.text = type := by
  -- some level hits the type, or it has no owner and its simple name is all there is to it
  have hhit : some type ∈ s.levels known type.last.text ∨ .ofText type.last.text = type := by
    cases hsight with
    | root hroot =>
      have howner : type.owner? = some rootPackage := by
        simpa [Name.inRootPackage] using hroot
      refine .inl ?_
      have hlevel : rootType? known type.last.text = some type := by
        refine Option.filter_eq_some_iff.mpr ⟨?_, decide_eq_true htype⟩
        rw [Name.member_last, ← Name.eq_qualified howner]
      simp [levels, hlevel]
    | unowned hnone => exact .inr (Name.text_of_unowned hnone)
    | @ownPackage owner howner hpackage =>
      refine .inl ?_
      have hlevel : s.ownType? known type.last.text = some type := by
        refine Option.filter_eq_some_iff.mpr ⟨?_, decide_eq_true htype⟩
        rw [hpackage, Option.map_some, Name.member_last, ← Name.eq_qualified howner]
      simp [levels, hlevel]
    | onDemand howner hdemand =>
      refine .inl ?_
      simp [levels, h.demandedType?_eq hnodup htype howner hdemand]
    | byName hbinders =>
      refine .inl ?_
      have hlevel : s.namedType? type.last.text = some type := by
        simp [namedType?, hbinders, Import.name]
      simp [levels, hlevel]
  unfold lookup
  cases hfirst : (s.levels known type.last.text).findSome? id with
  | some found =>
    obtain ⟨level, hlevel, heq⟩ := List.exists_of_findSome?_eq_some hfirst
    cases heq
    exact h.eq_of_level hlevel
  | none =>
    rcases hhit with hmem | htext
    · cases List.findSome?_eq_none_iff.mp hfirst _ hmem
    · exact htext

/-! ### Names without collisions -/

/-- The names can be written in the scope and found again: they are known, no two of them share a
simple name, no simple name is bound twice, and none of theirs leads elsewhere, by an import or into
an owner that is searched. -/
structure CollisionFree (s : Scope) (known : Name → Prop) (names : List Name) : Prop where
  all_known : ∀ type ∈ names, known type
  apart : ∀ type ∈ names, ∀ other ∈ names, other.last = type.last → other = type
  unambiguous : s.Unambiguous
  unbound : ∀ type ∈ names, ∀ i ∈ s.binders type.last.text, i = .single type
  unknown : ∀ type ∈ names, ∀ other owner, known other → other.last = type.last →
    other.owner? = some owner → s.Searches owner → other = type

theorem mem_of_mem_spellAll {s : Scope} {names : List Name} {type : Name} {spelling : Spelling}
    (h : (type, spelling) ∈ s.spellAll names) : type ∈ names := by
  induction names generalizing s with
  | nil => cases h
  | cons name rest ih =>
    rcases List.mem_cons.mp h with heq | h
    · cases heq
      exact List.mem_cons_self
    · exact List.mem_cons_of_mem _ (ih h)

theorem searches_mentionAll {s : Scope} {names : List Name} {owner : Name} :
    (s.mentionAll names).Searches owner ↔ s.Searches owner := by
  unfold Searches
  rw [package_mentionAll, onDemand_mem_mentionAll]

theorem demanded_mentionAll (s : Scope) (names : List Name) :
    (s.mentionAll names).demanded = s.demanded := by
  obtain ⟨more, himports, _⟩ := imports_mentionAll s names
  have hmore : (more.map Import.single).filterMap Import.demanded? = [] := by
    refine List.filterMap_eq_nil_iff.mpr fun i hi => ?_
    obtain ⟨type, _, rfl⟩ := List.mem_map.mp hi
    rfl
  unfold demanded
  rw [himports, List.filterMap_append, hmore, List.append_nil]

omit [DecidablePred known] in
/-- The imports that are added for the names bring no rival to any of them. -/
theorem CollisionFree.unrivalled {s : Scope} {names : List Name} (h : s.CollisionFree known names)
    {type : Name} (htype : type ∈ names) : (s.mentionAll names).Unrivalled known type := by
  refine ⟨fun i hi => ?_, fun owner hsearch hknown => ?_⟩
  · obtain ⟨other, rfl, himport, hlast⟩ := mem_binders.mp hi
    rcases single_mem_mentionAll himport with hbefore | ⟨_, hwritten⟩
    · exact h.unbound type htype _ (mem_binders.mpr ⟨other, rfl, hbefore, hlast⟩)
    · exact congrArg _
        (h.apart type htype other (mem_of_mem_spellAll hwritten) (Segment.text_inj.mp hlast))
  · refine h.unknown type htype _ owner hknown ?_ ?_ (searches_mentionAll.mp hsearch)
    · rw [Name.member_last]
      rfl
    · rw [Name.member_last]
      rfl

/-- An owner that is imported by name is what its simple name stands for. -/
theorem lookup_of_binders {s : Scope} {owner : Name}
    (h : s.binders owner.last.text = [.single owner]) : s.lookup known owner.last.text = owner := by
  have hlevel : s.namedType? owner.last.text = some owner := by
    simp [namedType?, h, Import.name]
  simp [lookup, levels, hlevel]

/-- Each name is read back from its spelling in the scope that is left in the end. -/
theorem CollisionFree.read_spelling {s : Scope} {names : List Name}
    (h : s.CollisionFree known names) (hnodup : s.demanded.Nodup) {type : Name}
    {spelling : Spelling} (hmem : (type, spelling) ∈ s.spellAll names) :
    (s.mentionAll names).read known spelling = type := by
  have htype := mem_of_mem_spellAll hmem
  cases justified_of_mem_spellAll h.unambiguous hmem with
  | short _ hsight =>
    exact (h.unrivalled htype).lookup_eq (demanded_mentionAll s names ▸ hnodup)
      (h.all_known type htype) hsight
  | full => exact Name.ofText_text type
  | within htext hbinders =>
    show ((s.mentionAll names).lookup known _).member _ = type
    rw [lookup_of_binders hbinders, Name.member, ← htext, Name.ofText_text]

end Scope

/-! ### Reading a type back -/

namespace SpelledType

mutual

/-- The type that is read where the written one stands: each name is what its spelling stands
for. -/
def read (known : Name → Prop) [DecidablePred known] (s : Scope) : SpelledType → ResolvedType
  | primitive word => .primitive word
  | array component => .array (component.read known s)
  | reference _ spelling arguments =>
    .reference (s.read known spelling) (readAll known s arguments)
  | wildcard bound => .wildcard (bound.read known s)
  | typeVariable name => .typeVariable name
  | raw text => .raw text

def readAll (known : Name → Prop) [DecidablePred known] (s : Scope) :
    List SpelledType → List ResolvedType
  | [] => []
  | first :: rest => first.read known s :: readAll known s rest

end

variable {known : Name → Prop} [DecidablePred known] {s : Scope}

mutual

/-- A type whose names are all read back is read back. -/
theorem read_eq_unspelled {e : SpelledType}
    (h : ∀ name spelling, (name, spelling) ∈ e.references → s.read known spelling = name) :
    e.read known s = e.unspelled := by
  cases e with
  | primitive word => rfl
  | array component => rw [read, unspelled, read_eq_unspelled (e := component) h]
  | reference name spelling arguments =>
    have hname := h name spelling List.mem_cons_self
    have harguments := readAll_eq_unspelledAll fun name spelling hm =>
      h name spelling (List.mem_cons_of_mem _ hm)
    rw [read, unspelled, hname, harguments]
  | wildcard bound => rw [read, unspelled, read_eq_unspelled (e := bound) h]
  | typeVariable name => rfl
  | raw text => rfl

theorem readAll_eq_unspelledAll {es : List SpelledType}
    (h : ∀ name spelling, (name, spelling) ∈ referencesIn es → s.read known spelling = name) :
    readAll known s es = unspelledAll es := by
  cases es with
  | nil => rfl
  | cons first rest =>
    have hfirst := read_eq_unspelled fun name spelling hm =>
      h name spelling (List.mem_append_left _ hm)
    have hrest := readAll_eq_unspelledAll fun name spelling hm =>
      h name spelling (List.mem_append_right _ hm)
    rw [readAll, unspelledAll, hfirst, hrest]

end

end SpelledType

/-- **What is written is read back.** If the references of a type collide with nothing that the file
imports or that is known where it looks, then the imports of the file and those that writing adds
read each reference, and so the whole type, back from how it was written. -/
theorem ResolvedType.spell_read {cap : Nat} {type : ResolvedType} {site : NodeId}
    {package : Option Name} {imports : List Import} {e : SpelledType} {d : Draft}
    {known : Name → Prop} [DecidablePred known]
    (hfree : (Scope.ofFile site package imports).CollisionFree known type.references)
    (h : type.spell cap (.ofScope (.ofFile site package imports)) = (.ok e, d)) :
    (∀ name spelling, (name, spelling) ∈ e.references → d.scope.read known spelling = name) ∧
      e.read known d.scope = type.trimmed := by
  obtain ⟨hshape, hreferences, hscope⟩ := spell_written h
  have hnodup : (Scope.ofFile site package imports).demanded.Nodup := by
    refine Import.nodup_demanded ?_
    simpa [Scope.imports, Scope.ofFile] using
      Scope.nodup_declared_ofFile site package imports
  have hread : ∀ name spelling, (name, spelling) ∈ e.references →
      d.scope.read known spelling = name := by
    intro name spelling hmem
    rw [hscope]
    exact hfree.read_spelling hnodup (hreferences ▸ hmem)
  exact ⟨hread, (SpelledType.read_eq_unspelled hread).trans hshape⟩

/-- The entries are read back among the three types in them and two that they leave alone. -/
theorem ResolvedType.entries_read : ∃ e d,
    entries.spell 32 (.ofScope entriesScope) = (.ok e, d) ∧ e.text = "Map<Key, Map.Entry>" ∧
      e.read (· ∈ ["a.Map", "a.Map.Entry", "c.Key", "b.Key", "app.Entries"].map Name.ofText)
        d.scope = entries.trimmed := by
  have hrun : entries.spellsTo 32 entriesScope (fun e _ => e.text == "Map<Key, Map.Entry>") =
      true := by
    decide +kernel
  obtain ⟨e, d, h, htext⟩ := exists_of_spellsTo hrun
  have halike : ∀ type ∈ entries.references,
      ∀ other ∈ ["a.Map", "a.Map.Entry", "c.Key", "b.Key", "app.Entries"].map Name.ofText,
        other.last = type.last → other = type ∨ other.owner? = some (.ofText "b") := by
    decide +kernel
  have hunsearched : ¬ entriesScope.Searches (.ofText "b") := by
    decide +kernel
  refine ⟨e, d, h, beq_iff_eq.mp htext, (spell_read ⟨?_, ?_, ?_, ?_, ?_⟩ h).2⟩
  · decide +kernel
  · decide +kernel
  · decide +kernel
  · decide +kernel
  · intro type htype other owner hknown hlast howner hsearch
    rcases halike type htype other hknown hlast with heq | hother
    · exact heq
    · cases howner.symm.trans hother
      exact absurd hsearch hunsearched

end SpellOut
