import SpellOut.Proofs.Scope.Growth

/-! Every spelling is justified by the scope that is left in the end.

A name is spelled in the scope of its own moment, and later names still add imports to it. That does
no harm: what lets a simple name stand for a type, or an owner lead a path to it, holds on in every
scope that writing goes on to (`Justified.mentionAll`). So a whole type can be read in its last
scope (`spell_justified`). -/
namespace SpellOut

/-- What is found of an owner is one of the name's owners, and the path goes from it to the name. -/
theorem Name.text_of_nearestOwner? {p : Name → Bool} {type owner : Name} {path : String}
    (h : type.nearestOwner? p = some (owner, path)) :
    p owner = true ∧ type.text = owner.text ++ "." ++ path := by
  induction type generalizing path with
  | simple last => cases h
  | qualified direct last ih =>
    unfold nearestOwner? at h
    split at h
    · next hp =>
      cases h
      exact ⟨hp, rfl⟩
    · obtain ⟨⟨found, rest⟩, hfound, heq⟩ := Option.map_eq_some_iff.mp h
      cases heq
      obtain ⟨hp, htext⟩ := ih hfound
      refine ⟨hp, ?_⟩
      rw [text, htext]
      simp only [String.append_assoc]

namespace Scope

/-- What lets the simple name of a type stand for it: being of the root package, having no owner,
being of the file's own package, or an import, which has to be the only one of that simple name if
it is by name. -/
inductive InSight (s : Scope) (type : Name) : Prop where
  | root (h : type.inRootPackage = true)
  | unowned (h : type.owner? = none)
  | ownPackage {owner : Name} (h : type.owner? = some owner) (hp : s.package = some owner)
  | onDemand {owner : Name} (h : type.owner? = some owner) (hi : .onDemand owner ∈ s.imports)
  | byName (h : s.binders type.last.text = [.single type])

/-- What a spelling has to be, to be read as the type it is to stand for. -/
inductive Justified (s : Scope) (type : Name) : Spelling → Prop where
  | short (hm : type.isMarked = false) (h : s.InSight type) :
      Justified s type (.short type.last.text)
  | full : Justified s type (.full type.text)
  | within {owner : Name} {path : String} (ht : type.text = owner.text ++ "." ++ path)
      (h : s.binders owner.last.text = [.single owner]) :
      Justified s type (.within owner.last.text path)

/-- A type that may be shortened is in sight, or will be once its import is there. -/
theorem inSight_or_needsImport {s : Scope} (hs : s.Unambiguous) {type : Name}
    (h : s.mayShorten type.last.text type = true) : s.InSight type ∨ s.needsImport type = true := by
  unfold mayShorten at h
  by_cases hroot : type.inRootPackage = true
  · exact .inl (.root hroot)
  by_cases hnamed : s.importsType type = true
  · exact .inl (.byName (hs.binders_eq (importsType_iff.mp hnamed)))
  cases howner : type.owner? with
  | none => exact .inl (.unowned howner)
  | some owner =>
    by_cases hdemand : s.importsOnDemand owner = true
    · exact .inl (.onDemand howner (importsOnDemand_iff.mp hdemand))
    by_cases hpackage : s.package = some owner
    · exact .inl (.ownPackage howner hpackage)
    -- nothing provides the type, and its simple name is free: only then is an import asked for
    refine .inr (needsImport_iff.mpr ⟨owner, howner, ?_, hpackage, ?_, ?_⟩)
    · intro he
      exact hroot (by simp [Name.inRootPackage, howner, he])
    · exact fun hd => hdemand (importsOnDemand_iff.mpr hd)
    · intro other ho hlast
      have hother : other ≠ type := fun he => hnamed (importsType_iff.mpr (he ▸ ho))
      have hbinds : s.bindsOther type.last.text type = true := by
        unfold bindsOther
        refine List.any_eq_true.mpr ⟨.single other, ho, ?_⟩
        simp [hother, hlast]
      simp [hroot, hnamed, howner, hdemand, hbinds] at h

/-- What is in sight stays in sight, as long as no simple name gets bound twice. -/
theorem InSight.mentionAll {s : Scope} {type : Name} (h : s.InSight type) (names : List Name)
    (hs : (s.mentionAll names).Unambiguous) : (s.mentionAll names).InSight type := by
  cases h with
  | root h => exact .root h
  | unowned h => exact .unowned h
  | ownPackage h hp => exact .ownPackage h (by rw [package_mentionAll, hp])
  | onDemand h hi => exact .onDemand h (mem_mentionAll hi names)
  | byName h =>
    have hmem : .single type ∈ s.binders type.last.text := by
      rw [h]
      exact List.mem_cons_self
    obtain ⟨_, heq, hi, _⟩ := mem_binders.mp hmem
    cases heq
    exact .byName (hs.binders_eq (mem_mentionAll hi names))

theorem Justified.mentionAll {s : Scope} {type : Name} {spelling : Spelling}
    (h : s.Justified type spelling) (names : List Name) (hs : (s.mentionAll names).Unambiguous) :
    (s.mentionAll names).Justified type spelling := by
  cases h with
  | short hm h => exact .short hm (h.mentionAll names hs)
  | full => exact .full
  | @within owner path ht h =>
    have hmem : .single owner ∈ s.binders owner.last.text := by
      rw [h]
      exact List.mem_cons_self
    obtain ⟨_, heq, hi, _⟩ := mem_binders.mp hmem
    cases heq
    exact .within ht (hs.binders_eq (mem_mentionAll hi names))

/-- The scope after writing a name justifies how it was spelled. -/
theorem justified_mention {s : Scope} (hs : s.Unambiguous) (type : Name) :
    (s.mention type).Justified type (s.spell type) := by
  rcases spell_cases s type with hspell | ⟨owner, path, hnearest, hspell⟩ | ⟨hmarked, hmay, hspell⟩
  · rw [hspell]
    exact .full
  · rw [hspell]
    obtain ⟨himports, htext⟩ := Name.text_of_nearestOwner? hnearest
    exact .within htext
      ((hs.mention type).binders_eq (mem_mention (importsType_iff.mp himports) type))
  · rw [hspell]
    refine .short hmarked ?_
    rcases inSight_or_needsImport hs hmay with hin | hneeds
    · exact hin.mentionAll [type] (hs.mention type)
    · have hmention : s.mention type = { s with staged := s.staged ++ [type] } := by
        simp [mention, provide, isShort_iff.mpr hspell, hneeds]
      refine .byName ((hs.mention type).binders_eq ?_)
      rw [hmention]
      simp [imports]

/-- The scope that writing names leaves justifies the spelling of each. -/
theorem justified_of_mem_spellAll {s : Scope} (hs : s.Unambiguous) {names : List Name}
    {type : Name} {spelling : Spelling} (h : (type, spelling) ∈ s.spellAll names) :
    (s.mentionAll names).Justified type spelling := by
  induction names generalizing s with
  | nil => cases h
  | cons name rest ih =>
    rcases List.mem_cons.mp h with heq | h
    · cases heq
      exact (justified_mention hs type).mentionAll rest ((hs.mention type).mentionAll rest)
    · exact ih (hs.mention name) h

end Scope

/-- **Every spelling is justified by the final scope.** A type written in the scope of a file that
binds no simple name twice keeps its shape, names and texts, blanks around texts apart; and the
scope as it is afterwards, still of the same package, justifies the spelling of each reference. -/
theorem ResolvedType.spell_justified {cap : Nat} {type : ResolvedType} {site : NodeId}
    {package : Option Name} {imports : List Import} {e : SpelledType} {d : Draft}
    (hdistinct : (Scope.ofFile site package imports).Unambiguous)
    (h : type.spell cap (.ofScope (.ofFile site package imports)) = (.ok e, d)) :
    e.unspelled = type.trimmed ∧ d.scope.package = package ∧
      ∀ name spelling, (name, spelling) ∈ e.references → d.scope.Justified name spelling := by
  obtain ⟨hshape, hreferences, hscope⟩ := spell_written h
  refine ⟨hshape, ?_, fun name spelling hmem => ?_⟩
  · rw [hscope, Scope.package_mentionAll]
    rfl
  · rw [hscope]
    exact Scope.justified_of_mem_spellAll hdistinct (hreferences ▸ hmem)

/-- A map, imported by name, from keys, imported on demand, to its own entries. -/
def ResolvedType.entries : ResolvedType :=
  reference (.ofText "a.Map")
    [reference (.ofText "c.Key") [], reference (.ofText "a.Map.Entry") []]

def entriesScope : Scope :=
  .ofFile 1 (some (.ofText "app")) [.single (.ofText "a.Map"), .onDemand (.ofText "c")]

theorem ResolvedType.entries_justified : ∃ e d,
    entries.spell 32 (.ofScope entriesScope) = (.ok e, d) ∧ e.text = "Map<Key, Map.Entry>" ∧
      e.unspelled = entries.trimmed ∧ d.scope.package = some (.ofText "app") ∧
      ∀ name spelling, (name, spelling) ∈ e.references → d.scope.Justified name spelling := by
  have hrun : entries.spellsTo 32 entriesScope (fun e _ => e.text == "Map<Key, Map.Entry>") =
      true := by
    decide +kernel
  obtain ⟨e, d, h, htext⟩ := exists_of_spellsTo hrun
  have hdistinct : entriesScope.Unambiguous := by
    decide +kernel
  exact ⟨e, d, h, beq_iff_eq.mp htext, spell_justified hdistinct h⟩

end SpellOut
