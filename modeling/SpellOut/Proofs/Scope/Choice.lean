import SpellOut.Proofs.Owners
import SpellOut.Proofs.Scope.Justified

/-! How any text is spelled, be it a sensible name or not.

Names are told apart at their dots, so of any text it can be said how it is spelled: in full, after
its last dot, or from a dot on that an imported name leads up to. Which of these it is depends on the
text and on the imports in sight alone (`spell_choice`): `$` in the text comes before all else, then
an import of what stands before a dot, the longest one, and only then the simple name. Whichever it
is, what is written is the text or the end of it after one of its dots, and nothing changes in the
scope unless the simple name is written. -/
namespace SpellOut

/-- The end of the text is all of it, or all that follows one of its dots. -/
def EndsIn (text tail : String) : Prop := text = tail ∨ ∃ lead, text = lead ++ "." ++ tail

theorem EndsIn.extend {text tail : String} (h : EndsIn text tail) (path : String) :
    EndsIn (text ++ "." ++ path) (tail ++ "." ++ path) := by
  rcases h with rfl | ⟨lead, rfl⟩
  · exact .inl rfl
  · exact .inr ⟨lead, by simp only [String.append_assoc]⟩

/-- A name ends in its simple name. -/
theorem Name.endsIn_last (n : Name) : EndsIn n.text n.last.text := by
  cases n with
  | simple last => exact .inl rfl
  | qualified owner last => exact .inr ⟨owner.text, rfl⟩

namespace Scope

/-- What is written of a name is the end of it. -/
theorem endsIn_spell (s : Scope) (name : Name) : EndsIn name.text (s.spell name).text := by
  rcases s.spell_cases name with h | ⟨owner, path, hnearest, h⟩ | ⟨-, -, h⟩
  · rw [h]
    exact .inl rfl
  · obtain ⟨-, htext⟩ := Name.text_of_nearestOwner? hnearest
    rw [h, htext]
    exact owner.endsIn_last.extend path
  · rw [h]
    exact name.endsIn_last

/-- A name that is not written short changes nothing. -/
theorem mention_of_not_short {s : Scope} {name : Name} (h : (s.spell name).isShort = false) :
    s.mention name = s := by
  rw [mention, if_neg (by simp [h])]

/-- What may be shortened may be shortened still once its import was asked for. -/
theorem mayShorten_mention {s : Scope} {name : Name} (hmarked : name.isMarked = false)
    (hmay : s.mayShorten name.last.text name = true) :
    (s.mention name).mayShorten name.last.text name = true := by
  rcases s.mention_cases name with h | ⟨-, -, h⟩
  · rw [h]
    exact hmay
  · have hnamed : (s.mention name).importsType name = true := by
      rw [importsType_iff, h]
      simp [imports]
    simp [mayShorten, hmarked, hnamed]

/-! ### The choice -/

/-- The text is `lead`, a dot and `path`, where `lead` is imported by name, and nothing longer that
stands before a dot is. -/
structure LongestImported (s : Scope) (text lead path : String) : Prop where
  split : text = lead ++ "." ++ path
  imported : .single (.ofText lead) ∈ s.imports
  longest : ∀ other rest, text = other ++ "." ++ rest → .single (.ofText other) ∈ s.imports →
    other.length ≤ lead.length

/-- Nothing that stands before a dot of the text is imported by name. -/
def NoneImported (s : Scope) (text : String) : Prop :=
  ∀ lead path, text = lead ++ "." ++ path → .single (.ofText lead) ∉ s.imports

/-- How a text is spelled in a scope, and the scope afterwards. -/
inductive Choice (s : Scope) (text : String) : Spelling → Scope → Prop where
  | marked (h : '$' ∈ text.toList) : Choice s text (.full text) s
  | within {lead path : String} (hmark : '$' ∉ text.toList)
      (h : s.LongestImported text lead path) :
      Choice s text (.within (Name.ofText lead).last.text path) s
  | full (hmark : '$' ∉ text.toList) (h : s.NoneImported text) : Choice s text (.full text) s
  /-- The simple name may stand for the text in the scope afterwards, which has its import at most
  beside those of before. -/
  | short {t : Scope} (hmark : '$' ∉ text.toList) (h : s.NoneImported text)
      (hscope : t = s ∨ t = { s with staged := s.staged ++ [.ofText text] })
      (hmay : t.mayShorten (Name.ofText text).last.text (.ofText text) = true) :
      Choice s text (.short (Name.ofText text).last.text) t

/-- What leads up to a dot of a text is an owner of the name with that text. -/
theorem ofText_mem_owners_iff {text lead : String} :
    Name.ofText lead ∈ (Name.ofText text).owners ↔ ∃ path, text = lead ++ "." ++ path := by
  rw [Name.mem_owners_iff, Name.text_ofText, Name.text_ofText]

theorem longestImported_of_nearestOwner? {s : Scope} {text path : String} {owner : Name}
    (h : (Name.ofText text).nearestOwner? s.importsType = some (owner, path)) :
    s.LongestImported text owner.text path where
  split := by
    have htext := (Name.text_of_nearestOwner? h).2
    rwa [Name.text_ofText] at htext
  imported := by
    rw [Name.ofText_text, ← importsType_iff]
    exact (Name.text_of_nearestOwner? h).1
  longest other rest htext hother := by
    have howner := ofText_mem_owners_iff.mpr ⟨rest, htext⟩
    have hlength :=
      Name.length_text_le_of_nearestOwner? h howner (importsType_iff.mpr hother)
    rwa [Name.text_ofText] at hlength

theorem noneImported_of_nearestOwner? {s : Scope} {text : String}
    (h : (Name.ofText text).nearestOwner? s.importsType = none) : s.NoneImported text := by
  intro lead path htext hlead
  have hnot := Name.nearestOwner?_eq_none_iff.mp h _ (ofText_mem_owners_iff.mpr ⟨path, htext⟩)
  rw [importsType_iff.mpr hlead] at hnot
  cases hnot

/-- A spelling that is not short is chosen without a change to the scope. -/
theorem Choice.of_not_short {s : Scope} {text : String} {spelling : Spelling}
    (h : Choice s text spelling s) (hspell : s.spell (.ofText text) = spelling)
    (hshort : spelling.isShort = false) :
    Choice s text (s.spell (.ofText text)) (s.mention (.ofText text)) := by
  subst hspell
  rwa [mention_of_not_short hshort]

/-- **The spelling of any text, and what it does to the scope.** What is written is the text or its
end after a dot. A text with `$` is written in full, any other below the longest imported name that
leads up to a dot of it, even if it is imported itself or of the root package; if there is none,
it is written in full or by its simple name, which may stand for it afterwards. Only this last
spelling changes the scope, and by nothing but the import of the text. -/
theorem spell_choice (s : Scope) (text : String) :
    EndsIn text (s.spell (.ofText text)).text ∧
      Choice s text (s.spell (.ofText text)) (s.mention (.ofText text)) := by
  have hends := s.endsIn_spell (.ofText text)
  rw [Name.text_ofText] at hends
  refine ⟨hends, ?_⟩
  have hmarks : (Name.ofText text).isMarked = text.toList.contains '$' := by
    rw [Name.isMarked, Name.text_ofText]
  cases hmarked : (Name.ofText text).isMarked with
  | true =>
    have hmark : '$' ∈ text.toList := List.contains_iff_mem.mp (hmarks ▸ hmarked)
    exact (Choice.marked hmark).of_not_short (by simp [spell, hmarked]) rfl
  | false =>
    have hmark : '$' ∉ text.toList := by simpa [hmarks] using hmarked
    cases hnearest : (Name.ofText text).nearestOwner? s.importsType with
    | some found =>
      obtain ⟨owner, path⟩ := found
      have hwithin := Choice.within hmark (longestImported_of_nearestOwner? hnearest)
      rw [Name.ofText_text] at hwithin
      exact hwithin.of_not_short (by simp [spell, hmarked, hnearest]) rfl
    | none =>
      have hnone := noneImported_of_nearestOwner? hnearest
      cases hmay : s.mayShorten (Name.ofText text).last.text (.ofText text) with
      | false =>
        exact (Choice.full hmark hnone).of_not_short (by simp [spell, hmarked, hnearest, hmay]) rfl
      | true =>
        have hspell : s.spell (.ofText text) = .short (Name.ofText text).last.text := by
          simp [spell, hmarked, hnearest, hmay]
        rw [hspell]
        refine .short hmark hnone ?_ (mayShorten_mention hmarked hmay)
        exact (s.mention_cases (.ofText text)).imp_right fun h => h.2.2

/-- A type that is imported itself is still written below its owner, and parts may be empty. -/
example :
    let s := Scope.ofFile 1 none [.single (.ofText "a.Map"), .single (.ofText "a.Map.Entry"),
      .single (.ofText "")]
    s.spell (.ofText "a.Map.Entry") = .within "Map" "Entry" ∧
      s.spell (.ofText "a.Map.Entry.Key") = .within "Entry" "Key" ∧
      s.spell (.ofText ".b.") = .within "" "b." ∧ s.spell (.ofText "a.Map$") = .full "a.Map$" := by
  decide +kernel

end Scope

end SpellOut
