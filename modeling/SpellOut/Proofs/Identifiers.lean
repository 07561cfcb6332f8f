import SpellOut.Scope
import SpellOut.Word

/-! Names that are made of identifiers.

Every name that is written is made of identifiers, and so is the text it is written as: whichever of
the three spellings a name gets, that is the text of a name made of parts of it (`exists_of_spell`).
Names and words for primitive types never look alike: a word for a primitive type is reserved, and
it holds none of the marks that join names or go with them. -/
namespace SpellOut

/-! ### Words -/

/-- The text is a word: parts of words and nothing else, one of them at least. -/
structure IsWord (text : String) : Prop where
  ne_empty : text ≠ ""
  parts : ∀ c ∈ text.toList, Word.isPart c = true

namespace Word

theorem isPart_of_isStart {c : Char} (h : isStart c = true) : isPart c = true := by
  simp only [isStart, isPart, Bool.or_eq_true] at h ⊢
  rcases h with (h | h) | h <;> simp [h]

theorem isWord_of_isIdentifier {text : String} (h : isIdentifier text = true) : IsWord text := by
  unfold isIdentifier at h
  split at h
  · cases h
  · next first rest htext =>
    simp only [Bool.and_eq_true, List.all_eq_true] at h
    obtain ⟨⟨hstart, hrest⟩, -⟩ := h
    refine ⟨?_, fun c hc => ?_⟩
    · rintro rfl
      cases htext
    · rw [htext] at hc
      rcases List.mem_cons.mp hc with rfl | hc
      · exact isPart_of_isStart hstart
      · exact hrest c hc

theorem isWord_of_isPrimitive {text : String} (h : isPrimitive text = true) : IsWord text := by
  have htable : primitives.all (fun word => word != "" && word.toList.all isPart) = true := by
    decide +kernel
  have htext := List.all_eq_true.mp htable text (List.contains_iff_mem.mp h)
  simp only [Bool.and_eq_true, bne_iff_ne, List.all_eq_true] at htext
  exact ⟨htext.1, htext.2⟩

theorem isPrimitive_eq_false_of_isIdentifier {text : String} (h : isIdentifier text = true) :
    isPrimitive text = false := by
  cases hprimitive : isPrimitive text with
  | false => rfl
  | true =>
    rw [not_isIdentifier_of_isPrimitive hprimitive] at h
    cases h

/-- A text that holds anything but parts of words is no word for a primitive type. -/
theorem isPrimitive_eq_false_of_mem {text : String} {c : Char} (hc : c ∈ text.toList)
    (hpart : isPart c = false) : isPrimitive text = false := by
  cases hprimitive : isPrimitive text with
  | false => rfl
  | true =>
    rw [(isWord_of_isPrimitive hprimitive).parts c hc] at hpart
    cases hpart

end Word

/-! ### Names -/

namespace Name

/-- Every part of the name is an identifier. -/
def OfIdentifiers (n : Name) : Prop :=
  ∀ segment ∈ n.segments, Word.isIdentifier segment.text = true

instance (n : Name) : Decidable n.OfIdentifiers :=
  inferInstanceAs (Decidable (∀ segment ∈ n.segments, _))

theorem last_mem_segments (n : Name) : n.last ∈ n.segments := by
  cases n <;> simp [last, segments]

theorem OfIdentifiers.last {n : Name} (h : n.OfIdentifiers) :
    Word.isIdentifier n.last.text = true :=
  h n.last n.last_mem_segments

theorem OfIdentifiers.owner {owner : Name} {last : Segment}
    (h : (qualified owner last).OfIdentifiers) : owner.OfIdentifiers :=
  fun segment hs => h segment (List.mem_append_left _ hs)

/-- A simple name made of identifiers is no word for a primitive type, and a qualified one has a
dot. -/
theorem OfIdentifiers.isPrimitive_text {n : Name} (h : n.OfIdentifiers) :
    Word.isPrimitive n.text = false := by
  cases n with
  | simple last => exact Word.isPrimitive_eq_false_of_isIdentifier h.last
  | qualified owner last =>
    exact Word.isPrimitive_eq_false_of_mem (c := '.') (by simp [text]) (by decide +kernel)

/-- The path below an owner, led by the owner's simple name, is a name made of parts of the whole. -/
theorem exists_of_nearestOwner? {p : Name → Bool} {type owner : Name} {path : String}
    (h : type.nearestOwner? p = some (owner, path)) :
    ∃ n : Name, n.text = owner.last.text ++ "." ++ path ∧
      ∀ segment ∈ n.segments, segment ∈ type.segments := by
  induction type generalizing path with
  | simple last => cases h
  | qualified direct last ih =>
    unfold nearestOwner? at h
    split at h
    · cases h
      refine ⟨qualified (simple owner.last) last, rfl, fun segment hs => ?_⟩
      simp only [segments, List.cons_append, List.nil_append, List.mem_cons, List.not_mem_nil,
        or_false] at hs
      rcases hs with rfl | rfl
      · exact List.mem_append_left _ owner.last_mem_segments
      · exact List.mem_append_right _ List.mem_cons_self
    · obtain ⟨⟨found, rest⟩, hfound, heq⟩ := Option.map_eq_some_iff.mp h
      cases heq
      obtain ⟨n, htext, hsegments⟩ := ih hfound
      refine ⟨qualified n last, ?_, fun segment hs => ?_⟩
      · rw [text, htext]
        simp only [String.append_assoc]
      · rcases List.mem_append.mp hs with hs | hs
        · exact List.mem_append_left _ (hsegments segment hs)
        · exact List.mem_append_right _ hs

/-- What a name is written as is the text of a name that is made of identifiers too. -/
theorem OfIdentifiers.exists_of_spell {name : Name} (h : name.OfIdentifiers) (s : Scope) :
    ∃ n : Name, n.text = (s.spell name).text ∧ n.OfIdentifiers := by
  unfold Scope.spell
  split
  · exact ⟨name, rfl, h⟩
  · split
    · next owner path hnearest =>
      obtain ⟨n, htext, hsegments⟩ := exists_of_nearestOwner? hnearest
      exact ⟨n, htext, fun segment hs => h segment (hsegments segment hs)⟩
    · split
      · refine ⟨simple name.last, rfl, fun segment hs => ?_⟩
        rw [List.mem_singleton.mp hs]
        exact h.last
      · exact ⟨name, rfl, h⟩

end Name

end SpellOut
