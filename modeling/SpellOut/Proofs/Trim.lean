import SpellOut.CharClass.Blank

/-! What trimming leaves of a text.

Characters are tight if neither the first nor the last of them is a blank. Trimming cuts off the
blanks around tight characters and nothing else (`trim_around`), and what it leaves is tight unless
nothing is left (`tight_trim`). Whatever stands between two tight parts, the whole is tight. -/
namespace SpellOut.CharClass

/-- Characters that start and end with one that is no blank. -/
structure Tight (chars : List Char) : Prop where
  starts : ∃ c, chars.head? = some c ∧ isBlank c = false
  ends : ∃ c, chars.getLast? = some c ∧ isBlank c = false

namespace Tight

variable {chars first last : List Char}

theorem of_forall (hne : chars ≠ []) (h : ∀ c ∈ chars, isBlank c = false) : Tight chars where
  starts := ⟨chars.head hne, List.head?_eq_some_head hne, h _ (List.head_mem hne)⟩
  ends := ⟨chars.getLast hne, List.getLast?_eq_some_getLast hne, h _ (List.getLast_mem hne)⟩

/-- Tight parts make a tight whole, whatever stands between them. -/
theorem around (hfirst : Tight first) (between : List Char) (hlast : Tight last) :
    Tight (first ++ between ++ last) where
  starts := by
    obtain ⟨c, hc, hblank⟩ := hfirst.starts
    exact ⟨c, by simp [hc], hblank⟩
  ends := by
    obtain ⟨c, hc, hblank⟩ := hlast.ends
    exact ⟨c, by simp [hc], hblank⟩

theorem append (hfirst : Tight first) (hlast : Tight last) : Tight (first ++ last) := by
  simpa using hfirst.around [] hlast

theorem trimEnd_eq (h : Tight chars) : trimEnd chars = chars := by
  obtain ⟨c, hc, hblank⟩ := h.ends
  obtain ⟨lead, rfl⟩ := List.getLast?_eq_some_iff.mp hc
  simp [trimEnd, hblank]

end Tight

/-! ### What is cut off -/

theorem trimEnd_append_blanks (chars : List Char) {blanks : List Char}
    (h : ∀ c ∈ blanks, isBlank c = true) : trimEnd (chars ++ blanks) = trimEnd chars := by
  rw [trimEnd, List.reverse_append, List.dropWhile_append_of_pos, trimEnd]
  intro c hc
  exact h c (List.mem_reverse.mp hc)

/-- Blanks around tight characters are cut off. -/
theorem trim_around {before chars after : List Char} (hbefore : ∀ c ∈ before, isBlank c = true)
    (h : Tight chars) (hafter : ∀ c ∈ after, isBlank c = true) :
    trim (before ++ chars ++ after) = chars := by
  obtain ⟨c, hc, hblank⟩ := h.starts
  obtain ⟨rest, rfl⟩ := List.head?_eq_some_iff.mp hc
  rw [trim, List.append_assoc, List.dropWhile_append_of_pos hbefore, List.cons_append,
    List.dropWhile_cons_of_neg (by simp [hblank]), ← List.cons_append,
    trimEnd_append_blanks _ hafter, h.trimEnd_eq]

/-- Tight characters have nothing to be cut off. -/
theorem Tight.trim_eq {chars : List Char} (h : Tight chars) : trim chars = chars := by
  simpa using trim_around (List.forall_mem_nil _) h (List.forall_mem_nil _)

theorem trimBlanks_of_tight {text : String} (h : Tight text.toList) : trimBlanks text = text := by
  rw [trimBlanks, h.trim_eq, String.ofList_toList]

/-- The blanks that are cut off at the end. -/
theorem exists_trimEnd (chars : List Char) : ∃ blanks, chars = trimEnd chars ++ blanks ∧
    ∀ c ∈ blanks, isBlank c = true := by
  refine ⟨(chars.reverse.takeWhile isBlank).reverse, ?_, ?_⟩
  · rw [trimEnd, ← List.reverse_append, List.takeWhile_append_dropWhile, List.reverse_reverse]
  · intro c hc
    exact List.all_eq_true.mp List.all_takeWhile c (List.mem_reverse.mp hc)

theorem exists_dropWhile {chars : List Char} (h : ∃ c ∈ chars, isBlank c = false) :
    ∃ c rest, chars.dropWhile isBlank = c :: rest ∧ isBlank c = false := by
  induction chars with
  | nil => simp at h
  | cons first rest ih =>
    cases hfirst : isBlank first with
    | false => exact ⟨first, rest, List.dropWhile_cons_of_neg (by simp [hfirst]), hfirst⟩
    | true =>
      rw [List.dropWhile_cons_of_pos hfirst]
      exact ih (by simpa [hfirst] using h)

/-- What trimming leaves is tight, if there is anything but blanks. -/
theorem tight_trim {chars : List Char} (h : ∃ c ∈ chars, isBlank c = false) :
    Tight (trim chars) := by
  obtain ⟨first, rest, hdrop, hfirst⟩ := exists_dropWhile h
  have hreverse : ∃ c ∈ (first :: rest).reverse, isBlank c = false := ⟨first, by simp, hfirst⟩
  obtain ⟨last, lead, hdropEnd, hlast⟩ := exists_dropWhile hreverse
  have htrim : trim chars = lead.reverse ++ [last] := by
    rw [trim, hdrop, trimEnd, hdropEnd, List.reverse_cons]
  refine ⟨⟨first, ?_, hfirst⟩, ⟨last, by simp [htrim], hlast⟩⟩
  -- the blanks that are cut off at the end leave the first character where it is
  obtain ⟨blanks, heq, -⟩ := exists_trimEnd (first :: rest)
  rw [← hdrop, ← trim, hdrop] at heq
  cases hleft : trim chars with
  | nil => simp [htrim] at hleft
  | cons c more =>
    rw [hleft, List.cons_append] at heq
    injection heq with hc
    rw [hc, List.head?_cons]

end SpellOut.CharClass
