/-! Sets of characters, as lists of code point ranges.

A property of characters that a standard defines by enumeration is kept as data: the ranges it
covers, with both ends included, in increasing order. `Ranges.has` is the only reader. -/
namespace SpellOut.CharClass

/-- Ranges of code points in increasing order, each given by its first and its last. -/
abbrev Ranges := List (Nat × Nat)

/-- Whether `n` lies in one of the ranges. The order makes the first range that starts beyond `n`
the last one worth a look. -/
def Ranges.has : Ranges → Nat → Bool
  | [], _ => false
  | (first, last) :: rest, n => decide (first ≤ n) && (decide (n ≤ last) || Ranges.has rest n)

/-- What the search finds is in a range. -/
theorem Ranges.exists_of_has {table : Ranges} {n : Nat} (h : table.has n = true) :
    ∃ range ∈ table, range.1 ≤ n ∧ n ≤ range.2 := by
  induction table with
  | nil => simp [has] at h
  | cons range rest ih =>
    obtain ⟨first, last⟩ := range
    simp only [has, Bool.and_eq_true, Bool.or_eq_true, decide_eq_true_eq] at h
    obtain ⟨hfirst, hlast | hrest⟩ := h
    · exact ⟨(first, last), List.mem_cons_self, hfirst, hlast⟩
    · obtain ⟨found, hmem, hin⟩ := ih hrest
      exact ⟨found, List.mem_cons_of_mem _ hmem, hin⟩

end SpellOut.CharClass
