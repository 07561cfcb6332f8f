import SpellOut.Name

/-! The owners of a name, direct or not.

They are what a dot and a path complete to the name (`mem_owners_iff`). A search for the nearest
owner looks at them and at no other name. -/
namespace SpellOut.Name

/-- The owners of the name, direct or not, the nearest one first. -/
def owners : Name → List Name
  | simple _ => []
  | qualified owner _ => owner :: owner.owners

/-- The name that a path leads to from an owner. -/
def descend (owner : Name) : Name → Name
  | simple last => qualified owner last
  | qualified path last => qualified (owner.descend path) last

theorem text_descend (owner path : Name) :
    (owner.descend path).text = owner.text ++ "." ++ path.text := by
  induction path with
  | simple last => rfl
  | qualified path last ih => simp only [descend, text, ih, String.append_assoc]

theorem mem_owners_descend (owner path : Name) : owner ∈ (owner.descend path).owners := by
  induction path with
  | simple last => exact List.mem_cons_self
  | qualified path last ih => exact List.mem_cons_of_mem _ ih

/-- The owners of a name are what a dot and a path complete to it. -/
theorem mem_owners_iff {owner name : Name} :
    owner ∈ name.owners ↔ ∃ path, name.text = owner.text ++ "." ++ path := by
  constructor
  · intro h
    induction name with
    | simple last => cases h
    | qualified direct last ih =>
      rcases List.mem_cons.mp h with rfl | h
      · exact ⟨last.text, rfl⟩
      · obtain ⟨path, hpath⟩ := ih h
        exact ⟨path ++ "." ++ last.text, by simp only [text, hpath, String.append_assoc]⟩
  · intro h
    obtain ⟨path, hpath⟩ := h
    have hname : name = owner.descend (ofText path) := by
      rw [← text_inj, text_descend, text_ofText, hpath]
    rw [hname]
    exact mem_owners_descend owner _

/-- The nearest owner depends on what is said of the owners, and of no other name. -/
theorem nearestOwner?_congr {p q : Name → Bool} {name : Name}
    (h : ∀ owner ∈ name.owners, p owner = q owner) :
    name.nearestOwner? p = name.nearestOwner? q := by
  induction name with
  | simple last => rfl
  | qualified direct last ih =>
    obtain ⟨hdirect, hfar⟩ := List.forall_mem_cons.mp h
    rw [nearestOwner?, nearestOwner?, hdirect, ih hfar]

theorem nearestOwner?_eq_none_iff {p : Name → Bool} {name : Name} :
    name.nearestOwner? p = none ↔ ∀ owner ∈ name.owners, p owner = false := by
  induction name with
  | simple last => simp [nearestOwner?, owners]
  | qualified direct last ih =>
    rw [nearestOwner?, owners, List.forall_mem_cons, ← ih]
    cases p direct <;> simp

theorem length_text_lt_of_mem_owners {owner name : Name} (h : owner ∈ name.owners) :
    owner.text.length < name.text.length := by
  obtain ⟨path, hpath⟩ := mem_owners_iff.mp h
  rw [hpath, String.length_append, String.length_append]
  have hdot : ".".length = 1 := rfl
  omega

/-- Of the owners with the property, the one that is found has the longest text. -/
theorem length_text_le_of_nearestOwner? {p : Name → Bool} {name found : Name} {path : String}
    (h : name.nearestOwner? p = some (found, path)) {owner : Name} (howner : owner ∈ name.owners)
    (hp : p owner = true) : owner.text.length ≤ found.text.length := by
  induction name generalizing path with
  | simple last => cases howner
  | qualified direct last ih =>
    rw [nearestOwner?] at h
    split at h
    · cases h
      rcases List.mem_cons.mp howner with rfl | howner
      · exact Nat.le_refl _
      · exact Nat.le_of_lt (length_text_lt_of_mem_owners howner)
    · next hdirect =>
      obtain ⟨⟨_, _⟩, hfound, heq⟩ := Option.map_eq_some_iff.mp h
      cases heq
      rcases List.mem_cons.mp howner with rfl | howner
      · exact absurd hp hdirect
      · exact ih hfound howner

end SpellOut.Name
