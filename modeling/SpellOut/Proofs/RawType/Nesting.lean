import SpellOut.Proofs.RawType.Accepted

/-! How deep the words of a type lie.

The level of a word can be told from the tokens before it, with nothing derived: a list that is open
adds a level, and so does a question mark, up to where its argument ends. Brackets add none. What is
derived under one cap is derived under another exactly if no word lies deeper than that
(`Derives.within`, `Derives.of_within`). So for a text that is a type under some cap, it is a matter
of its words alone which other caps it is a type under (`accepts_iff_within`). -/
namespace SpellOut.RawType

/-- A place between two tokens: its level, and the levels of the types whose lists are open there,
the innermost first. -/
structure Spot where
  level : Nat
  outer : List Nat

namespace Spot

/-- Where a token leads. -/
def next (s : Spot) : Token → Spot
  | .mark .less => ⟨s.level + 1, s.level :: s.outer⟩
  | .mark .greater => ⟨s.outer.headD 0, s.outer.tail⟩
  | .mark .comma => ⟨s.outer.headD 0 + 1, s.outer⟩
  | .mark .question => ⟨s.level + 1, s.outer⟩
  | _ => s

/-- Where tokens lead, one after the other. -/
def after (s : Spot) (tokens : List Token) : Spot := tokens.foldl next s

@[simp]
theorem after_nil (s : Spot) : s.after [] = s := rfl

@[simp]
theorem after_cons (s : Spot) (token : Token) (rest : List Token) :
    s.after (token :: rest) = (s.next token).after rest := rfl

@[simp]
theorem after_append (s : Spot) (a b : List Token) : s.after (a ++ b) = (s.after a).after b :=
  List.foldl_append

@[simp]
theorem after_brackets (s : Spot) (k : Nat) : s.after (brackets k) = s := by
  induction k with
  | zero => rfl
  | succ k ih => exact ih

end Spot

/-- No word of the tokens lies deeper than `cap`, read from a place on. -/
def Within (cap : Nat) : Spot → List Token → Prop
  | _, [] => True
  | s, .word _ :: rest => s.level ≤ cap ∧ Within cap s rest
  | s, .mark m :: rest => Within cap (s.next (.mark m)) rest

section Within
variable {cap : Nat}

theorem within_append (s : Spot) (a b : List Token) :
    Within cap s (a ++ b) ↔ Within cap s a ∧ Within cap (s.after a) b := by
  induction a generalizing s with
  | nil => simp [Within]
  | cons token rest ih =>
    cases token with
    | word text => simp only [List.cons_append, Within, ih, and_assoc]; rfl
    | mark m => exact ih (s.next (.mark m))

theorem within_brackets (s : Spot) (k : Nat) : Within cap s (brackets k) := by
  induction k with
  | zero => trivial
  | succ k ih => exact ih

end Within

namespace Derives

variable {cap level : Nat} {symbol : Symbol} {tokens : List Token}

/-- The lists that are open stay so: what a symbol opens it closes. -/
theorem outer_after (h : Derives cap symbol level tokens) (s : Spot) :
    (s.after tokens).outer = s.outer := by
  induction h generalizing s with
  | primitive _ _ k => simp [Spot.next]
  | classType _ _ k ih => simp [ih]
  | reference _ _ ih => exact ih s
  | last _ _ ih => exact ih s
  | dot _ _ _ ih ihrest => simp [Spot.next, ih, ihrest]
  | noArguments => rfl
  | arguments _ ih => simp [Spot.next, ih]
  | single _ ih => exact ih s
  | comma _ _ ih ihrest => simp [Spot.next, ih, ihrest]
  | unbounded => rfl
  | bounded _ _ ih => simp [Spot.next, ih]
  | plain _ ih => exact ih s

/-- Behind arguments the level is again that of the type they belong to. -/
theorem after_arguments (h : Derives cap .arguments level tokens) (s : Spot) :
    s.after tokens = s := by
  cases h with
  | noArguments => rfl
  | arguments h => simp [Spot.next, h.outer_after]

theorem level_le (h : Derives cap .reference level tokens) : level ≤ cap := by
  cases h with
  | reference h _ => cases h <;> assumption

/-- No word lies deeper than the cap under which the tokens are derived. A list is read within its
type; and that a chain itself lies no deeper is a matter of the type that it makes up. -/
theorem within (h : Derives cap symbol level tokens) {outer : List Nat}
    (hchain : symbol = .chain → level ≤ cap) (hlist : symbol = .list → outer.headD 0 + 1 = level) :
    Within cap ⟨level, outer⟩ tokens := by
  induction h generalizing outer with
  | primitive hlevel _ k => exact ⟨hlevel, within_brackets _ k⟩
  | classType hlevel _ k ih =>
    exact (within_append _ _ _).mpr ⟨ih (fun _ => hlevel) nofun, within_brackets _ k⟩
  | reference _ _ ih => exact ih nofun nofun
  | last _ _ ih => exact ⟨hchain rfl, ih nofun nofun⟩
  | dot _ h _ ih ihrest =>
    refine ⟨hchain rfl, (within_append _ _ _).mpr ⟨ih nofun nofun, ?_⟩⟩
    rw [h.after_arguments]
    exact ihrest hchain nofun
  | noArguments => trivial
  | arguments _ ih => exact (within_append _ _ _).mpr ⟨ih nofun fun _ => rfl, trivial⟩
  | single _ ih => exact ih nofun nofun
  | @comma level tokens rest h _ ih ihrest =>
    refine (within_append _ _ _).mpr ⟨ih nofun nofun, ?_⟩
    simp only [Within, Spot.next, h.outer_after, hlist rfl]
    exact ihrest nofun hlist
  | unbounded => trivial
  | bounded _ h ih => exact ⟨h.level_le, ih nofun nofun⟩
  | plain _ ih => exact ih nofun nofun

/-- What is derived under some cap is derived under every cap that no word lies deeper than. -/
theorem of_within (h : Derives cap symbol level tokens) {cap' : Nat} {outer : List Nat}
    (hlist : symbol = .list → outer.headD 0 + 1 = level)
    (hwithin : Within cap' ⟨level, outer⟩ tokens) : Derives cap' symbol level tokens := by
  induction h generalizing outer with
  | primitive _ hword k => exact .primitive hwithin.1 hword k
  | classType _ h k ih =>
    have hchain := ((within_append _ _ _).mp hwithin).1
    obtain ⟨name, more, rfl, -⟩ := h.exists_name
    exact .classType hchain.1 (ih nofun hchain) k
  | reference _ hbare ih => exact .reference (ih nofun hwithin) hbare
  | last hname _ ih => exact .last hname (ih nofun hwithin.2)
  | dot hname h _ ih ihrest =>
    obtain ⟨harguments, hrest⟩ := (within_append _ _ _).mp hwithin.2
    rw [h.after_arguments] at hrest
    exact .dot hname (ih nofun harguments) (ihrest nofun hrest)
  | noArguments => exact .noArguments
  | arguments _ ih => exact .arguments (ih (fun _ => rfl) ((within_append _ _ _).mp hwithin).1)
  | single _ ih => exact .single (ih nofun hwithin)
  | comma h _ ih ihrest =>
    obtain ⟨hargument, hrest⟩ := (within_append _ _ _).mp hwithin
    simp only [Within, Spot.next, h.outer_after, hlist rfl] at hrest
    exact .comma (ih nofun hargument) (ihrest hlist hrest)
  | unbounded => exact .unbounded
  | bounded hword _ ih => exact .bounded hword (ih nofun hwithin.2)
  | plain _ ih => exact .plain (ih nofun hwithin)

end Derives

/-- A text that is a type under some cap is one under another exactly if no word lies deeper. -/
theorem accepts_iff_within {cap cap' : Nat} {text : String} {tokens : List Token}
    (hlexed : Lexed text.toList tokens) (h : accepts cap text = true) :
    accepts cap' text = true ↔ Within cap' ⟨0, []⟩ tokens := by
  rw [accepts_of_lexed hlexed, isType_iff] at h ⊢
  exact ⟨fun h' => h'.within nofun nofun, h.of_within nofun⟩

end SpellOut.RawType
