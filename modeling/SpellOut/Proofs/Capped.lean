import SpellOut.Proofs.Legible
import SpellOut.Proofs.Raised
import SpellOut.Proofs.RawType.Nesting
import SpellOut.Proofs.RawType.Respelled

/-! What the cap asks of a type, and of the text that it is written as.

The walk over a type counts a level for every array, every argument and every bound. The readers of a
text count none for a pair of brackets. So the same type may nest deeper when it is described node by
node than when it is given as text: by as many levels as arrays add to it (`ResolvedType.nesting`). A
text is held to every cap as tightly as the type exactly if arrays add nothing
(`spell_text_capped_iff`). -/
namespace SpellOut

/-! ### How deep a type nests -/

namespace ResolvedType

mutual

/-- How many levels the deepest part of a type lies below it, where an array is worth `array` levels.
An argument lies one level below its type, and a bound one below its wildcard. -/
def nesting (array : Nat) : ResolvedType → Nat
  | .primitive _ => 0
  | .array component => component.nesting array + array
  | .reference _ arguments => nestingIn array arguments
  | .wildcard bound => bound.nesting array + 1
  | .typeVariable _ => 0
  | .raw _ => 0

/-- How many levels the deepest part of type arguments lies below the type that they belong to. -/
def nestingIn (array : Nat) : List ResolvedType → Nat
  | [] => 0
  | first :: rest => max (first.nesting array + 1) (nestingIn array rest)

end

mutual

theorem nesting_mono {k k' : Nat} (hk : k ≤ k') : ∀ type : ResolvedType,
    type.nesting k ≤ type.nesting k'
  | primitive _ => Nat.le_refl 0
  | array component => Nat.add_le_add (nesting_mono hk component) hk
  | reference _ arguments => nestingIn_mono hk arguments
  | wildcard bound => Nat.succ_le_succ (nesting_mono hk bound)
  | typeVariable _ => Nat.le_refl 0
  | raw _ => Nat.le_refl 0

theorem nestingIn_mono {k k' : Nat} (hk : k ≤ k') : ∀ types : List ResolvedType,
    nestingIn k types ≤ nestingIn k' types
  | [] => Nat.le_refl 0
  | first :: rest => by
    have hfirst := nesting_mono hk first
    have hrest := nestingIn_mono hk rest
    simp only [nestingIn]
    omega

end

/-! ### Node by node -/

mutual

/-- No node lies deeper than the cap if the deepest does not. -/
theorem depth_le_iff (cap depth : Nat) (place : Place) : ∀ type : ResolvedType,
    (∀ n ∈ type.nodesAt depth place, n.depth ≤ cap) ↔ depth + type.nesting 1 ≤ cap
  | primitive _ => by simp [nodesAt, nesting]
  | array component => by
    have ih := depth_le_iff cap (depth + 1) .component component
    simp only [nodesAt, nesting, List.forall_mem_cons, ih]
    omega
  | reference _ arguments => by
    have ih := depthIn_le_iff cap depth arguments
    simp only [nodesAt, nesting, List.forall_mem_cons, ih]
  | wildcard bound => by
    have ih := depth_le_iff cap (depth + 1) .bound bound
    simp only [nodesAt, nesting, List.forall_mem_cons, ih]
    omega
  | typeVariable _ => by simp [nodesAt, nesting]
  | raw _ => by simp [nodesAt, nesting]

theorem depthIn_le_iff (cap depth : Nat) : ∀ types : List ResolvedType,
    (depth ≤ cap ∧ ∀ n ∈ nodesIn (depth + 1) types, n.depth ≤ cap) ↔
      depth + nestingIn 1 types ≤ cap
  | [] => by simp [nodesIn, nestingIn]
  | first :: rest => by
    have hfirst := depth_le_iff cap (depth + 1) .argument first
    have hrest := depthIn_le_iff cap depth rest
    rw [nodesIn, List.forall_mem_append, hfirst, and_left_comm, hrest, nestingIn]
    omega

end

mutual

theorem isRaw_of_mem_nodesAt {n : TypeNode} {depth : Nat} {place : Place} :
    ∀ {type : ResolvedType}, type.isStructured = true → n ∈ type.nodesAt depth place →
      n.type.isRaw = false
  | primitive _, _, hn => by rw [List.mem_singleton.mp hn]; rfl
  | array component, h, hn => by
    rcases List.mem_cons.mp hn with rfl | hn
    · rfl
    · exact isRaw_of_mem_nodesAt (show component.isStructured = true from h) hn
  | reference _ _, h, hn => by
    rcases List.mem_cons.mp hn with rfl | hn
    · rfl
    · exact isRaw_of_mem_nodesIn h hn
  | wildcard bound, h, hn => by
    rcases List.mem_cons.mp hn with rfl | hn
    · rfl
    · exact isRaw_of_mem_nodesAt (show bound.isStructured = true from h) hn
  | typeVariable _, _, hn => by rw [List.mem_singleton.mp hn]; rfl

theorem isRaw_of_mem_nodesIn {n : TypeNode} {depth : Nat} :
    ∀ {types : List ResolvedType}, areStructured types = true → n ∈ nodesIn depth types →
      n.type.isRaw = false
  | _ :: _, h, hn => by
    obtain ⟨hfirst, hrest⟩ := Bool.and_eq_true_iff.mp h
    rcases List.mem_append.mp hn with hn | hn
    · exact isRaw_of_mem_nodesAt hfirst hn
    · exact isRaw_of_mem_nodesIn hrest hn

end

end ResolvedType

/-- Besides its depth, nothing that the cap has a say in is asked of a node that is no text. -/
theorem TypeNode.Fits.of_cap {cap cap' : Nat} {n : TypeNode} (h : n.Fits cap)
    (hraw : n.type.isRaw = false) : n.Fits cap' := by
  obtain ⟨depth, place, type⟩ := n
  cases type with
  | raw text => cases hraw
  | _ => exact h

namespace ResolvedType

theorem exists_ok_iff {cap : Nat} {type : ResolvedType} {d : Draft} :
    (∃ e, (type.spell cap d).1 = .ok e) ↔ ∀ n ∈ type.nodes, n.Sound cap := by
  have hwalk : reported? (type.spell cap d).1 = type.nodes.findSome? (TypeNode.flaw? cap) :=
    spellAt_reported cap 0 .whole type d
  have hok : (∃ e, (type.spell cap d).1 = .ok e) ↔ reported? (type.spell cap d).1 = none := by
    cases (type.spell cap d).1 <;> simp [reported?]
  simp only [hok, hwalk, List.findSome?_eq_none_iff, TypeNode.flaw?_eq_none_iff]

/-- Of a type without texts that can be written under some cap, it is a matter of its depth under
which others it can. -/
theorem exists_ok_iff_nesting {cap cap' : Nat} {type : ResolvedType} {d d' left : Draft}
    {e : SpelledType} (htype : type.isStructured = true) (h : type.spell cap d = (.ok e, left)) :
    (∃ x, (type.spell cap' d').1 = .ok x) ↔ type.nesting 1 ≤ cap' := by
  have hsound : ∀ n ∈ type.nodes, n.Sound cap := exists_ok_iff.mp ⟨e, by rw [h]⟩
  have hdepth := depth_le_iff cap' 0 .whole type
  rw [Nat.zero_add] at hdepth
  rw [exists_ok_iff, ← hdepth]
  refine ⟨fun hsound' n hn => (hsound' n hn).shallow, fun hshallow n hn => ⟨hshallow n hn, ?_⟩⟩
  exact (hsound n hn).fits.of_cap (isRaw_of_mem_nodesAt htype hn)

end ResolvedType

/-! ### As text -/

namespace RawType

/-- Tokens that open nothing that they do not close, and whose deepest word lies `height` levels
below the place from which they are read. -/
structure Spans (height : Nat) (tokens : List Token) : Prop where
  outer_after : ∀ s : Spot, (s.after tokens).outer = s.outer
  within_iff : ∀ (cap : Nat) (s : Spot), Within cap s tokens ↔ s.level + height ≤ cap

/-- The same of a list, where the height is counted from the type that the list belongs to. -/
structure ListSpans (height : Nat) (tokens : List Token) : Prop where
  outer_after : ∀ s : Spot, (s.after tokens).outer = s.outer
  within_iff : ∀ (cap level : Nat) (outer : List Nat),
    Within cap ⟨level + 1, level :: outer⟩ tokens ↔ level + height ≤ cap

variable {height : Nat} {tokens : List Token}

theorem Spans.word (text : String) : Spans 0 [.word text] :=
  ⟨fun _ => rfl, fun cap s => by simp [Within]⟩

theorem Spans.array (h : Spans height tokens) :
    Spans height (tokens ++ [.mark .leftBracket, .mark .rightBracket]) :=
  ⟨fun s => by simp [Spot.next, h.outer_after],
    fun cap s => by simp [within_append, Within, h.within_iff]⟩

theorem Spans.wildcard (h : Spans height tokens) :
    Spans (height + 1) (.mark .question :: .word "extends" :: tokens) := by
  refine ⟨fun s => by simp [Spot.next, h.outer_after], fun cap s => ?_⟩
  simp only [Within, Spot.next, h.within_iff]
  omega

theorem Spans.single (h : Spans height tokens) : ListSpans (height + 1) tokens := by
  refine ⟨h.outer_after, fun cap level outer => ?_⟩
  simp only [h.within_iff]
  omega

theorem Spans.comma (h : Spans height tokens) {heightRest : Nat} {rest : List Token}
    (hrest : ListSpans heightRest rest) :
    ListSpans (max (height + 1) heightRest) (tokens ++ .mark .comma :: rest) := by
  refine ⟨fun s => by simp [Spot.next, h.outer_after, hrest.outer_after], fun cap level outer => ?_⟩
  simp only [within_append, Within, Spot.next, h.outer_after, h.within_iff, List.headD_cons,
    hrest.within_iff]
  omega

theorem after_nameTokens (s : Spot) (n : Name) : s.after (nameTokens n) = s := by
  induction n with
  | simple last => rfl
  | qualified owner last ih => simp [nameTokens, Spot.next, ih]

theorem Spans.name (n : Name) : Spans 0 (nameTokens n) := by
  refine ⟨fun s => by rw [after_nameTokens], fun cap s => ?_⟩
  induction n with
  | simple last => simp [nameTokens, Within]
  | qualified owner last ih =>
    simp [nameTokens, within_append, after_nameTokens, Within, Spot.next, ih]

/-- A name with arguments after its last part. -/
theorem ListSpans.generic (h : ListSpans height tokens) (n : Name) :
    Spans height (nameTokens n ++ .mark .less :: (tokens ++ [.mark .greater])) := by
  refine ⟨fun s => by simp [after_nameTokens, Spot.next, h.outer_after], fun cap s => ?_⟩
  simp only [within_append, (Spans.name n).within_iff, after_nameTokens, Within, Spot.next,
    h.within_iff, and_true]
  omega

end RawType

namespace ResolvedType

open RawType

mutual

/-- The words of what a type is written as lie as deep as the type nests, if arrays do not count. -/
theorem SpelledAs.spans {cap depth : Nat} {place : Place} {type : ResolvedType} {e : SpelledType}
    (h : SpelledAs cap depth place type e) (htype : type.isStructured = true) :
    ∃ tokens, Lexed e.text.toList tokens ∧ Spans (type.nesting 0) tokens := by
  cases h with
  | primitive _ hword _ => exact ⟨_, .single (Word.isWord_of_isPrimitive hword), .word _⟩
  | array _ h =>
    obtain ⟨tokens, hlexed, hspans⟩ := h.spans htype
    exact ⟨_, hlexed.array, hspans.array⟩
  | @reference _ _ name arguments es _ hname s h =>
    obtain ⟨n, htext, hn⟩ := hname.exists_of_spell s
    cases h with
    | nil =>
      rw [SpelledType.text, ← htext]
      exact ⟨nameTokens n, lexed_name hn, .name n⟩
    | cons h hrest =>
      obtain ⟨hfirst, hlater⟩ := Bool.and_eq_true_iff.mp htype
      obtain ⟨taken, hlexed, hspans⟩ := h.spans hfirst
      obtain ⟨tokens, hlist, hspansList⟩ := hrest.spans hlater hlexed hspans
      refine ⟨_, ?_, hspansList.generic n⟩
      simpa [SpelledType.text, htext, String.append_assoc] using hlist.generic hn
  | wildcard _ h =>
    obtain ⟨tokens, hlexed, hspans⟩ := h.spans htype
    exact ⟨_, hlexed.wildcard, hspans.wildcard⟩
  | typeVariable _ hname => exact ⟨_, .single (Word.isWord_of_isIdentifier hname), .word _⟩
  | raw _ _ => cases htype

/-- Arguments after a text whose words reach down to a height make up a list with it. -/
theorem AllSpelledAs.spans {cap depth : Nat} {types : List ResolvedType} {es : List SpelledType}
    (h : AllSpelledAs cap depth types es) (htypes : areStructured types = true) {lead : String}
    {height : Nat} {taken : List Token} (hlexed : Lexed lead.toList taken)
    (hspans : Spans height taken) :
    ∃ tokens, Lexed (lead ++ SpelledType.textAfter es).toList tokens ∧
      ListSpans (max (height + 1) (nestingIn 0 types)) tokens := by
  cases h with
  | nil =>
    refine ⟨taken, by simpa [SpelledType.textAfter] using hlexed, ?_⟩
    simpa [nestingIn] using hspans.single
  | cons h hrest =>
    obtain ⟨hfirst, hlater⟩ := Bool.and_eq_true_iff.mp htypes
    obtain ⟨next, hnext, hspansNext⟩ := h.spans hfirst
    obtain ⟨tokens, hlist, hspansList⟩ := hrest.spans hlater hnext hspansNext
    exact ⟨_, hlexed.textAfter hlist, hspans.comma hspansList⟩

end

theorem isBareRaw_of_isStructured {type : ResolvedType} (h : type.isStructured = true) :
    type.isBareRaw = false := by
  cases type with
  | raw text => cases h
  | _ => rfl

mutual

/-- Where no part is a text, no text stands between angle brackets. -/
theorem isBareRaw_of_mem_enclosed {x : ResolvedType} : ∀ {type : ResolvedType},
    type.isStructured = true → x ∈ type.enclosed → x.isBareRaw = false
  | array component, h, hx =>
    isBareRaw_of_mem_enclosed (show component.isStructured = true from h) hx
  | reference _ _, h, hx => isBareRaw_of_mem_enclosedIn h hx
  | wildcard bound, h, hx => by
    rcases List.mem_cons.mp hx with rfl | hx
    · exact isBareRaw_of_isStructured h
    · exact isBareRaw_of_mem_enclosed (show bound.isStructured = true from h) hx

theorem isBareRaw_of_mem_enclosedIn {x : ResolvedType} : ∀ {types : List ResolvedType},
    areStructured types = true → x ∈ enclosedIn types → x.isBareRaw = false
  | _ :: _, h, hx => by
    obtain ⟨hfirst, hrest⟩ := Bool.and_eq_true_iff.mp h
    rcases List.mem_cons.mp hx with rfl | hx
    · exact isBareRaw_of_isStructured hfirst
    · rcases List.mem_append.mp hx with hx | hx
      · exact isBareRaw_of_mem_enclosed hfirst hx
      · exact isBareRaw_of_mem_enclosedIn hrest hx

end

theorem exists_ok_raw_iff {cap : Nat} {text : String} {d : Draft} :
    (∃ x, ((raw text).spell cap d).1 = .ok x) ↔ accepts cap text = true := by
  rw [exists_ok_iff, nodes, nodesAt, List.forall_mem_singleton]
  exact ⟨TypeNode.Sound.fits, fun h => ⟨Nat.zero_le cap, h⟩⟩

/-- Under which caps the text is accepted that such a type is written as, is a matter of how deep the
type lies without its arrays. -/
theorem exists_ok_text_iff {cap cap' : Nat} {type : ResolvedType} {d d' left : Draft}
    {e : SpelledType} (htype : type.isStructured = true) (h : type.spell cap d = (.ok e, left)) :
    (∃ x, ((raw e.text).spell cap' d').1 = .ok x) ↔ type.nesting 0 ≤ cap' := by
  have hspelled : SpelledAs cap 0 .whole type e := spellAt_spelledAs h
  obtain ⟨tokens, hlexed, hspans⟩ := hspelled.spans htype
  have hfits : Fits cap .type 0 e.text :=
    hspelled.fits (by simp) (fun _ hx => isBareRaw_of_mem_enclosed htype hx) (Nat.zero_le 0)
  have haccepts : accepts cap e.text = true := by
    obtain ⟨tokens', hlexed', hderives⟩ := hfits.derived
    rw [accepts_of_lexed hlexed', isType_iff]
    exact hderives
  have hdepth := hspans.within_iff cap' ⟨0, []⟩
  rw [Nat.zero_add] at hdepth
  rw [exists_ok_raw_iff, accepts_iff_within hlexed haccepts, hdepth]

/-! ### The two compared -/

/-- **A text is held to every cap as tightly as the type it says exactly if arrays add no depth.** A
type without texts can be written under the caps that it does not nest deeper than, every array
counted; the text that it is written as, under those that it does not nest deeper than with no array
counted. So the text passes wherever the type does, and the type wherever the text does if and only if
the two depths are the same. -/
theorem spell_text_capped_iff {cap : Nat} {type : ResolvedType} {d left : Draft} {e : SpelledType}
    (htype : type.isStructured = true) (h : type.spell cap d = (.ok e, left)) :
    (∀ cap' d', ((∃ x, (type.spell cap' d').1 = .ok x) ↔ type.nesting 1 ≤ cap') ∧
        ((∃ x, ((raw e.text).spell cap' d').1 = .ok x) ↔ type.nesting 0 ≤ cap')) ∧
      ((∀ cap' d₁ d₂, (∃ x, ((raw e.text).spell cap' d₁).1 = .ok x) →
          ∃ x, (type.spell cap' d₂).1 = .ok x) ↔
        type.nesting 1 = type.nesting 0) := by
  refine ⟨fun cap' d' => ⟨exists_ok_iff_nesting htype h, exists_ok_text_iff htype h⟩, ?_⟩
  simp only [exists_ok_iff_nesting htype h, exists_ok_text_iff htype h]
  constructor
  · intro hpass
    exact Nat.le_antisymm (hpass _ d d (Nat.le_refl _)) (nesting_mono (Nat.zero_le 1) type)
  · intro heq cap' _ _ hdepth
    exact heq ▸ hdepth

/-- A map whose values nest deeper than its keys, which are arrays. -/
def listsByIndices : ResolvedType :=
  reference (.ofText "java.util.Map")
    [array (primitive "int"), reference (.ofText "java.util.List")
      [reference (.ofText "java.lang.String") []]]

/-- Here the arrays lie no deeper than the rest, and the text tells the depth of the type. -/
theorem listsByIndices_capped : ∃ e left,
    listsByIndices.spell 2 (.ofScope (.ofFile 1 none [])) = (.ok e, left) ∧
      e.text = "Map<int[], List<String>>" ∧
      ∀ cap d₁ d₂, (∃ x, ((raw e.text).spell cap d₁).1 = .ok x) →
        ∃ x, (listsByIndices.spell cap d₂).1 = .ok x := by
  have hrun : listsByIndices.spellsTo 2 (.ofFile 1 none [])
      (fun e _ => e.text == "Map<int[], List<String>>") = true := by
    decide +kernel
  obtain ⟨e, left, h, htext⟩ := exists_of_spellsTo hrun
  exact ⟨e, left, h, beq_iff_eq.mp htext, (spell_text_capped_iff (by decide) h).2.mpr (by decide)⟩

def rows : ResolvedType := array (array (primitive "int"))

/-- Rows of numbers nest two levels deep, and their text not at all. Under a cap between the two the
text passes and the type is refused. -/
theorem rows_text_passes :
    let d := Draft.ofScope (.ofFile 1 (some (.ofText "app")) [])
    rows.isStructured = true ∧ ∃ e left, rows.spell 2 d = (.ok e, left) ∧ e.text = "int[][]" ∧
      (raw e.text).spell 1 d = (.ok (.raw "int[][]"), d) ∧
      rows.spell 1 d = (.error (.tooDeep 1), d) := by
  refine ⟨rfl, .array (.array (.primitive "int")), _, rfl, rfl, ?_, rfl⟩
  have haccepts : accepts 1 "int[][]" = true := by
    decide +kernel
  have htrim : CharClass.trimBlanks "int[][]" = "int[][]" := by
    decide +kernel
  show (raw "int[][]").spell 1 _ = _
  simp [spell, spellAt, flaw?, haccepts, htrim]

end ResolvedType

end SpellOut
