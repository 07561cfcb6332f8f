import SpellOut.Event
import SpellOut.Proofs.Scope.Wanted
import SpellOut.Proofs.Visited

/-! What is noted while a type is written.

A name takes the note of its spelling, and before it the note of its import if it asks for that
(`Scope.notesAt`). So the notes of a walk are settled by the names that it comes to, and so are the
events that tell of them: one for each name, one for each import that is asked for, and that of an
asked import right before that of its name (`Told`). Events of one walk after the other tell of the
names of both (`Told.append`), which is what carries this from a name to a type. -/
namespace SpellOut

/-! ### Reading events -/

namespace Event

/-- The first field of that name. -/
def value? (e : Event) (field : String) : Option String := e.fields.lookup field

/-- Whether that is the message of the event. -/
def hasMessage (e : Event) (message : String) : Bool := e.value? "message" == some message

end Event

/-- What events tell of names that were written at a site, each with its spelling, and of those that
were staged for it. -/
structure Told (site : NodeId) (spelled : List (Name × Spelling)) (staged : List Name)
    (events : List Event) : Prop where
  traces : ∀ e ∈ events, e.level = .trace
  kinds : ∀ e ∈ events,
    e.hasMessage "chose rendering" = true ∨ e.hasMessage "staged import" = true
  spellings : (events.filter (·.hasMessage "chose rendering")).map Event.fields =
    spelled.map fun (type, spelling) =>
      [("message", "chose rendering"), ("site", toString site), ("qualified", type.text),
       ("rendering", spelling.text)]
  imports : (events.filter (·.hasMessage "staged import")).map Event.fields =
    staged.map fun type =>
      [("message", "staged import"), ("site", toString site), ("import", type.text)]
  /-- After the event of an import comes that of the same name. -/
  followed : ∀ before e after, events = before ++ e :: after →
    e.hasMessage "staged import" = true →
    ∃ next rest, after = next :: rest ∧ next.hasMessage "chose rendering" = true ∧
      next.value? "qualified" = e.value? "import"

namespace Told

variable {site : NodeId} {a b : List Event} {sa sb : List (Name × Spelling)} {ta tb : List Name}

theorem nil (site : NodeId) : Told site [] [] [] where
  traces := by simp
  kinds := by simp
  spellings := rfl
  imports := rfl
  followed := by simp

theorem append (ha : Told site sa ta a) (hb : Told site sb tb b) :
    Told site (sa ++ sb) (ta ++ tb) (a ++ b) where
  traces := List.forall_mem_append.mpr ⟨ha.traces, hb.traces⟩
  kinds := List.forall_mem_append.mpr ⟨ha.kinds, hb.kinds⟩
  spellings := by
    rw [List.filter_append, List.map_append, List.map_append, ha.spellings, hb.spellings]
  imports := by rw [List.filter_append, List.map_append, List.map_append, ha.imports, hb.imports]
  followed := by
    intro before e after heq hmessage
    rcases List.append_eq_append_iff.mp heq with ⟨lead, -, hb'⟩ | ⟨tail, ha', htail⟩
    · exact hb.followed lead e after hb' hmessage
    · cases tail with
      | nil => exact hb.followed [] e after htail.symm hmessage
      | cons first tail =>
        -- the event stands in the first part, and so does the one after it
        obtain ⟨rfl, rfl⟩ := List.cons.inj htail
        obtain ⟨next, rest, rfl, hnext⟩ := ha.followed before e tail ha' hmessage
        exact ⟨next, rest ++ b, rfl, hnext⟩

theorem spelled (site : NodeId) (type : Name) (spelling : Spelling) :
    Told site [(type, spelling)] [] [.note (.spelled site type spelling)] where
  traces := by simp [Event.level]
  kinds := by simp [Event.hasMessage, Event.value?, Event.fields]
  spellings := rfl
  imports := rfl
  followed := by
    intro before e after heq hmessage
    cases before with
    | nil =>
      cases heq
      cases hmessage
    | cons first before => simp at heq

theorem staged (site : NodeId) (type : Name) (spelling : Spelling) :
    Told site [(type, spelling)] [type]
      [.note (.staged site type), .note (.spelled site type spelling)] where
  traces := by simp [Event.level]
  kinds := by simp [Event.hasMessage, Event.value?, Event.fields]
  spellings := rfl
  imports := rfl
  followed := by
    intro before e after heq hmessage
    cases before with
    | nil =>
      cases heq
      exact ⟨_, [], rfl, rfl, rfl⟩
    | cons first before =>
      -- the other event tells of no import
      obtain ⟨-, hrest⟩ := List.cons.inj heq
      exact (Told.spelled site type spelling).followed before e after hrest hmessage

end Told

/-! ### The notes of names -/

namespace Scope

/-- The notes that writing a name takes. -/
def notesAt (s : Scope) (name : Name) : List Note :=
  (if s.wants name then [.staged s.site name] else []) ++ [.spelled s.site name (s.spell name)]

/-- The notes that writing names takes, one after the other. -/
def notesOf (s : Scope) : List Name → List Note
  | [] => []
  | name :: rest => s.notesAt name ++ (s.mention name).notesOf rest

/-- The names that are staged for names while they are written. -/
def stagedFor (s : Scope) : List Name → List Name
  | [] => []
  | name :: rest => (if s.wants name then [name] else []) ++ (s.mention name).stagedFor rest

theorem staged_mentionAll_eq_stagedFor (s : Scope) (names : List Name) :
    (s.mentionAll names).staged = s.staged ++ s.stagedFor names := by
  induction names generalizing s with
  | nil => simp [stagedFor]
  | cons name rest ih =>
    rw [mentionAll_cons, ih, stagedFor, ← List.append_assoc]
    congr 1
    rw [mention_eq]

@[simp]
theorem site_mention (s : Scope) (name : Name) : (s.mention name).site = s.site := by
  rw [mention_eq]

/-- A name that is staged is noted so right before its spelling is. -/
theorem notesAt_told (s : Scope) (name : Name) :
    Told s.site [(name, s.spell name)] (if s.wants name then [name] else [])
      ((s.notesAt name).map .note) := by
  unfold notesAt
  cases s.wants name with
  | false => exact .spelled s.site name (s.spell name)
  | true => exact .staged s.site name (s.spell name)

theorem notesOf_told (s : Scope) (names : List Name) :
    Told s.site (s.spellAll names) (s.stagedFor names) ((s.notesOf names).map .note) := by
  induction names generalizing s with
  | nil => exact .nil s.site
  | cons name rest ih =>
    have hrest := ih (s.mention name)
    rw [site_mention] at hrest
    rw [notesOf, List.map_append]
    exact (s.notesAt_told name).append hrest

end Scope

namespace Draft

theorem notes_write (d : Draft) (name : Name) :
    (d.write name).notes = d.notes ++ d.scope.notesAt name := by
  unfold write mention provide Scope.notesAt Scope.wants
  cases (d.scope.spell name).isShort <;> cases d.scope.needsImport name <;> simp

theorem notes_writeAll (d : Draft) (names : List Name) :
    (d.writeAll names).notes = d.notes ++ d.scope.notesOf names := by
  induction names generalizing d with
  | nil => simp [Scope.notesOf, writeAll]
  | cons name rest ih =>
    have hwrite : (d.writeAll (name :: rest)).notes = ((d.write name).writeAll rest).notes := rfl
    rw [hwrite, ih, notes_write, List.append_assoc]
    rfl

end Draft

/-! ### The notes of a type -/

namespace ResolvedType

open TypeNode

mutual

/-- A walk without a flaw comes to all the names of the type. -/
theorem names_nodesAt {cap depth : Nat} {place : Place} {type : ResolvedType}
    (h : (type.nodesAt depth place).findSome? (TypeNode.flaw? cap) = none) :
    TypeNode.names cap (type.nodesAt depth place) = type.references := by
  obtain ⟨rest, hnodes⟩ := exists_nodesAt_eq_cons depth place type
  have hroot : TypeNode.flaw? cap ⟨depth, place, type⟩ = none := by
    rw [hnodes, List.findSome?_eq_none_iff] at h
    exact h _ List.mem_cons_self
  cases type with
  | primitive word => rw [nodesAt, names_cons hroot]; rfl
  | array component =>
    rw [nodesAt, List.findSome?_cons, hroot] at h
    rw [nodesAt, names_cons hroot, names_nodesAt h]
    rfl
  | reference name arguments =>
    rw [nodesAt, List.findSome?_cons, hroot] at h
    rw [nodesAt, names_cons hroot, names_nodesIn h, name?, hroot]
    rfl
  | wildcard bound =>
    rw [nodesAt, List.findSome?_cons, hroot] at h
    rw [nodesAt, names_cons hroot, names_nodesAt h]
    rfl
  | typeVariable name => rw [nodesAt, names_cons hroot]; rfl
  | raw text => rw [nodesAt, names_cons hroot]; rfl

theorem names_nodesIn {cap depth : Nat} {types : List ResolvedType}
    (h : (nodesIn depth types).findSome? (TypeNode.flaw? cap) = none) :
    TypeNode.names cap (nodesIn depth types) = referencesIn types := by
  cases types with
  | nil => rfl
  | cons first rest =>
    rw [nodesIn, List.findSome?_append, Option.or_eq_none_iff] at h
    rw [nodesIn, names_append, h.1, names_nodesAt h.1, names_nodesIn h.2]
    rfl

end

/-- What the walk over a type notes, whether it gets through or ends early: notes that tell of the
names it came to. If it gets through, those are the names in the type that is written. -/
structure Noted (type : ResolvedType) (cap : Nat) (d : Draft) : Prop where
  told : ∃ notes staged, (type.spell cap d).2.notes = d.notes ++ notes ∧
    (type.spell cap d).2.scope.staged = d.scope.staged ++ staged ∧
    Told d.scope.site (d.scope.spellAll (type.reached cap)) staged (notes.map .note)
  whole : ∀ e, (type.spell cap d).1 = .ok e → e.references = d.scope.spellAll (type.reached cap)

theorem spell_noted (type : ResolvedType) (cap : Nat) (d : Draft) : type.Noted cap d where
  told := by
    have hdraft : (type.spell cap d).2 = d.writeAll (type.reached cap) :=
      spellAt_names cap 0 .whole type d
    refine ⟨d.scope.notesOf (type.reached cap), d.scope.stagedFor (type.reached cap),
      ?_, ?_, ?_⟩
    · rw [hdraft, Draft.notes_writeAll]
    · rw [hdraft, Draft.scope_writeAll, Scope.staged_mentionAll_eq_stagedFor]
    · exact d.scope.notesOf_told (type.reached cap)
  whole := by
    intro e he
    have hnoflaw : (type.nodesAt 0 .whole).findSome? (TypeNode.flaw? cap) = none := by
      rw [← spellAt_reported cap 0 .whole type d]
      show reported? (type.spell cap d).1 = none
      rw [he, reported?]
    have w : Written type d e (type.spell cap d).2 := spellAt_written (Prod.ext he rfl)
    have hreached : type.reached cap = type.references := names_nodesAt hnoflaw
    rw [w.references, hreached]

end ResolvedType

end SpellOut
