import SpellOut.Proofs.Scope.Usage
import SpellOut.Proofs.Scope.Wanted
import SpellOut.Proofs.Visited
import SpellOut.Proofs.Workspace

/-! Names that are settled.

To write a name is to settle whether its import is asked for. It may have been asked for, and then
its simple name is bound; or it was not wanted, and then it never will be, since a scope only gains
imports and all that is demanded of them is that some are missing (`Wanted.anti`). How the name is
spelled may change with the imports, but writing it again asks for nothing (`mention_of_settled`). So
a type whose names were all written before, in whatever uses of the scope, asks for no import; nor
does it in the scope of the file to which the imports asked for were added (`useAll_settled`). -/
namespace SpellOut

namespace Scope

/-- Writing the name asks for no import, now or in any scope that has more imports. -/
def Settled (s : Scope) (name : Name) : Prop := ¬ s.Wanted name

variable {s t : Scope} {name : Name}

theorem Settled.mono (h : s.Settled name) (hpackage : t.package = s.package)
    (himports : s.imports ⊆ t.imports) : t.Settled name :=
  fun hwanted => h (hwanted.anti hpackage himports)

/-- Writing a settled name changes nothing. -/
theorem mention_of_settled (h : s.Settled name) : s.mention name = s := by
  have hwants : s.wants name = false := by
    rw [Bool.eq_false_iff, Ne, wants_iff]
    exact h
  rw [mention_eq, hwants]
  simp

theorem mentionAll_of_settled {names : List Name} (h : ∀ name ∈ names, s.Settled name) :
    s.mentionAll names = s := by
  induction names with
  | nil => rfl
  | cons name rest ih =>
    obtain ⟨hname, hrest⟩ := List.forall_mem_cons.mp h
    rw [mentionAll_cons, mention_of_settled hname, ih hrest]

/-- A name that was written is settled: what it wanted then binds its simple name. -/
theorem settled_mention (s : Scope) (name : Name) : (s.mention name).Settled name := by
  cases hwants : s.wants name with
  | false =>
    have hsettled : s.Settled name := fun hwanted => by
      rw [wants_iff.mpr hwanted] at hwants
      cases hwants
    rw [mention_of_settled hsettled]
    exact hsettled
  | true =>
    intro hwanted
    have hbound : .single name ∈ (s.mention name).imports := by
      rw [imports_mention, hwants]
      simp
    exact hwanted.free name hbound rfl

theorem settled_mentionAll (s : Scope) {names : List Name} (h : name ∈ names) :
    (s.mentionAll names).Settled name := by
  induction names generalizing s with
  | nil => cases h
  | cons first rest ih =>
    rw [mentionAll_cons]
    rcases List.mem_cons.mp h with rfl | h
    · exact (s.settled_mention name).mono (package_mentionAll _ _) fun _ hi => mem_mentionAll hi rest
    · exact ih (s.mention first) h

/-- What is settled stays settled when imports are asked for. -/
theorem Settled.provideAll (h : s.Settled name) (types : List Name) :
    (s.provideAll types).Settled name :=
  h.mono (package_provideAll s types) fun _ hi => mem_provideAll hi types

end Scope

/-! ### Uses -/

/-- The names that a use writes. A type with a flaw has those before the flaw written. -/
def Use.names : Use → List Name
  | provide _ => []
  | mention name => [name]
  | spell cap type => type.reached cap

namespace Draft

theorem use_settled (d : Draft) (u : Use) {name : Name} (h : name ∈ u.names) :
    (d.use u).scope.Settled name := by
  cases u with
  | provide type => cases h
  | mention other =>
    rw [List.mem_singleton.mp h, use, scope_mention]
    exact d.scope.settled_mention other
  | spell cap type =>
    rw [use, ResolvedType.spell, ResolvedType.spellAt_names, scope_writeAll]
    exact d.scope.settled_mentionAll h

/-- The names that were written are settled. -/
theorem settled_of_mem_names (d : Draft) (uses : List Use) {name : Name}
    (h : name ∈ uses.flatMap Use.names) : (d.useAll uses).scope.Settled name := by
  induction uses generalizing d with
  | nil => cases h
  | cons u rest ih =>
    rw [List.flatMap_cons] at h
    rcases List.mem_append.mp h with hfirst | hrest
    · obtain ⟨types, htypes⟩ := (d.use u).useAll_provideAll rest
      have hscope : (d.useAll (u :: rest)).scope = (d.use u).scope.provideAll types := htypes
      rw [hscope]
      exact (d.use_settled u hfirst).provideAll types
    · exact ih (d.use u) hrest

end Draft

namespace ResolvedType

/-- Writing a type whose names are all settled changes nothing in the scope. -/
theorem spell_of_settled {type : ResolvedType} {d : Draft}
    (h : ∀ name ∈ type.references, d.scope.Settled name) (cap : Nat) :
    (type.spell cap d).2.scope = d.scope := by
  obtain ⟨names, hnames, hend⟩ := spellAt_writeAll cap 0 .whole type d
  rw [spell, hend, Draft.scope_writeAll]
  exact Scope.mentionAll_of_settled fun name hname => h name (hnames.subset hname)

end ResolvedType

/-- **No name asks for its import twice.** After any uses of a draft, writing a name asks for no more
imports if a use among them wrote it. Nor does a type, whether it can be written or has a flaw, if
all names in it were written before: neither there, nor in the scope of a file that the imports
asked for were added to. -/
theorem Draft.useAll_settled (d : Draft) (uses : List Use) :
    let e := d.useAll uses
    (∀ name ∈ uses.flatMap Use.names, (e.use (.mention name)).scope = e.scope) ∧
      ∀ type : ResolvedType, type.references ⊆ uses.flatMap Use.names → ∀ cap : Nat,
        (e.use (.spell cap type)).scope = e.scope ∧
          ∀ (f : SourceFile) (site : NodeId), f.package = d.scope.package →
            d.scope.declared ⊆ f.imports →
            let g := f.declareAll e.scope.staged
            ((ofScope (.ofFile site g.package g.imports)).use (.spell cap type)).scope.staged =
              [] := by
  intro e
  have hsettled : ∀ name ∈ uses.flatMap Use.names, e.scope.Settled name := fun name hname =>
    d.settled_of_mem_names uses hname
  refine ⟨fun name hname => ?_, fun type htype cap => ⟨?_, fun f site hpackage hdeclared => ?_⟩⟩
  · rw [use, scope_mention]
    exact Scope.mention_of_settled (hsettled name hname)
  · exact ResolvedType.spell_of_settled (fun name hname => hsettled name (htype hname)) cap
  · intro g
    -- the file has all imports that are in sight, the ones that were asked for among them
    obtain ⟨types, htypes⟩ := d.useAll_provideAll uses
    obtain ⟨more, hmore⟩ := d.scope.provideAll_eq types
    have he : e.scope = { d.scope with staged := d.scope.staged ++ more } := htypes.trans hmore
    have hg : g.package = e.scope.package := by
      rw [SourceFile.package_declareAll, hpackage, he]
    have himports : e.scope.imports ⊆ (Scope.ofFile site g.package g.imports).imports := by
      intro i hi
      rw [Scope.mem_imports_ofFile, SourceFile.mem_imports_declareAll]
      rcases List.mem_append.mp hi with hi | hi
      · rw [he] at hi
        exact .inl (hdeclared hi)
      · exact .inr (List.mem_map.mp hi)
    have hspell := ResolvedType.spell_of_settled (d := ofScope (.ofFile site g.package g.imports))
      (fun name hname => (hsettled name (htype hname)).mono hg himports) cap
    rw [use, hspell]
    rfl

/-- A pair of a node of the file's own package and one of another package. -/
def ResolvedType.nodePair : ResolvedType :=
  reference (.ofText "util.Pair")
    [reference (.ofText "app.Node") [], reference (.ofText "lib.Node") []]

/-- The node of the own package is spelled in full once the other one is imported. No import is asked
for again, in the same scope or in that of the file with the imports. -/
theorem Draft.nodePair_settled :
    let f := SourceFile.empty (some (.ofText "app"))
    let d := ofScope (.ofFile 1 f.package f.imports)
    let uses := [.spell 8 .nodePair, .provide (.ofText "a.Other")]
    let e := d.useAll uses
    let g := f.declareAll e.scope.staged
    e.scope.staged = [.ofText "util.Pair", .ofText "lib.Node", .ofText "a.Other"] ∧
      (ResolvedType.nodePair.spellsTo 8 d.scope fun x _ => x.text == "Pair<Node, Node>") ∧
      (ResolvedType.nodePair.spellsTo 8 e.scope fun x _ => x.text == "Pair<app.Node, Node>") ∧
      (e.use (.mention (.ofText "app.Node"))).scope = e.scope ∧
      (e.use (.spell 8 .nodePair)).scope = e.scope ∧
      ((ofScope (.ofFile 2 g.package g.imports)).use (.spell 8 .nodePair)).scope.staged = [] := by
  intro f d uses e g
  have hnames : ResolvedType.nodePair.references ⊆ uses.flatMap Use.names := by
    decide +kernel
  obtain ⟨hmention, hspell⟩ := d.useAll_settled uses
  obtain ⟨hscope, hfile⟩ := hspell .nodePair hnames 8
  refine ⟨by decide +kernel, by decide +kernel, by decide +kernel, ?_, hscope, ?_⟩
  · exact hmention _ (hnames (by decide +kernel))
  · exact hfile f 2 rfl (List.nil_subset _)

end SpellOut
