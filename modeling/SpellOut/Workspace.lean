import SpellOut.Host

/-! A workspace in memory: one source file, the types of the expressions in it, and its
declarations. It makes a host that never breaks down. -/
namespace SpellOut

/-- The package and the imports of a source file. No import is declared twice. -/
structure SourceFile where
  package : Option Name
  imports : List Import
  nodup : imports.Nodup

namespace SourceFile

def empty (package : Option Name) : SourceFile := ⟨package, [], List.nodup_nil⟩

/-- The file with one more import at the end, unless it is there already. -/
def declare (f : SourceFile) (i : Import) : SourceFile :=
  { f with imports := Import.extend f.imports i, nodup := Import.nodup_extend f.nodup i }

end SourceFile

/-- Types of expressions by the text of the expression. Of several entries for a text the first one
counts. -/
structure TypeTable where
  entries : List (String × ResolvedType)

namespace TypeTable

def empty : TypeTable := ⟨[]⟩

def find? (t : TypeTable) (text : String) : Option ResolvedType := t.entries.lookup text

/-- The table with a type for `text`, in place of any it had. -/
def insert (t : TypeTable) (text : String) (type : ResolvedType) : TypeTable :=
  ⟨(text, type) :: t.entries⟩

theorem find?_insert (t : TypeTable) (text other : String) (type : ResolvedType) :
    (t.insert text type).find? other = if other = text then some type else t.find? other := by
  simp only [find?, insert, List.lookup_cons]
  cases h : other == text <;> simp_all

end TypeTable

/-- Declarations by their numbers, in increasing order. -/
structure Declarations where
  toList : List Declaration
  sorted : toList.Pairwise (·.id < ·.id)

namespace Declarations

def empty : Declarations := ⟨[], List.Pairwise.nil⟩

def find? (ds : Declarations) (id : NodeId) : Option Declaration :=
  ds.toList.find? (·.id == id)

/-- The declarations with `d`, in place of the one with its number. -/
def insert (ds : Declarations) (d : Declaration) : Declarations where
  toList := ds.toList.filter (·.id < d.id) ++ d :: ds.toList.filter (d.id < ·.id)
  sorted := by
    rw [List.pairwise_append, List.pairwise_cons]
    refine ⟨ds.sorted.filter _, ⟨?_, ds.sorted.filter _⟩, ?_⟩
    · intro b hb
      simpa using (List.mem_filter.mp hb).2
    · intro a ha b hb
      have hlt : a.id < d.id := by simpa using (List.mem_filter.mp ha).2
      rcases List.mem_cons.mp hb with rfl | hb
      · exact hlt
      · exact Nat.lt_trans hlt (by simpa using (List.mem_filter.mp hb).2)

/-- Among the declarations whose numbers satisfy `p`, the search finds what it finds among all,
provided that the number sought satisfies `p`. -/
theorem find?_filter (p : NodeId → Bool) (id : NodeId) (l : List Declaration) :
    (l.filter fun a => p a.id).find? (·.id == id) =
      if p id then l.find? (·.id == id) else none := by
  rw [List.find?_filter]
  split
  · next hp =>
    congr 1
    funext a
    by_cases ha : a.id = id
    · simp [ha, hp]
    · simp [ha]
  · next hp =>
    rw [List.find?_eq_none]
    intro a _ ha
    simp only [decide_eq_true_eq, beq_iff_eq] at ha
    exact hp (ha.2 ▸ ha.1)

theorem find?_insert (ds : Declarations) (d : Declaration) (id : NodeId) :
    (ds.insert d).find? id = if id = d.id then some d else ds.find? id := by
  simp only [find?, insert, List.find?_append, List.find?_cons]
  rw [find?_filter (fun n => decide (n < d.id)), find?_filter (fun n => decide (d.id < n))]
  rcases Nat.lt_trichotomy id d.id with h | h | h
  · have hne : (d.id == id) = false := beq_false_of_ne (Nat.ne_of_gt h)
    simp [h, hne, Nat.lt_asymm h, Nat.ne_of_lt h]
  · subst h
    simp
  · have hne : (d.id == id) = false := beq_false_of_ne (Nat.ne_of_lt h)
    simp [h, hne, Nat.lt_asymm h, Nat.ne_of_gt h]

def erase (ds : Declarations) (id : NodeId) : Declarations :=
  ⟨ds.toList.filter (·.id != id), ds.sorted.filter _⟩

theorem find?_erase (ds : Declarations) (id other : NodeId) :
    (ds.erase id).find? other = if other = id then none else ds.find? other := by
  simp only [find?, erase]
  rw [find?_filter (fun n => n != id)]
  by_cases h : other = id <;> simp [h]

/-- Puts `d` in the place of the declaration `id`, if there is one and `d` has the same number. -/
def replace? (ds : Declarations) (id : NodeId) (d : Declaration) : Option Declarations :=
  if (ds.find? id).isSome && d.id == id then some (ds.insert d) else none

end Declarations

/-- A source file with its declarations, and what is known of the types in it. -/
structure Workspace where
  file : SourceFile
  types : TypeTable
  declarations : Declarations

namespace Workspace

/-- The workspace with one more import in its file. -/
def declare (w : Workspace) (i : Import) : Workspace := { w with file := w.file.declare i }

/-- Puts `d` in the place of the declaration `id`, and tells whether that could be done. -/
def replace (w : Workspace) (id : NodeId) (d : Declaration) : Bool × Workspace :=
  match w.declarations.replace? id d with
  | some declarations => (true, { w with declarations })
  | none => (false, w)

/-- A workspace answers every call from what it holds. -/
def host : Host Workspace where
  resolve initializer w := (.ok (w.types.find? initializer.text), w)
  package w := (.ok w.file.package, w)
  imports w := (.ok w.file.imports, w)
  replace id d w := (.ok (w.replace id d).1, (w.replace id d).2)
  addImport type w := (.ok (), w.declare (.single type))

end Workspace

end SpellOut
