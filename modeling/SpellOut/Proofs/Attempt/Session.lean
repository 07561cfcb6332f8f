import SpellOut.Attempt
import SpellOut.Host.Fault
import SpellOut.Proofs.Scope.Admissible
import SpellOut.Proofs.Workspace

/-! What a source file gains over a session.

A session is any number of attempts on one file, whatever is asked of them and whichever host each of
them has. Of a host nothing is known but that it has the file: what it tells of the file is so, and
the file changes only by the imports that the host is asked to add. It may answer or refuse what it
likes, and break down at any call.

One attempt adds some of the imports that its spelling asked for, the first ones, and those are
admissible one after the other (`spellOut_file`). What the next attempt finds in the file are the
imports that were added before, so the same holds of a whole session (`Session.appends`): a session
only appends. -/
namespace SpellOut

/-! ### Hosts of a file -/

section Calls
variable {σ α : Type} (file : σ → SourceFile)

/-- The call leaves the file as it is. -/
def Keeps (call : Call σ α) : Prop := ∀ s, file (call s).2 = file s

/-- The call leaves the file as it is, and if it has an answer, that is what the view of the file
shows. -/
def Tells (view : SourceFile → α) (call : Call σ α) : Prop :=
  Keeps file call ∧ ∀ s answer, (call s).1 = .ok answer → answer = view (file s)

/-- The call adds the import to the file, unless it breaks down before it has. -/
def Adds (i : Import) (call : Call σ Unit) : Prop :=
  ∀ s, file (call s).2 = (file s).declare i ∨
    (∃ cause, (call s).1 = .error cause) ∧ file (call s).2 = file s

variable {file} {call : Call σ α} {s t : σ}

theorem Keeps.file_eq (h : Keeps file call) {result : Except Breakdown α}
    (hcall : call s = (result, t)) : file t = file s := by
  have hs := h s
  rwa [hcall] at hs

theorem Tells.answer_eq {view : SourceFile → α} (h : Tells file view call) {answer : α}
    (hcall : call s = (.ok answer, t)) : answer = view (file s) :=
  h.2 s answer (by rw [hcall])

end Calls

namespace Host

variable {σ : Type} {host : Host σ} {file : σ → SourceFile}

/-- The host has a source file. -/
structure HasFile (host : Host σ) (file : σ → SourceFile) : Prop where
  resolve : ∀ initializer, Keeps file (host.resolve initializer)
  package : Tells file SourceFile.package host.package
  imports : Tells file SourceFile.imports host.imports
  replace : ∀ id d, Keeps file (host.replace id d)
  addImport : ∀ type, Adds file (.single type) (host.addImport type)

/-! ### One attempt -/

/-- Of the imports to be added, some get added, the first ones. -/
theorem addImports_file (hfile : host.HasFile file) (types : List Name) (s : σ) :
    ∃ k, file (host.addImports types s).2 = (file s).declareAll (types.take k) := by
  induction types generalizing s with
  | nil => exact ⟨0, rfl⟩
  | cons type rest ih =>
    have hadd := hfile.addImport type s
    rw [addImports]
    split
    · next t hcall =>
      rw [hcall] at hadd
      obtain ⟨k, hk⟩ := ih t
      rcases hadd with hadded | ⟨⟨cause, hfail⟩, -⟩
      · exact ⟨k + 1, by rw [hk, hadded, List.take_succ_cons, SourceFile.declareAll_cons]⟩
      · cases hfail
    · next cause t hcall =>
      rw [hcall] at hadd
      rcases hadd with hadded | ⟨-, hkept⟩
      · exact ⟨1, hadded⟩
      · exact ⟨0, hkept⟩

theorem commit_file (hfile : host.HasFile file) (c : Candidate) (e : SpelledType)
    (types : List Name) (s : σ) :
    ∃ k, file (host.commit c e types s).2 = (file s).declareAll (types.take k) := by
  have hreplace := hfile.replace c.declaration.id (c.withType e)
  unfold commit
  simp only
  split
  · next hcall => exact ⟨0, hreplace.file_eq hcall⟩
  · next hcall => exact ⟨0, hreplace.file_eq hcall⟩
  · next t hcall =>
    obtain ⟨k, hk⟩ := addImports_file hfile types t
    rw [hreplace.file_eq hcall] at hk
    refine ⟨k, ?_⟩
    split
    · next hadd =>
      rw [hadd] at hk
      exact hk
    · next hadd =>
      rw [hadd] at hk
      exact hk

/-- An attempt adds imports that are admissible one after the other, or none. -/
theorem spellOut_file (hfile : host.HasFile file) (cap : Nat) (d : Declaration) (s : σ) :
    ∃ added, AdmissibleAll (file s).package (file s).imports added ∧
      file (host.spellOut cap d s).host = (file s).declareAll added := by
  have hnone : ∀ t, file t = file s → ∃ added,
      AdmissibleAll (file s).package (file s).imports added ∧
        file t = (file s).declareAll added := fun t ht => ⟨[], trivial, ht⟩
  -- every way out before the replacement leaves the file as it was
  unfold spellOut
  split
  · exact hnone s rfl
  next c _ =>
  split
  · next t hcall => exact hnone t ((hfile.resolve _).file_eq hcall)
  · next t hcall => exact hnone t ((hfile.resolve _).file_eq hcall)
  next type t hcall =>
  have ht := (hfile.resolve _).file_eq hcall
  split
  · next u hcall => exact hnone u ((hfile.package.1.file_eq hcall).trans ht)
  next package u hcall =>
  have hu := (hfile.package.1.file_eq hcall).trans ht
  have hpackage := hfile.package.answer_eq hcall
  split
  · next v hcall => exact hnone v ((hfile.imports.1.file_eq hcall).trans hu)
  next imports v hcall =>
  have hv := (hfile.imports.1.file_eq hcall).trans hu
  have himports := hfile.imports.answer_eq hcall
  rw [ht] at hpackage
  rw [hu] at himports
  subst hpackage himports
  split
  · exact hnone v hv
  next e draft hspell =>
  have hadmissible := ResolvedType.spell_admissible (file s).nodup hspell
  obtain ⟨k, hk⟩ := commit_file hfile c e draft.scope.staged v
  rw [hv] at hk
  refine ⟨draft.scope.staged.take k, hadmissible.take k, ?_⟩
  split
  · next hcommit =>
    rw [hcommit] at hk
    exact hk
  · next hcommit =>
    rw [hcommit] at hk
    exact hk

end Host

/-! ### Sessions -/

namespace SourceFile

/-- What is admissible is added, all of it, at the end. -/
theorem imports_declareAll_of_admissible {f : SourceFile} {types : List Name}
    (h : AdmissibleAll f.package f.imports types) :
    (f.declareAll types).imports = f.imports ++ types.map .single := by
  rw [imports_declareAll, Import.foldl_extend_of_nodup (h.nodup f.nodup)]

end SourceFile

/-- What attempts make of a file, one attempt after the other, each with a host of its own. How the
outcome of an attempt is reported makes no difference to the host. -/
inductive Session (f : SourceFile) : SourceFile → Prop where
  | start : Session f f
  | attempt {σ : Type} {host : Host σ} {file : σ → SourceFile} (hfile : host.HasFile file)
      (cap : Nat) (d : Declaration) (s : σ) (before : Session f (file s)) :
      Session f (file (host.spellOut cap d s).host)

/-- **A session adds imports at the end, and each is admissible when it is added.** None is added
twice, and a file that binds no simple name twice stays one. -/
theorem Session.appends {f g : SourceFile} (h : Session f g) :
    g.package = f.package ∧
      (∃ added, g.imports = f.imports ++ added.map .single ∧ g.imports.Nodup ∧
        AdmissibleAll f.package f.imports added) ∧
      ((f.imports.filterMap Import.boundName?).Nodup →
        (g.imports.filterMap Import.boundName?).Nodup) := by
  have hadds : g.package = f.package ∧ ∃ added, g.imports = f.imports ++ added.map .single ∧
      AdmissibleAll f.package f.imports added := by
    induction h with
    | start => exact ⟨rfl, [], by simp, trivial⟩
    | attempt hfile cap d s before ih =>
      obtain ⟨hpackage, added, himports, hadded⟩ := ih
      obtain ⟨more, hmore, hleft⟩ := Host.spellOut_file hfile cap d s
      have hend := SourceFile.imports_declareAll_of_admissible hmore
      rw [hpackage, himports] at hmore
      refine ⟨by rw [hleft, SourceFile.package_declareAll, hpackage], added ++ more, ?_, ?_⟩
      · rw [hleft, hend, himports, List.map_append, List.append_assoc]
      · exact admissibleAll_append.mpr ⟨hadded, hmore⟩
  obtain ⟨hpackage, added, himports, hadded⟩ := hadds
  exact ⟨hpackage, ⟨added, himports, g.nodup, hadded⟩, fun hnodup =>
    himports ▸ hadded.nodup_boundNames hnodup⟩

/-! ### Workspaces with faults -/

theorem Workspace.host_hasFile : Workspace.host.HasFile Workspace.file where
  resolve _ _ := rfl
  package := ⟨fun _ => rfl, fun _ _ h => (Except.ok.inj h).symm⟩
  imports := ⟨fun _ => rfl, fun _ _ h => (Except.ok.inj h).symm⟩
  replace id d w := by
    show (w.replace id d).2.file = w.file
    unfold Workspace.replace
    split <;> rfl
  addImport _ _ := .inl rfl

namespace Fault

variable {σ α : Type} {file : σ → SourceFile} {call : Call σ α}

/-- A fault makes a call break down at once, or makes no difference to it. -/
theorem guard_cases (fault : Option Fault) (point : FaultPoint) (call : Call σ α) (s : σ) :
    (∃ cause, guard fault point call s = (.error cause, s)) ∨
      guard fault point call s = call s := by
  unfold guard
  split
  · next cause _ => exact .inl ⟨cause, rfl⟩
  · exact .inr rfl

theorem keeps_guard (h : Keeps file call) (fault : Option Fault) (point : FaultPoint) :
    Keeps file (guard fault point call) := by
  intro s
  rcases guard_cases fault point call s with ⟨cause, hstruck⟩ | hspared
  · rw [hstruck]
  · rw [hspared]
    exact h s

theorem tells_guard {view : SourceFile → α} (h : Tells file view call) (fault : Option Fault)
    (point : FaultPoint) : Tells file view (guard fault point call) := by
  refine ⟨keeps_guard h.1 fault point, fun s answer hanswer => ?_⟩
  rcases guard_cases fault point call s with ⟨cause, hstruck⟩ | hspared
  · rw [hstruck] at hanswer
    cases hanswer
  · rw [hspared] at hanswer
    exact h.2 s answer hanswer

theorem adds_guard {i : Import} {call : Call σ Unit} (h : Adds file i call) (fault : Option Fault)
    (point : FaultPoint) : Adds file i (guard fault point call) := by
  intro s
  rcases guard_cases fault point call s with ⟨cause, hstruck⟩ | hspared
  · rw [hstruck]
    exact .inr ⟨⟨cause, rfl⟩, rfl⟩
  · rw [hspared]
    exact h s

end Fault

namespace Host

variable {σ α : Type} {host : Host σ} {file : σ → SourceFile} {call : Call σ α}

theorem keeps_besideCount (h : Keeps file call) :
    Keeps (fun s : σ × Nat => file s.1) (besideCount call) := fun s => h s.1

theorem tells_besideCount {view : SourceFile → α} (h : Tells file view call) :
    Tells (fun s : σ × Nat => file s.1) view (besideCount call) :=
  ⟨keeps_besideCount h.1, fun s => h.2 s.1⟩

/-- A host with a fault still has its file. -/
theorem HasFile.withFault (h : host.HasFile file) (fault : Option Fault) :
    (host.withFault fault).HasFile fun s => file s.1 where
  resolve initializer := Fault.keeps_guard (keeps_besideCount (h.resolve initializer)) fault _
  package := Fault.tells_guard (tells_besideCount h.package) fault _
  imports := Fault.tells_guard (tells_besideCount h.imports) fault _
  replace id d := by
    have hreplace := keeps_besideCount (h.replace id d)
    dsimp only [Host.withFault]
    split
    · exact fun _ => rfl
    · refine Fault.keeps_guard (fun s => ?_) fault .replace
      split
      · next accepted t hcall =>
        have hafter : Keeps (fun s : σ × Nat => file s.1)
            (fun s => ((.ok accepted, s) : Except Breakdown Bool × σ × Nat)) := fun _ => rfl
        exact (Fault.keeps_guard hafter fault .afterReplace t).trans (hreplace.file_eq hcall)
      · next cause t hcall => exact hreplace.file_eq hcall
  addImport type := by
    intro s
    obtain ⟨s, count⟩ := s
    have hadd : Adds (fun s : σ × Nat => file s.1) (.single type) fun s =>
        ((host.addImport type s.1).1, (host.addImport type s.1).2, s.2 + 1) :=
      fun s => h.addImport type s.1
    exact Fault.adds_guard hadd fault (.addImport count) (s, count)

end Host

/-- A session goes on with an attempt on a workspace, whatever fault the workspace has. -/
theorem Session.workspace {f : SourceFile} {w : Workspace} (before : Session f w.file)
    (fault : Option Fault) (cap : Nat) (d : Declaration) :
    Session f ((Workspace.host.withFault fault).spellOut cap d (w, 0)).host.1.file :=
  .attempt (Workspace.host_hasFile.withFault fault) cap d (w, 0) before

namespace Workspace

/-- One declaration, `var x = load()`, in a file that imports all types of a package. -/
def loading : Declaration := ⟨1, [], [], [⟨"x", .inferred, some (.other "load()")⟩]⟩

def loadingWorkspace : Workspace where
  file := (SourceFile.empty (some (.ofText "app"))).declare (.onDemand (.ofText "java.io"))
  types := TypeTable.empty.insert "load()" (.reference (.ofText "java.util.Map")
    [.reference (.ofText "java.time.Instant") [], .reference (.ofText "java.io.File") []])
  declarations := Declarations.empty.insert loading

/-- An attempt that is torn between its two imports, and another that adds the missing one. -/
theorem loading_appends :
    let fault := Fault.breakdown (.addImport 1) .other
    let torn := ((host.withFault (some fault)).spellOut 32 loading (loadingWorkspace, 0)).host.1
    let done := ((host.withFault none).spellOut 32 loading (torn, 0)).host.1
    Session loadingWorkspace.file done.file ∧
      done.file.imports = [.onDemand (.ofText "java.io"), .single (.ofText "java.util.Map"),
        .single (.ofText "java.time.Instant")] ∧
      done.file.package = loadingWorkspace.file.package ∧
      (∃ added, done.file.imports = loadingWorkspace.file.imports ++ added.map .single ∧
        done.file.imports.Nodup ∧
        AdmissibleAll loadingWorkspace.file.package loadingWorkspace.file.imports added) ∧
      (done.file.imports.filterMap Import.boundName?).Nodup := by
  intro fault torn done
  have hstart : Session loadingWorkspace.file loadingWorkspace.file := .start
  have hfirst : Session loadingWorkspace.file torn.file :=
    hstart.workspace (some fault) 32 loading
  have hsession : Session loadingWorkspace.file done.file := hfirst.workspace none 32 loading
  have himports : done.file.imports = [.onDemand (.ofText "java.io"),
      .single (.ofText "java.util.Map"), .single (.ofText "java.time.Instant")] := by
    decide +kernel
  obtain ⟨hpackage, hadded, hbound⟩ := hsession.appends
  exact ⟨hsession, himports, hpackage, hadded, hbound (by decide +kernel)⟩

end Workspace

end SpellOut
