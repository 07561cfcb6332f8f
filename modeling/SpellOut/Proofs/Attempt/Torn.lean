import SpellOut.Proofs.Attempt.Aftermath

/-! When an attempt that abstains leaves a trace.

It is meant to leave none. Whatever goes wrong before the replacement is made goes wrong before
anything is changed; but a host that breaks down after the replacement, at once or between the
imports, is reported like any other reason to abstain, and what it did stays done. So an attempt is
torn exactly if that happens and the part that was done changed something
(`abstained_traceless_iff`). -/
namespace SpellOut

theorem Attempt.isApplied_eq_false_iff {σ : Type} {a : Attempt σ} :
    a.outcome.isApplied = false ↔ ∃ e, a.result = .error e := by
  unfold outcome
  cases a.result with
  | ok replacement => simp [Outcome.isApplied]
  | error e => simp [Outcome.isApplied]

theorem Fault.lt_of_progress? {fault : Option Fault} {count added : Nat}
    (h : progress? fault count = some (false, added)) : added = 0 ∨ added < count := by
  unfold progress? at h
  split at h
  · cases h
  · cases h
    exact .inl rfl
  · split at h
    · next hlt =>
      cases h
      exact .inr hlt
    · cases h
  all_goals cases h

namespace Workspace

variable {w : Workspace} {cap : Nat} {d : Declaration} {q : Request}

/-- A request that got done this far left no trace exactly if its replacement was in place before
and it added no import. -/
theorem after_eq_self_iff {added : Nat} (hq : w.request? cap d = some q)
    (hlt : added = 0 ∨ added < q.imports.length) :
    w.after q added = w ↔ w.declarations.find? d.id = some q.replacement ∧ added = 0 := by
  have hinsert : w.declarations.insert q.replacement = w.declarations ↔
      w.declarations.find? d.id = some q.replacement := by
    rw [Declarations.insert_eq_self_iff, Request.id_replacement, id_of_request? hq]
  constructor
  · intro h
    have hfile : w.file.declareAll (q.imports.take added) = w.file := congrArg file h
    refine ⟨hinsert.mp (congrArg declarations h), ?_⟩
    by_cases hzero : added = 0
    · exact hzero
    · -- the first import that was added would have been there before
      have hpos : 0 < q.imports.length := by
        omega
      obtain ⟨first, rest, himports⟩ := List.exists_cons_of_length_pos hpos
      obtain ⟨more, rfl⟩ := Nat.exists_eq_succ_of_ne_zero hzero
      have hadded : .single first ∈ (w.file.declareAll (q.imports.take (more + 1))).imports := by
        rw [SourceFile.mem_imports_declareAll, himports]
        exact .inr ⟨first, List.mem_cons_self, rfl⟩
      have hnew := unimported_of_request? hq first (himports ▸ List.mem_cons_self)
      rw [hfile] at hadded
      exact absurd hadded hnew
  · intro h
    obtain ⟨hfind, rfl⟩ := h
    rw [after, List.take_zero, hinsert.mpr hfind]
    rfl

/-- The fault interrupts a request, after a replacement that was not in place before or after an
import. -/
def Torn (w : Workspace) (cap : Nat) (d : Declaration) (fault : Option Fault) : Prop :=
  ∃ q added, w.due? cap d = some q ∧
    Fault.progress? fault q.imports.length = some (false, added) ∧
      (w.declarations.find? d.id ≠ some q.replacement ∨ 0 < added)

theorem not_torn_of_not_due {fault : Option Fault} (h : w.due? cap d = none) :
    ¬ w.Torn cap d fault := by
  intro htorn
  obtain ⟨q, added, hq, _⟩ := htorn
  cases h.symm.trans hq

/-- Whether a request is torn depends on how far the fault lets the host get, and on the trace that
this leaves. -/
theorem torn_iff_of_due {fault : Option Fault} (h : w.due? cap d = some q) :
    w.Torn cap d fault ↔ ∃ added,
      Fault.progress? fault q.imports.length = some (false, added) ∧ w.after q added ≠ w := by
  have hq := (due?_eq_some_iff.mp h).1
  constructor
  · intro htorn
    obtain ⟨q', added, hq', hprogress, htrace⟩ := htorn
    cases h.symm.trans hq'
    refine ⟨added, hprogress, fun hself => ?_⟩
    obtain ⟨hfind, hzero⟩ := (after_eq_self_iff hq (Fault.lt_of_progress? hprogress)).mp hself
    rcases htrace with hne | hpos
    · exact hne hfind
    · exact Nat.ne_of_gt hpos hzero
  · intro htorn
    obtain ⟨added, hprogress, hne⟩ := htorn
    refine ⟨q, added, h, hprogress, ?_⟩
    rw [Ne, after_eq_self_iff hq (Fault.lt_of_progress? hprogress),
      Decidable.not_and_iff_or_not] at hne
    exact hne.imp_right Nat.pos_of_ne_zero

/-- **An attempt that abstains leaves no trace, unless a fault tears it.** Nothing but a breakdown
after the replacement can do so, at once or between the imports. -/
theorem abstained_traceless_iff (fault : Option Fault) (w : Workspace) (cap : Nat)
    (d : Declaration) :
    let a := (host.withFault fault).spellOut cap d (w, 0)
    (a.outcome.isApplied = false → a.host.1 = w) ↔ ¬ w.Torn cap d fault := by
  intro a
  rw [Attempt.isApplied_eq_false_iff]
  have hleaves := Host.spellOut_leaves fault w cap d
  cases hdue : w.due? cap d with
  | none =>
    rw [hdue] at hleaves
    exact iff_of_true (fun _ => hleaves.2) (not_torn_of_not_due hdue)
  | some q =>
    rw [hdue] at hleaves
    rw [torn_iff_of_due hdue]
    cases hprogress : Fault.progress? fault q.imports.length with
    | none =>
      simp only [hprogress] at hleaves
      exact iff_of_true (fun _ => hleaves.2) (by simp)
    | some progress =>
      obtain ⟨finished, added⟩ := progress
      simp only [hprogress] at hleaves
      cases finished with
      | true =>
        have hok : a.result = .ok q.replacement := hleaves.1
        simp [hok]
      | false =>
        obtain ⟨herror, hleft⟩ := hleaves
        have hhost : a.host.1 = w.after q added := hleft
        simp [hhost, show ∃ e, a.result = .error e from herror]

/-- One declaration, `var x = now()`, in a file without imports. -/
def clock : Declaration := ⟨1, [], [], [⟨"x", .inferred, some (.other "now()")⟩]⟩

def clockWorkspace : Workspace where
  file := .empty (some (.ofText "com.acme"))
  types := TypeTable.empty.insert "now()" (.reference (.ofText "java.time.Instant") [])
  declarations := Declarations.empty.insert clock

/-- A breakdown at the first import tears an attempt: it abstains, and the declaration has its new
type all the same. -/
theorem torn_at_import :
    let fault := Fault.breakdown (.addImport 0) (.text "down")
    let a := (host.withFault (some fault)).spellOut 32 clock (clockWorkspace, 0)
    a.outcome = .abstained .replacing (.fault "down") ∧
      (a.host.1.declarations.find? 1).map Declaration.text = some "Instant x = now()" ∧
      a.host.1 ≠ clockWorkspace := by
  intro fault a
  have houtcome : a.outcome = .abstained .replacing (.fault "down") := by
    decide +kernel
  have hafter : (a.host.1.declarations.find? 1).map Declaration.text =
      some "Instant x = now()" := by
    decide +kernel
  have hbefore : (clockWorkspace.declarations.find? 1).map Declaration.text =
      some "var x = now()" := by
    decide +kernel
  refine ⟨houtcome, hafter, fun h => ?_⟩
  rw [h, hbefore] at hafter
  exact absurd hafter (by decide)

end Workspace

end SpellOut
