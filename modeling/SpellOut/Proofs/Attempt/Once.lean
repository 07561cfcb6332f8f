import SpellOut.Proofs.Attempt.Calls
import SpellOut.Proofs.Attempt.Commute

/-! Declarations are replaced once.

A run is any number of attempts on a workspace, each on a declaration as it is found there, while
types become known and imports are declared in between. A step of it leaves the declarations as they
are, or it puts a candidate with its type written out in the place of the candidate (`step_cases`).
Nothing takes a type that is written out away again, and a declaration with such a type is no
candidate. So a declaration is replaced at most once in a run, it keeps all but its type, and further
attempts on it come to nothing (`run_once`). -/
namespace SpellOut

/-! ### Replacements -/

/-- The second declaration is the first one, or the first one with the type of its only variable
written out. -/
inductive Retyped (d : Declaration) : Declaration → Prop
  | kept : Retyped d d
  | spelled {name : String} {i : Option Initializer} (text : String)
      (h : d.declarators = [⟨name, .inferred, i⟩]) :
      Retyped d { d with declarators := [⟨name, .explicit text, i⟩] }

namespace Retyped

variable {d e f : Declaration}

theorem id_eq (h : Retyped d e) : e.id = d.id := by
  cases h with
  | kept => rfl
  | spelled text h => rfl

theorem trans (hde : Retyped d e) (hef : Retyped e f) : Retyped d f := by
  cases hde with
  | kept => exact hef
  | spelled text h =>
    cases hef with
    | kept => exact .spelled text h
    | spelled other htwice => cases htwice

end Retyped

namespace Candidate

variable {d : Declaration} {c : Candidate}

theorem retyped_withType (h : d.candidate = .ok c) (e : SpelledType) :
    Retyped d (c.withType e) := by
  obtain ⟨hone, -, rfl⟩ := Declaration.candidate_eq_ok_iff.mp h
  exact .spelled e.text hone

/-- A candidate with its type written out is none any more. -/
theorem candidate_withType (c : Candidate) (e : SpelledType) :
    (c.withType e).candidate = .error .explicitType := rfl

end Candidate

/-- An attempt on a declaration that is no candidate asks nothing of the host. -/
theorem Host.spellOut_of_ineligible {σ : Type} (host : Host σ) (cap : Nat) {d : Declaration}
    {why : Ineligible} (h : d.candidate = .error why) (s : σ) :
    host.spellOut cap d s = ⟨d.id, .error (.filtering, .abstention why.abstention), s, []⟩ := by
  simp only [spellOut, h]

namespace Workspace

/-! ### Runs -/

/-- What can happen to a workspace. -/
inductive Step where
  /-- The type of the expressions with this text becomes known, or another one than before. -/
  | learn (text : String) (type : ResolvedType)
  /-- An import is added to the file. -/
  | declare (i : Import)
  /-- An attempt is made on the declaration with this number, as it is by then, if there is one. -/
  | attempt (cap : Nat) (id : NodeId)

/-- The workspace after a step. -/
def step (w : Workspace) : Step → Workspace
  | .learn text type => { w with types := w.types.insert text type }
  | .declare i => w.declare i
  | .attempt cap id =>
    match w.declarations.find? id with
    | some d => (host.spellOut cap d w).host
    | none => w

/-- The number of the declaration on which an attempt succeeds in a step. -/
def appliedBy? (w : Workspace) : Step → Option NodeId
  | .learn _ _ => none
  | .declare _ => none
  | .attempt cap id =>
    match w.declarations.find? id with
    | some d => if (host.spellOut cap d w).outcome.isApplied then some id else none
    | none => none

/-- The workspace after a run. -/
def run (w : Workspace) : List Step → Workspace
  | [] => w
  | s :: rest => (w.step s).run rest

/-- The numbers of the declarations on which attempts succeed in a run, one for each success. -/
def applied (w : Workspace) : List Step → List NodeId
  | [] => []
  | s :: rest => (w.appliedBy? s).toList ++ (w.step s).applied rest

/-- The type of the declaration with this number is written out. -/
def Written (w : Workspace) (id : NodeId) : Prop :=
  ∃ d, w.declarations.find? id = some d ∧ d.candidate = .error .explicitType

variable {w : Workspace} {s : Step} {steps : List Step} {id : NodeId}

/-! ### One step -/

/-- A step without a success leaves the declarations as they are. With a success, a candidate is
replaced by itself with a type written out. -/
theorem step_cases (w : Workspace) (s : Step) :
    (w.appliedBy? s = none ∧ (w.step s).declarations = w.declarations) ∨
      ∃ d c e, w.declarations.find? d.id = some d ∧ d.candidate = .ok c ∧
        w.appliedBy? s = some d.id ∧
        (w.step s).declarations = w.declarations.insert (c.withType e) := by
  cases s with
  | learn text type => exact .inl ⟨rfl, rfl⟩
  | declare i => exact .inl ⟨rfl, rfl⟩
  | attempt cap id =>
    cases hfind : w.declarations.find? id with
    | none => exact .inl (by simp only [appliedBy?, step, hfind, and_self])
    | some d =>
      obtain ⟨-, rfl⟩ := Declarations.find?_eq_some_iff.mp hfind
      -- the attempt comes to its verdict: to nothing, or to one request that gets done
      obtain ⟨hresult, hhost⟩ := spellOut_verdict w cap d
      simp only [appliedBy?, step, hfind, hhost, Attempt.outcome, hresult]
      cases hverdict : w.verdict cap d with
      | error halt => exact .inl ⟨rfl, rfl⟩
      | ok q =>
        have hc := (exists_of_verdict hverdict).1
        exact .inr ⟨d, q.candidate, q.type, hfind, hc, rfl, rfl⟩

theorem ids_step (w : Workspace) (s : Step) :
    (w.step s).declarations.toList.map (·.id) = w.declarations.toList.map (·.id) := by
  rcases w.step_cases s with ⟨-, hkept⟩ | ⟨d, c, e, hfind, hc, -, hput⟩
  · rw [hkept]
  · rw [hput]
    have hid := (c.retyped_withType hc e).id_eq
    exact Declarations.ids_insert (hid ▸ hfind)

theorem retyped_step (s : Step) {d : Declaration} (h : w.declarations.find? id = some d) :
    ∃ r, (w.step s).declarations.find? id = some r ∧ Retyped d r := by
  rcases w.step_cases s with ⟨-, hkept⟩ | ⟨old, c, e, hfind, hc, -, hput⟩
  · exact ⟨d, by rw [hkept, h], .kept⟩
  · have hretyped := Candidate.retyped_withType hc e
    rw [hput]
    simp only [Declarations.find?_insert, hretyped.id_eq]
    split
    · next he =>
      subst he
      cases hfind.symm.trans h
      exact ⟨_, rfl, hretyped⟩
    · exact ⟨d, h, .kept⟩

/-- A type that is written out stays so where declarations are at most retyped. -/
theorem Written.of_retyped {v : Workspace} (h : w.Written id)
    (hv : ∀ d, w.declarations.find? id = some d →
      ∃ r, v.declarations.find? id = some r ∧ Retyped d r) : v.Written id := by
  obtain ⟨d, hfind, hd⟩ := h
  obtain ⟨r, hr, hretyped⟩ := hv d hfind
  cases hretyped with
  | kept => exact ⟨d, hr, hd⟩
  | spelled text h => exact ⟨_, hr, rfl⟩

theorem Written.step (h : w.Written id) (s : Step) : (w.step s).Written id :=
  h.of_retyped fun _ => retyped_step s

/-- An attempt succeeds only where the type is not written out, and writes it out. -/
theorem written_of_appliedBy? (h : w.appliedBy? s = some id) :
    ¬ w.Written id ∧ (w.step s).Written id := by
  rcases w.step_cases s with ⟨hnone, -⟩ | ⟨d, c, e, hfind, hc, hsome, hput⟩
  · cases hnone.symm.trans h
  · cases hsome.symm.trans h
    constructor
    · intro hwritten
      obtain ⟨other, hother, hexplicit⟩ := hwritten
      cases hfind.symm.trans hother
      cases hc.symm.trans hexplicit
    · refine ⟨c.withType e, ?_, c.candidate_withType e⟩
      rw [hput, Declarations.find?_insert, if_pos (Candidate.retyped_withType hc e).id_eq.symm]

/-! ### All steps of a run -/

theorem ids_run (w : Workspace) (steps : List Step) :
    (w.run steps).declarations.toList.map (·.id) = w.declarations.toList.map (·.id) := by
  induction steps generalizing w with
  | nil => rfl
  | cons s rest ih => rw [run, ih, ids_step]

theorem retyped_run (steps : List Step) {d : Declaration} (h : w.declarations.find? id = some d) :
    ∃ r, (w.run steps).declarations.find? id = some r ∧ Retyped d r := by
  induction steps generalizing w d with
  | nil => exact ⟨d, h, .kept⟩
  | cons s rest ih =>
    obtain ⟨between, hbetween, hfirst⟩ := retyped_step s h
    obtain ⟨r, hr, hrest⟩ := ih hbetween
    exact ⟨r, hr, hfirst.trans hrest⟩

theorem Written.run (h : w.Written id) (steps : List Step) : (w.run steps).Written id :=
  h.of_retyped fun _ => retyped_run steps

/-- Where a type is written out, no attempt succeeds. -/
theorem Written.not_mem_applied (h : w.Written id) (steps : List Step) :
    id ∉ w.applied steps := by
  induction steps generalizing w with
  | nil => exact List.not_mem_nil
  | cons s rest ih =>
    intro hmem
    rcases List.mem_append.mp hmem with hnow | hlater
    · exact (written_of_appliedBy? (Option.mem_toList.mp hnow)).1 h
    · exact ih (h.step s) hlater

/-- Where an attempt has succeeded, the type is written out in the end. -/
theorem written_of_mem_applied (h : id ∈ w.applied steps) : (w.run steps).Written id := by
  induction steps generalizing w with
  | nil => cases h
  | cons s rest ih =>
    rcases List.mem_append.mp h with hnow | hlater
    · exact (written_of_appliedBy? (Option.mem_toList.mp hnow)).2.run rest
    · exact ih hlater

theorem nodup_applied (w : Workspace) (steps : List Step) : (w.applied steps).Nodup := by
  induction steps generalizing w with
  | nil => exact List.nodup_nil
  | cons s rest ih =>
    rw [applied]
    cases hs : w.appliedBy? s with
    | none => exact ih _
    | some id =>
      have hwritten := (written_of_appliedBy? hs).2
      exact List.nodup_cons.mpr ⟨hwritten.not_mem_applied rest, ih _⟩

/-- **In a run each declaration is replaced at most once.** The numbers of the declarations stay the
same, and under each number there is the declaration that was there at the start or that one with
the type of its only variable written out. No number has two successes. After a success, an attempt
on what is there abstains since the type is explicit; it asks nothing of the workspace and leaves it
as it is. This is so however an outcome is reported. -/
theorem run_once (w : Workspace) (steps : List Step) :
    let v := w.run steps
    v.declarations.toList.map (·.id) = w.declarations.toList.map (·.id) ∧
      (∀ id d, w.declarations.find? id = some d →
        ∃ r, v.declarations.find? id = some r ∧ r.id = id ∧ Retyped d r) ∧
      (w.applied steps).Nodup ∧
      ∀ id ∈ w.applied steps, ∃ r, v.declarations.find? id = some r ∧ ∀ cap,
        (host.spellOut cap r v).outcome = .abstained .filtering (.notCandidate .explicitType) ∧
          host.exchanges cap r v = [] ∧ (host.spellOut cap r v).host = v := by
  intro v
  refine ⟨ids_run w steps, ?_, nodup_applied w steps, ?_⟩
  · intro id d hfind
    obtain ⟨r, hr, hretyped⟩ := retyped_run steps hfind
    exact ⟨r, hr, (Declarations.find?_eq_some_iff.mp hr).2, hretyped⟩
  · intro id happlied
    obtain ⟨r, hr, hexplicit⟩ := written_of_mem_applied happlied
    refine ⟨r, hr, fun cap => ?_⟩
    rw [Host.exchanges, host.spellOut_of_ineligible cap hexplicit,
      host.logged.spellOut_of_ineligible cap hexplicit]
    exact ⟨rfl, rfl, rfl⟩

/-- An attempt that comes too early, one that succeeds once the type is known, and others after it,
which come to nothing even though another type is known by then. -/
theorem starting_once :
    let w : Workspace := { visitedWorkspace with types := .empty }
    let steps : List Step := [.attempt 32 1,
      .learn "now()" (.reference (.ofText "java.time.Instant") []),
      .declare (.single (.ofText "app.clock.Instant")), .attempt 32 1,
      .learn "now()" (.primitive "long"), .attempt 8 1]
    let v := w.run steps
    let r : Declaration :=
      ⟨1, [], [], [⟨"start", .explicit "java.time.Instant", some (.other "now()")⟩]⟩
    (w.applied steps = [1] ∧ v.declarations.toList = [r, visiting]) ∧
      (w.applied steps).Nodup ∧ Retyped starting r ∧
      ∀ cap, (host.spellOut cap r v).outcome = .abstained .filtering (.notCandidate .explicitType) ∧
        host.exchanges cap r v = [] ∧ (host.spellOut cap r v).host = v := by
  intro w steps v r
  have happlied : w.applied steps = [1] := by
    decide +kernel
  have hlist : v.declarations.toList = [r, visiting] := by
    decide +kernel
  have hr : v.declarations.find? 1 = some r := by
    rw [Declarations.find?, hlist]
    rfl
  obtain ⟨-, hframe, hnodup, hlater⟩ := run_once w steps
  obtain ⟨r₁, hr₁, -, hretyped⟩ := hframe 1 starting rfl
  obtain ⟨r₂, hr₂, habstains⟩ := hlater 1 (happlied ▸ List.mem_singleton_self 1)
  cases hr.symm.trans hr₁
  cases hr.symm.trans hr₂
  exact ⟨⟨happlied, hlist⟩, hnodup, hretyped, habstains⟩

end Workspace

end SpellOut
