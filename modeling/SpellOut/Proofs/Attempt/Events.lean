import SpellOut.Proofs.Attempt.Calls
import SpellOut.Proofs.Notes

/-! What is logged of an attempt.

The events of an attempt come in three parts: what was noted of the spelling, a warning if the host
broke down, and one event that tells the outcome. All of them can be told from what the attempt and
its host said to each other (`Reported`): the spelling is the one that the answers of the host come
to (`Declaration.notesAfter`), and the warning is that of the exchange in which the host broke down
(`Exchange.warning?`). -/
namespace SpellOut

/-! ### What exchanges have logged -/

/-- The notes of the spelling that the exchanges of an attempt come to. There are none without a
type to write and a scope to write it in. -/
def Declaration.notesAfter (d : Declaration) (cap : Nat) : List Exchange → List Note
  | .resolve _ (.ok (some type)) :: .package (.ok package) :: .imports (.ok imports) :: _ =>
    (type.spell cap (.ofScope (.ofFile d.id package imports))).2.notes
  | _ => []

/-- The warning of an exchange, if the host broke down in it. -/
def Exchange.warning? (id : NodeId) (x : Exchange) : Option Event :=
  x.breakdown?.map fun cause => .fault id x.stage cause.message

/-- The events that tell of the end of an attempt with this result. -/
def endEvents (id : NodeId) : Except (Stage × Halt) Declaration → List Event
  | .ok _ => []
  | .error (stage, halt) => halt.events id stage

namespace Adding

variable {types : List Name} {log : List Exchange} {result : Except Breakdown Unit}

theorem warnings_of_ok (h : Adding types log result) (hresult : result = .ok ()) (id : NodeId) :
    log.filterMap (Exchange.warning? id) = [] := by
  induction h with
  | nil => rfl
  | broke type rest cause => cases hresult
  | added type h ih => exact ih hresult

theorem warnings_of_error {cause : Breakdown} (h : Adding types log result)
    (hresult : result = .error cause) (id : NodeId) :
    log.filterMap (Exchange.warning? id) = [.fault id .replacing cause.message] := by
  induction h with
  | nil => cases hresult
  | broke type rest cause =>
    cases hresult
    rfl
  | added type h ih => exact ih hresult

end Adding

theorem Commitment.warnings {q : Request} {log : List Exchange} {result : Except Halt Declaration}
    (h : Commitment q log result) (id : NodeId) :
    log.filterMap (Exchange.warning? id) =
      endEvents id (result.mapError fun halt => (.replacing, halt)) := by
  cases h with
  | broke cause => rfl
  | refused => rfl
  | interrupted h => exact h.warnings_of_error rfl id
  | completed h => exact h.warnings_of_ok rfl id

namespace Course

variable {σ : Type} {host : Host σ} {cap : Nat} {d : Declaration} {s t : σ} {log : List Exchange}
  {result : Except (Stage × Halt) Declaration}

/-- The host breaks down in an exchange only where that ends the attempt. -/
theorem warnings (h : Course cap d log result) (id : NodeId) :
    log.filterMap (Exchange.warning? id) = endEvents id result := by
  cases h with
  | committed h hcommit =>
    obtain ⟨-, type, package, imports, draft, rfl, -, -⟩ := h
    exact hcommit.warnings id
  | _ => rfl

theorem notes (h : Course cap d log result) (hanswers : host.AnswersAll s log t) :
    (host.spellOut cap d s).notes = d.notesAfter cap log := by
  unfold Host.spellOut
  cases h with
  | filtered h => simp only [h, Declaration.notesAfter]
  | unanswered h cause =>
    obtain ⟨_, hresolve, -⟩ := hanswers
    simp only [Host.Answers] at hresolve
    simp only [h, hresolve, Declaration.notesAfter]
  | unresolved h =>
    obtain ⟨_, hresolve, -⟩ := hanswers
    simp only [Host.Answers] at hresolve
    simp only [h, hresolve, Declaration.notesAfter]
  | unpackaged h type cause =>
    obtain ⟨_, hresolve, _, hpackage, -⟩ := hanswers
    simp only [Host.Answers] at hresolve hpackage
    simp only [h, hresolve, hpackage, Declaration.notesAfter]
  | unimported h type package cause =>
    obtain ⟨_, hresolve, _, hpackage, _, himports, -⟩ := hanswers
    simp only [Host.Answers] at hresolve hpackage himports
    simp only [h, hresolve, hpackage, himports, Declaration.notesAfter]
  | flawed h hspell =>
    obtain ⟨_, hresolve, _, hpackage, _, himports, -⟩ := hanswers
    simp only [Host.Answers] at hresolve hpackage himports
    simp only [h, hresolve, hpackage, himports, hspell, Declaration.notesAfter]
  | committed h hcommit =>
    obtain ⟨h, type, package, imports, draft, rfl, hspell, -⟩ := h
    obtain ⟨_, hresolve, _, hpackage, _, himports, -⟩ := hanswers
    simp only [Host.Answers] at hresolve hpackage himports
    simp only [h, hresolve, hpackage, himports, hspell, List.cons_append, Declaration.notesAfter]
    split <;> rfl

end Course

/-! ### What is logged -/

/-- What the events of an attempt on `d` tell, given what it and its host said to each other. They
are traces, warnings and the event that closes the attempt. -/
structure Reported (cap : Nat) (d : Declaration) (log : List Exchange) (outcome : Outcome)
    (traces warnings : List Event) (closing : Event) : Prop where
  /-- The traces are those of the spelling, as far as it went. -/
  spelling : traces = (d.notesAfter cap log).map .note
  traces_level : ∀ e ∈ traces, e.level = .trace
  /-- There is one warning if the host broke down, and none if it did not. -/
  count : warnings.length = if log.any (·.breakdown?.isSome) then 1 else 0
  warnings_level : ∀ e ∈ warnings, e.level = .warn
  warnings_fields : warnings.map Event.fields = log.filterMap fun x => x.breakdown?.map fun cause =>
    [("message", "fault while rewriting"), ("node", toString d.id), ("stage", x.stage.text),
     ("message", cause.message)]
  closing_level : closing.level = .debug
  closing_fields : closing.fields = match outcome with
    | .applied replacement =>
      [("message", "applied"), ("node", toString d.id), ("declaration", replacement.text)]
    | .abstained stage reason =>
      [("message", "abstained"), ("node", toString d.id), ("stage", stage.text),
       ("reason", reason.message)]

/-- At most one event tells of the end itself. -/
theorem length_endEvents_le (id : NodeId) (result : Except (Stage × Halt) Declaration) :
    (endEvents id result).length ≤ 1 := by
  unfold endEvents
  split
  · exact Nat.zero_le 1
  · next stage halt =>
    cases halt with
    | abstention reason => exact Nat.zero_le 1
    | breakdown cause => exact Nat.le_refl 1

/-- Warnings of which there is at most one are one exactly if the host broke down. -/
theorem Exchange.length_warnings {log : List Exchange} {id : NodeId}
    (h : (log.filterMap (Exchange.warning? id)).length ≤ 1) :
    (log.filterMap (Exchange.warning? id)).length =
      if log.any (·.breakdown?.isSome) then 1 else 0 := by
  have hnone : log.filterMap (Exchange.warning? id) = [] ↔
      log.any (·.breakdown?.isSome) = false := by
    simp [List.filterMap_eq_nil_iff, Exchange.warning?]
  cases hbroke : log.any (·.breakdown?.isSome) with
  | false => rw [hnone.mpr hbroke]; rfl
  | true =>
    have hsome : (log.filterMap (Exchange.warning? id)).length ≠ 0 := by
      rw [Ne, List.length_eq_zero_iff, hnone, hbroke]
      exact Bool.noConfusion
    rw [if_pos rfl]
    omega

theorem Attempt.events_eq {σ : Type} (a : Attempt σ) :
    a.events = a.notes.map .note ++ endEvents a.id a.result ++ [a.outcome.event a.id] := by
  obtain ⟨id, result, host, notes⟩ := a
  cases result <;> rfl

namespace Host

variable {σ : Type} (host : Host σ) (cap : Nat) (d : Declaration) (s : σ)

theorem spellOut_id : (host.spellOut cap d s).id = d.id := by
  unfold spellOut
  repeat' split
  all_goals rfl

theorem spellOut_reported :
    let log := host.exchanges cap d s
    let outcome := (host.spellOut cap d s).outcome
    Reported cap d log outcome ((d.notesAfter cap log).map .note)
      (log.filterMap (Exchange.warning? d.id)) (outcome.event d.id) where
  spelling := rfl
  traces_level := by
    intro e he
    obtain ⟨note, -, rfl⟩ := List.mem_map.mp he
    rfl
  count := by
    have hcourse := (host.spellOut_traced cap d s).course
    refine Exchange.length_warnings ?_
    rw [exchanges, hcourse.warnings]
    exact length_endEvents_le d.id _
  warnings_level := by
    intro e he
    obtain ⟨x, -, hx⟩ := List.mem_filterMap.mp he
    obtain ⟨cause, -, rfl⟩ := Option.map_eq_some_iff.mp hx
    rfl
  warnings_fields := by
    rw [List.map_filterMap]
    congr 1
    funext x
    rw [Exchange.warning?, Option.map_map]
    rfl
  closing_level := by cases (host.spellOut cap d s).outcome <;> rfl
  closing_fields := by cases (host.spellOut cap d s).outcome <;> rfl

/-- **The log agrees with the outcome.** Whatever type is written in whatever draft, the events of
the notes tell of its names in order, one event for each of them, and of the imports that are staged
for them. And whatever the host, the events of an attempt are those of the spelling so far, a
warning exactly if the host broke down, and at the end one event that tells the outcome: the
replacement, or the stage and the reason why there is none. -/
theorem spellOut_events (type : ResolvedType) (draft : Draft) :
    type.Noted cap draft ∧
      ∃ traces warnings closing,
        (host.spellOut cap d s).events = traces ++ warnings ++ [closing] ∧
          Reported cap d (host.exchanges cap d s) (host.spellOut cap d s).outcome traces warnings
            closing := by
  refine ⟨type.spell_noted cap draft, _, _, _, ?_, host.spellOut_reported cap d s⟩
  have htraced := host.spellOut_traced cap d s
  rw [Attempt.events_eq, spellOut_id, htraced.course.notes htraced.answers,
    ← htraced.course.warnings d.id]
  rfl

/-- A host that breaks down once it has made the replacement leaves a log that says so. -/
example :
    let w : Workspace := {
      file := .empty (some (.ofText "app"))
      types := TypeTable.empty.insert "now()" (.reference (.ofText "java.time.Instant") [])
      declarations := Declarations.empty }
    let d : Declaration := ⟨7, [], [], [⟨"since", .inferred, some (.other "now()")⟩]⟩
    let host := Workspace.host.withFault (some (.breakdown .afterReplace (.text "down")))
    (host.spellOut 32 d ({ w with declarations := w.declarations.insert d }, 0)).events.map
        Event.fields =
      [[("message", "staged import"), ("site", "7"), ("import", "java.time.Instant")],
       [("message", "chose rendering"), ("site", "7"), ("qualified", "java.time.Instant"),
        ("rendering", "Instant")],
       [("message", "fault while rewriting"), ("node", "7"), ("stage", "rewriting"),
        ("message", "down")],
       [("message", "abstained"), ("node", "7"), ("stage", "rewriting"),
        ("reason", "unexpected fault: down")]] := by
  decide +kernel

end Host

end SpellOut
