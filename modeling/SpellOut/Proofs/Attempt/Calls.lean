import SpellOut.Proofs.Attempt.Course

/-! The calls of an attempt, and the reason it gives for its end.

An attempt makes its calls in one order, each at most once but for the imports at the end, and gets
as far with them as the answers let it (`InOrder`). Where it abstains, the stage and the reason that
it reports are those of the exchange that came last, or of the declaration if there was none
(`Accounted`). If the host never breaks down, the attempt succeeds exactly if all goes through
(`GoesThrough`). All of this holds for any host (`spellOut_calls`). -/
namespace SpellOut

/-! ### Candidates -/

/-- A candidate declares one variable, whose type is inferred from an initializer that is
supported. -/
theorem Declaration.candidate_eq_ok_iff {d : Declaration} {c : Candidate} :
    d.candidate = .ok c ↔
      d.declarators = [⟨c.variableName, .inferred, some c.initializer⟩] ∧
        c.initializer.unsupported? = none ∧ c.declaration = d := by
  constructor
  · intro h
    have hdeclaration := candidate_declaration h
    unfold candidate at h
    split at h
    · next v hv =>
      split at h
      · cases h
      · cases h
      · next initializer htype hinitializer =>
        split at h
        · cases h
        · next hsupported =>
          cases h
          refine ⟨?_, hsupported, rfl⟩
          rw [hv, ← htype, ← hinitializer]
    · cases h
  · intro h
    obtain ⟨hone, hsupported, rfl⟩ := h
    simp only [candidate, hone, hsupported]

/-! ### What is said of a log -/

/-- The calls are those of an attempt on `d`, in their order, as far as it gets. -/
def InOrder (d : Declaration) (calls : List Query) : Prop :=
  match d.candidate with
  | .error _ => calls = []
  | .ok c => ∃ (type : SpelledType) (added : List Name), (c.withType type).id = d.id ∧
      calls <+: [.resolve c.initializer, .package, .imports, .replace d.id (c.withType type)] ++
        added.map Query.addImport

/-- The log accounts for an attempt on `d` that abstains at a stage, for a reason. -/
inductive Accounted (cap : Nat) (d : Declaration) (log : List Exchange) : Stage → Abstention → Prop
  | notCandidate {why : Ineligible} (h : d.candidate = .error why)
      (hother : ∀ kind, why ≠ .unsupported kind) :
    Accounted cap d log .filtering (.notCandidate why)
  | unsupported {kind : Unsupported} (h : d.candidate = .error (.unsupported kind)) :
    Accounted cap d log .filtering (.unsupported kind)
  | unresolved {c : Candidate} (h : d.candidate = .ok c)
      (hlast : log.getLast? = some (.resolve c.initializer (.ok none))) :
    Accounted cap d log .resolving (.unresolved c.initializer.text)
  | flawed {i : Initializer} {type : ResolvedType} {package : Option Name} {imports : List Import}
      {flaw : TypeFlaw} (hresolved : .resolve i (.ok (some type)) ∈ log)
      (hpackage : .package (.ok package) ∈ log)
      (hlast : log.getLast? = some (.imports (.ok imports)))
      (hspell : (type.spell cap (.ofScope (.ofFile d.id package imports))).1 = .error flaw) :
    Accounted cap d log .spelling (.flawed flaw)
  | rejected {r : Declaration} (hlast : log.getLast? = some (.replace d.id r (.ok false))) :
    Accounted cap d log .replacing (.rejected d.id)
  | fault {x : Exchange} {cause : Breakdown} (hlast : log.getLast? = some x)
      (hbroke : x.breakdown? = some cause) :
    Accounted cap d log x.stage (.fault cause.message)

/-- The declaration has one variable, whose type is inferred from an initializer that is supported;
the type of this is known and can be written in the scope of the file, and the host accepts the
declaration with the type written out. -/
def GoesThrough (cap : Nat) (d : Declaration) (log : List Exchange) : Prop :=
  ∃ name initializer type package imports e draft,
    d.declarators = [⟨name, .inferred, some initializer⟩] ∧ initializer.unsupported? = none ∧
      .resolve initializer (.ok (some type)) ∈ log ∧
      .package (.ok package) ∈ log ∧ .imports (.ok imports) ∈ log ∧
      type.spell cap (.ofScope (.ofFile d.id package imports)) = (.ok e, draft) ∧
      .replace d.id { d with declarators := [⟨name, .explicit e.text, some initializer⟩] }
        (.ok true) ∈ log

theorem Accounted.exists_of_filtering {cap : Nat} {d : Declaration} {log : List Exchange}
    {stage : Stage} {reason : Abstention} (h : Accounted cap d log stage reason)
    (hstage : stage = .filtering) : ∃ why, d.candidate = .error why := by
  cases h with
  | notCandidate h _ => exact ⟨_, h⟩
  | unsupported h => exact ⟨_, h⟩
  | @fault x cause _ _ => cases x <;> cases hstage
  | _ => cases hstage

theorem Attempt.isApplied_iff {σ : Type} {a : Attempt σ} :
    a.outcome.isApplied = true ↔ ∃ r, a.result = .ok r := by
  unfold outcome
  cases a.result with
  | ok r => simp [Outcome.isApplied]
  | error e => simp [Outcome.isApplied]

/-! ### Adding imports -/

namespace Adding

variable {types : List Name} {log : List Exchange} {result : Except Breakdown Unit}

theorem queries (h : Adding types log result) :
    log.map Exchange.query <+: types.map Query.addImport := by
  induction h with
  | nil => exact List.prefix_refl _
  | broke type rest cause => exact ⟨rest.map Query.addImport, rfl⟩
  | added type h ih => exact List.cons_prefix_cons.mpr ⟨rfl, ih⟩

/-- What goes wrong goes wrong last. -/
theorem getLast? {cause : Breakdown} (h : Adding types log result)
    (hresult : result = .error cause) :
    ∃ type, log.getLast? = some (.addImport type (.error cause)) := by
  induction h with
  | nil => cases hresult
  | broke type rest cause =>
    cases hresult
    exact ⟨type, rfl⟩
  | added type h ih =>
    obtain ⟨last, hlast⟩ := ih hresult
    exact ⟨last, by rw [List.getLast?_cons, hlast]; rfl⟩

end Adding

theorem Commitment.queries {q : Request} {log : List Exchange} {result : Except Halt Declaration}
    (h : Commitment q log result) :
    log.map Exchange.query <+:
      .replace q.id q.replacement :: q.imports.map Query.addImport := by
  cases h with
  | broke cause => exact ⟨_, rfl⟩
  | refused => exact ⟨_, rfl⟩
  | interrupted h => exact List.cons_prefix_cons.mpr ⟨rfl, h.queries⟩
  | completed h => exact List.cons_prefix_cons.mpr ⟨rfl, h.queries⟩

/-- A request that is not carried out is refused, or the host breaks down last. -/
theorem Commitment.last {q : Request} {log : List Exchange} {halt : Halt}
    (h : Commitment q log (.error halt)) :
    (log.getLast? = some (.replace q.id q.replacement (.ok false)) ∧
        halt = .abstention (.rejected q.id)) ∨
      ∃ x cause, log.getLast? = some x ∧ x.stage = .replacing ∧ x.breakdown? = some cause ∧
        halt = .breakdown cause := by
  cases h with
  | broke cause => exact .inr ⟨_, cause, rfl, rfl, rfl, rfl⟩
  | refused => exact .inl ⟨rfl, rfl⟩
  | interrupted h =>
    obtain ⟨type, hlast⟩ := h.getLast? rfl
    exact .inr ⟨_, _, by rw [List.getLast?_cons, hlast, Option.getD_some], rfl, rfl, rfl⟩

/-! ### Attempts -/

namespace Course

variable {cap : Nat} {d : Declaration} {log : List Exchange}
  {result : Except (Stage × Halt) Declaration}

theorem inOrder (h : Course cap d log result) : InOrder d (log.map Exchange.query) := by
  have hcut : ∀ {c : Candidate} {calls : List Query}, d.candidate = .ok c →
      calls <+: [.resolve c.initializer, .package, .imports] → InOrder d calls := by
    intro c calls hc hcalls
    have hid := congrArg Declaration.id (Declaration.candidate_declaration hc)
    rw [InOrder, hc]
    exact ⟨.raw "", [], hid, hcalls.trans ⟨_, rfl⟩⟩
  cases h with
  | filtered h => rw [InOrder, h]; rfl
  | unanswered h cause => exact hcut h ⟨_, rfl⟩
  | unresolved h => exact hcut h ⟨_, rfl⟩
  | unpackaged h type cause => exact hcut h ⟨_, rfl⟩
  | unimported h type package cause => exact hcut h ⟨_, rfl⟩
  | flawed h hspell => exact hcut h ⟨_, rfl⟩
  | @committed q _ _ _ h hcommit =>
    have hid : q.id = d.id := h.id_eq
    obtain ⟨hc, type, package, imports, draft, rfl, -, -⟩ := h
    rw [InOrder, hc]
    refine ⟨q.type, q.imports, hid, ?_⟩
    have hcalls := hcommit.queries
    rw [hid] at hcalls
    simpa [Exchange.query, Request.replacement] using hcalls

/-- Where an attempt abstains, its log accounts for the stage and the reason. -/
theorem accounted (h : Course cap d log result) {stage : Stage} {halt : Halt}
    (hresult : result = .error (stage, halt)) : Accounted cap d log stage halt.reason := by
  cases h with
  | @filtered why h =>
    cases hresult
    cases why with
    | variableCount count => exact .notCandidate h nofun
    | explicitType => exact .notCandidate h nofun
    | noInitializer => exact .notCandidate h nofun
    | unsupported kind => exact .unsupported h
  | @unanswered c h cause =>
    cases hresult
    exact .fault (x := .resolve c.initializer (.error cause)) rfl rfl
  | unresolved h =>
    cases hresult
    exact .unresolved h rfl
  | unpackaged h type cause =>
    cases hresult
    exact .fault (x := .package (.error cause)) rfl rfl
  | unimported h type package cause =>
    cases hresult
    exact .fault (x := .imports (.error cause)) rfl rfl
  | flawed h hspell =>
    cases hresult
    exact .flawed List.mem_cons_self (List.mem_cons_of_mem _ List.mem_cons_self) rfl
      (congrArg Prod.fst hspell)
  | @committed q asked log result h hcommit =>
    cases result with
    | ok r => cases hresult
    | error halt =>
      cases hresult
      rcases hcommit.last with ⟨hlast, rfl⟩ | ⟨x, cause, hlast, hstage, hbroke, rfl⟩
      · rw [h.id_eq] at hlast ⊢
        refine .rejected (r := q.replacement) ?_
        rw [List.getLast?_append, hlast]
        rfl
      · rw [← hstage]
        refine .fault ?_ hbroke
        rw [List.getLast?_append, hlast]
        rfl

theorem goesThrough (h : Course cap d log result) {r : Declaration} (hresult : result = .ok r) :
    GoesThrough cap d log := by
  cases h with
  | @committed q _ _ result h hcommit =>
    cases hcommit with
    | completed hadding =>
      have hid : q.id = d.id := h.id_eq
      obtain ⟨hc, type, package, imports, draft, rfl, hspell, -⟩ := h
      obtain ⟨hone, hsupported, hd⟩ := Declaration.candidate_eq_ok_iff.mp hc
      have hreplacement : q.replacement = { d with declarators :=
          [⟨q.candidate.variableName, .explicit q.type.text, some q.candidate.initializer⟩] } := by
        rw [Request.replacement, Candidate.withType, hd]
      rw [hid, hreplacement]
      exact ⟨_, _, type, package, imports, q.type, draft, hone, hsupported, by simp, by simp,
        by simp, hspell, by simp⟩
    | broke cause => cases hresult
    | refused => cases hresult
    | interrupted hadding => cases hresult
  | _ => cases hresult

/-- If no call breaks down and all goes through, an attempt succeeds. -/
theorem succeeds (h : Course cap d log result) (hfaultless : ∀ x ∈ log, x.breakdown? = none)
    (hgoes : GoesThrough cap d log) : ∃ r, result = .ok r := by
  obtain ⟨name, initializer, type, package, imports, e, draft, hone, hsupported, hresolved,
    hpackage, himports, hspell, hreplaced⟩ := hgoes
  have hc : d.candidate = .ok ⟨d, name, initializer⟩ :=
    Declaration.candidate_eq_ok_iff.mpr ⟨hone, hsupported, rfl⟩
  -- a breakdown anywhere in the log is not to be had
  have hnobreak : ∀ x cause, x ∈ log → x.breakdown? ≠ some cause := by
    intro x cause hx hbroke
    cases (hfaultless x hx).symm.trans hbroke
  cases h with
  | filtered h => cases h.symm.trans hc
  | @unanswered c h cause =>
    exact absurd rfl (hnobreak (.resolve c.initializer (.error cause)) cause (by simp))
  | unresolved h => simp at hresolved
  | unpackaged h type cause =>
    exact absurd rfl (hnobreak (.package (.error cause)) cause (by simp))
  | unimported h type package cause =>
    exact absurd rfl (hnobreak (.imports (.error cause)) cause (by simp))
  | flawed h hflaw =>
    simp at hresolved hpackage himports
    obtain ⟨-, rfl⟩ := hresolved
    subst hpackage himports
    cases hspell.symm.trans hflaw
  | @committed q asked log result h hcommit =>
    obtain ⟨-, _, _, _, _, rfl, -, -⟩ := h
    cases hcommit with
    | broke cause =>
      exact absurd rfl (hnobreak (.replace q.id q.replacement (.error cause)) cause (by simp))
    | refused => simp at hreplaced
    | @interrupted _ cause hadding =>
      obtain ⟨type, hlast⟩ := hadding.getLast? rfl
      have hmem := List.mem_of_getLast? hlast
      exact absurd rfl (hnobreak (.addImport type (.error cause)) cause (by simp [hmem]))
    | completed hadding => exact ⟨_, rfl⟩

end Course

/-- **Calls come in order, and the end is accounted for.** Of any host, an attempt asks what it asks
in one order. It fails to get past the filter exactly if the declaration is no candidate, it gives a
stage and a reason that its log accounts for, and it succeeds exactly if all goes through, provided
that no call breaks down. -/
theorem Host.spellOut_calls {σ : Type} (host : Host σ) (cap : Nat) (d : Declaration) (s : σ) :
    let a := host.spellOut cap d s
    let log := host.exchanges cap d s
    InOrder d (log.map Exchange.query) ∧
      ((∃ reason, a.outcome = .abstained .filtering reason) ↔ ∃ why, d.candidate = .error why) ∧
      (∀ stage reason, a.outcome = .abstained stage reason → Accounted cap d log stage reason) ∧
      ((∀ x ∈ log, x.breakdown? = none) →
        (a.outcome.isApplied = true ↔ GoesThrough cap d log)) := by
  intro a log
  have hcourse : Course cap d log a.result := (host.spellOut_traced cap d s).course
  have haccounted : ∀ stage reason, a.outcome = .abstained stage reason →
      Accounted cap d log stage reason := by
    intro stage reason h
    unfold Attempt.outcome at h
    split at h
    · cases h
    · next stage halt hresult =>
      cases h
      exact hcourse.accounted hresult
  have hfiltered : ∀ why, d.candidate = .error why →
      a.outcome = .abstained .filtering why.abstention := by
    intro why hwhy
    simp only [a, Host.spellOut, hwhy]
    rfl
  refine ⟨hcourse.inOrder, ⟨fun h => ?_, fun h => ?_⟩, haccounted, fun hfaultless => ?_⟩
  · obtain ⟨reason, h⟩ := h
    exact (haccounted _ _ h).exists_of_filtering rfl
  · obtain ⟨why, hwhy⟩ := h
    exact ⟨_, hfiltered why hwhy⟩
  · rw [Attempt.isApplied_iff]
    constructor
    · intro h
      obtain ⟨r, hr⟩ := h
      exact hcourse.goesThrough hr
    · exact hcourse.succeeds hfaultless

namespace Workspace

/-- A declaration `var since = start()`. -/
def since : Declaration := ⟨4, [], [], [⟨"since", .inferred, some (.other "start()")⟩]⟩

def sinceWorkspace : Workspace where
  file := .empty (some (.ofText "app"))
  types := TypeTable.empty.insert "start()" (.reference (.ofText "java.time.Instant") [])
  declarations := Declarations.empty.insert since

/-- An attempt on it makes every call once, and succeeds since all goes through. -/
theorem since_calls :
    let a := host.spellOut 32 since sinceWorkspace
    let log := host.exchanges 32 since sinceWorkspace
    log.map Exchange.query = [.resolve (.other "start()"), .package, .imports,
        .replace 4 ⟨4, [], [], [⟨"since", .explicit "Instant", some (.other "start()")⟩]⟩,
        .addImport (.ofText "java.time.Instant")] ∧
      (∀ x ∈ log, x.breakdown? = none) ∧ a.outcome.isApplied = true ∧ GoesThrough 32 since log := by
  intro a log
  have hqueries : log.map Exchange.query = [.resolve (.other "start()"), .package, .imports,
      .replace 4 ⟨4, [], [], [⟨"since", .explicit "Instant", some (.other "start()")⟩]⟩,
      .addImport (.ofText "java.time.Instant")] := by
    decide +kernel
  have hfaultless : ∀ x ∈ log, x.breakdown? = none := by
    decide +kernel
  have happlied : a.outcome.isApplied = true := by
    decide +kernel
  obtain ⟨-, -, -, hiff⟩ := host.spellOut_calls 32 since sinceWorkspace
  exact ⟨hqueries, hfaultless, happlied, (hiff hfaultless).mp happlied⟩

end Workspace

end SpellOut
