import SpellOut.Proofs.Attempt.Aftermath
import SpellOut.Proofs.Attempt.Exchange

/-! The course of an attempt.

Whatever the host, an attempt can go in a few ways only. Each is told by the exchanges with the host
and by the result that the attempt comes to after them (`Course`); this is all that can happen
(`spellOut_traced`). What there is to say of the calls, of their order, and of the reason why an
attempt abstains, can then be read off the ways that it can go. -/
namespace SpellOut

/-! ### The ways to go -/

/-- How it can go to add imports: they are all added, or the host breaks down at one of them. -/
inductive Adding : List Name → List Exchange → Except Breakdown Unit → Prop
  | nil : Adding [] [] (.ok ())
  | broke (type : Name) (rest : List Name) (cause : Breakdown) :
    Adding (type :: rest) [.addImport type (.error cause)] (.error cause)
  | added (type : Name) {rest : List Name} {log : List Exchange} {result : Except Breakdown Unit}
      (h : Adding rest log result) :
    Adding (type :: rest) (.addImport type (.ok ()) :: log) result

/-- How it can go to have a request carried out. -/
inductive Commitment (q : Request) : List Exchange → Except Halt Declaration → Prop
  | broke (cause : Breakdown) :
    Commitment q [.replace q.id q.replacement (.error cause)] (.error (.breakdown cause))
  | refused :
    Commitment q [.replace q.id q.replacement (.ok false)] (.error (.abstention (.rejected q.id)))
  | interrupted {log : List Exchange} {cause : Breakdown}
      (h : Adding q.imports log (.error cause)) :
    Commitment q (.replace q.id q.replacement (.ok true) :: log) (.error (.breakdown cause))
  | completed {log : List Exchange} (h : Adding q.imports log (.ok ())) :
    Commitment q (.replace q.id q.replacement (.ok true) :: log) (.ok q.replacement)

/-- The request that a candidate comes to, with what the host was asked for it. -/
structure Spelled (cap : Nat) (d : Declaration) (q : Request) (log : List Exchange) : Prop where
  candidate : d.candidate = .ok q.candidate
  asked : ∃ type package imports draft,
    log = [.resolve q.candidate.initializer (.ok (some type)), .package (.ok package),
      .imports (.ok imports)] ∧
    type.spell cap (.ofScope (.ofFile d.id package imports)) = (.ok q.type, draft) ∧
    q.imports = draft.scope.staged

theorem Spelled.id_eq {cap : Nat} {d : Declaration} {q : Request} {log : List Exchange}
    (h : Spelled cap d q log) : q.id = d.id :=
  congrArg Declaration.id (Declaration.candidate_declaration h.candidate)

/-- How an attempt on `d` can go. -/
inductive Course (cap : Nat) (d : Declaration) :
    List Exchange → Except (Stage × Halt) Declaration → Prop
  | filtered {why : Ineligible} (h : d.candidate = .error why) :
    Course cap d [] (.error (.filtering, .abstention why.abstention))
  | unanswered {c : Candidate} (h : d.candidate = .ok c) (cause : Breakdown) :
    Course cap d [.resolve c.initializer (.error cause)] (.error (.resolving, .breakdown cause))
  | unresolved {c : Candidate} (h : d.candidate = .ok c) :
    Course cap d [.resolve c.initializer (.ok none)]
      (.error (.resolving, .abstention (.unresolved c.initializer.text)))
  | unpackaged {c : Candidate} (h : d.candidate = .ok c) (type : ResolvedType)
      (cause : Breakdown) :
    Course cap d [.resolve c.initializer (.ok (some type)), .package (.error cause)]
      (.error (.spelling, .breakdown cause))
  | unimported {c : Candidate} (h : d.candidate = .ok c) (type : ResolvedType)
      (package : Option Name) (cause : Breakdown) :
    Course cap d [.resolve c.initializer (.ok (some type)), .package (.ok package),
      .imports (.error cause)] (.error (.spelling, .breakdown cause))
  | flawed {c : Candidate} (h : d.candidate = .ok c) {type : ResolvedType}
      {package : Option Name} {imports : List Import} {flaw : TypeFlaw} {draft : Draft}
      (hspell : type.spell cap (.ofScope (.ofFile d.id package imports)) = (.error flaw, draft)) :
    Course cap d [.resolve c.initializer (.ok (some type)), .package (.ok package),
      .imports (.ok imports)] (.error (.spelling, .abstention (.flawed flaw)))
  | committed {q : Request} {asked log : List Exchange} {result : Except Halt Declaration}
      (h : Spelled cap d q asked) (hcommit : Commitment q log result) :
    Course cap d (asked ++ log) (result.mapError fun halt => (.replacing, halt))

/-! ### There is no other -/

namespace Host

variable {σ : Type} (host : Host σ)

/-- Adding imports goes alike with a log and without, and in one of the ways. -/
theorem addImports_logged (types : List Name) (s : σ) (log : List Exchange) :
    ∃ result t more, host.addImports types s = (result, t) ∧
      host.logged.addImports types (s, log) = (result, t, log ++ more) ∧
      host.AnswersAll s more t ∧ Adding types more result := by
  induction types generalizing s log with
  | nil => exact ⟨.ok (), s, [], rfl, by rw [List.append_nil]; rfl, rfl, .nil⟩
  | cons type rest ih =>
    rcases hcall : host.addImport type s with ⟨answer, t⟩
    have hlogged : host.logged.addImport type (s, log) =
        (answer, t, log ++ [.addImport type answer]) := logCall_eq hcall log
    cases answer with
    | error cause =>
      exact ⟨.error cause, t, [.addImport type (.error cause)], by rw [addImports, hcall],
        by rw [addImports, hlogged], ⟨t, hcall, rfl⟩, .broke type rest cause⟩
    | ok _ =>
      obtain ⟨result, u, more, hplain, hlog, hanswers, hadding⟩ :=
        ih t (log ++ [.addImport type (.ok ())])
      refine ⟨result, u, .addImport type (.ok ()) :: more, ?_, ?_, ⟨t, hcall, hanswers⟩,
        .added type hadding⟩
      · rw [addImports, hcall]
        exact hplain
      · rw [addImports, hlogged]
        exact hlog.trans (by rw [List.append_assoc]; rfl)

/-- A request is carried out alike with a log and without, and in one of the ways. -/
theorem commit_logged (q : Request) (s : σ) (log : List Exchange) :
    ∃ result t more, host.commit q.candidate q.type q.imports s = (result, t) ∧
      host.logged.commit q.candidate q.type q.imports (s, log) = (result, t, log ++ more) ∧
      host.AnswersAll s more t ∧ Commitment q more result := by
  rcases hcall : host.replace q.id q.replacement s with ⟨answer, t⟩
  have hlogged : host.logged.replace q.id q.replacement (s, log) =
      (answer, t, log ++ [.replace q.id q.replacement answer]) := logCall_eq hcall log
  cases answer with
  | error cause =>
    exact ⟨_, t, _, commit_of_breakdown hcall, commit_of_breakdown hlogged, ⟨t, hcall, rfl⟩,
      .broke cause⟩
  | ok accepted =>
  cases accepted with
  | false =>
    exact ⟨_, t, _, commit_of_refusal hcall, commit_of_refusal hlogged, ⟨t, hcall, rfl⟩, .refused⟩
  | true =>
    obtain ⟨result, u, more, hplain, hlog, hanswers, hadding⟩ :=
      host.addImports_logged q.imports t (log ++ [.replace q.id q.replacement (.ok true)])
    rw [List.append_assoc] at hlog
    cases result with
    | error cause =>
      exact ⟨_, u, _, commit_of_interruption hcall hplain, commit_of_interruption hlogged hlog,
        ⟨t, hcall, hanswers⟩, .interrupted hadding⟩
    | ok _ =>
      exact ⟨_, u, _, commit_of_completion hcall hplain, commit_of_completion hlogged hlog,
        ⟨t, hcall, hanswers⟩, .completed hadding⟩

/-- Two attempts on `d`, `a` with the host and `b` with the host that keeps a log. They go alike,
and the log tells how. -/
structure Traced (cap : Nat) (d : Declaration) (s : σ) (a : Attempt σ)
    (b : Attempt (σ × List Exchange)) : Prop where
  result : b.result = a.result
  state : b.host.1 = a.host
  answers : host.AnswersAll s b.host.2 a.host
  course : Course cap d b.host.2 a.result

variable {host}

theorem Traced.intro {cap : Nat} {d : Declaration} {s t : σ} {log : List Exchange}
    {result : Except (Stage × Halt) Declaration} {id : NodeId} {notes : List Note}
    (hanswers : host.AnswersAll s log t) (hcourse : Course cap d log result) :
    host.Traced cap d s ⟨id, result, t, notes⟩ ⟨id, result, (t, log), notes⟩ :=
  ⟨rfl, rfl, hanswers, hcourse⟩

/-- An attempt goes in one of the ways, and goes so with a log too. -/
theorem spellOut_traced (host : Host σ) (cap : Nat) (d : Declaration) (s : σ) :
    host.Traced cap d s (host.spellOut cap d s) (host.logged.spellOut cap d (s, [])) := by
  unfold spellOut
  cases hc : d.candidate with
  | error why => exact .intro rfl (.filtered hc)
  | ok c =>
  rcases hresolve : host.resolve c.initializer s with ⟨answer, t⟩
  have hresolve' : ∀ log, host.logged.resolve c.initializer (s, log) =
      (answer, t, log ++ [.resolve c.initializer answer]) := logCall_eq hresolve
  simp only [hresolve, hresolve']
  cases answer with
  | error cause => exact .intro ⟨t, hresolve, rfl⟩ (.unanswered hc cause)
  | ok resolved =>
  cases resolved with
  | none => exact .intro ⟨t, hresolve, rfl⟩ (.unresolved hc)
  | some type =>
  rcases hpackage : host.package t with ⟨answer, u⟩
  have hpackage' : ∀ log, host.logged.package (t, log) = (answer, u, log ++ [.package answer]) :=
    logCall_eq hpackage
  simp only [hpackage, hpackage']
  cases answer with
  | error cause => exact .intro ⟨t, hresolve, u, hpackage, rfl⟩ (.unpackaged hc type cause)
  | ok package =>
  rcases himports : host.imports u with ⟨answer, v⟩
  have himports' : ∀ log, host.logged.imports (u, log) = (answer, v, log ++ [.imports answer]) :=
    logCall_eq himports
  simp only [himports, himports']
  cases answer with
  | error cause =>
    exact .intro ⟨t, hresolve, u, hpackage, v, himports, rfl⟩ (.unimported hc type package cause)
  | ok imports =>
  have hanswers : host.AnswersAll s [.resolve c.initializer (.ok (some type)),
      .package (.ok package), .imports (.ok imports)] v :=
    ⟨t, hresolve, u, hpackage, v, himports, rfl⟩
  rcases hspell : type.spell cap (.ofScope (.ofFile d.id package imports)) with ⟨result, draft⟩
  cases result with
  | error flaw =>
    simp only [hspell]
    exact .intro hanswers (.flawed hc hspell)
  | ok e =>
  obtain ⟨result, w, more, hplain, hlog, hcommitted, hcommit⟩ :=
    host.commit_logged ⟨c, e, draft.scope.staged⟩ v [.resolve c.initializer (.ok (some type)),
      .package (.ok package), .imports (.ok imports)]
  have hspelled : Spelled cap d ⟨c, e, draft.scope.staged⟩ [.resolve c.initializer
      (.ok (some type)), .package (.ok package), .imports (.ok imports)] :=
    ⟨hc, type, package, imports, draft, rfl, hspell, rfl⟩
  simp only [hspell, List.nil_append, List.cons_append, hplain, hlog]
  cases result with
  | error halt => exact .intro (hanswers.append hcommitted) (.committed hspelled hcommit)
  | ok r => exact .intro (hanswers.append hcommitted) (.committed hspelled hcommit)

end Host

end SpellOut
