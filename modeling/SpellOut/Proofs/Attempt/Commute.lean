import SpellOut.Proofs.Attempt.Aftermath
import SpellOut.Proofs.Scope.Ahead

/-! Attempts on independent declarations commute.

An attempt on one declaration leaves imports in the file, and an attempt on another one finds them
there. It can tell that they are there only by a name of its own type: by one that it would have
asked for itself, by another with that simple name, or by an owner of one. If the names in the types
of the two declarations keep apart, what is left is the first case, and there it makes no difference
who asks for the import (`AheadFor.spellOut`). So each attempt comes out as it would on its own, and
the order of the two shows in nothing but the order of the imports (`spellOut_commute`). -/
namespace SpellOut.Workspace

variable {w w' : Workspace} {cap : Nat} {d : Declaration} {q : Request}

/-! ### What an attempt comes to -/

/-- What an attempt on `d` comes to: a request that gets done, or a reason to abstain. -/
def verdict (w : Workspace) (cap : Nat) (d : Declaration) : Except (Stage × Halt) Request :=
  match d.candidate with
  | .error why => .error (.filtering, .abstention why.abstention)
  | .ok c =>
    match w.types.find? c.initializer.text with
    | none => .error (.resolving, .abstention (.unresolved c.initializer.text))
    | some type =>
      match type.spell cap (.ofScope (.ofFile d.id w.file.package w.file.imports)) with
      | (.error flaw, _) => .error (.spelling, .abstention (.flawed flaw))
      | (.ok e, draft) =>
        if (w.declarations.find? d.id).isSome then .ok ⟨c, e, draft.scope.staged⟩
        else .error (.replacing, .abstention (.rejected d.id))

/-- The names in the type of the initializer of `d`, if `d` is a candidate and the type is known. -/
def referencesOf (w : Workspace) (d : Declaration) : List Name :=
  match d.candidate with
  | .error _ => []
  | .ok c =>
    match w.types.find? c.initializer.text with
    | none => []
    | some type => type.references

/-- The workspace that an attempt with this verdict leaves. -/
def settled (w : Workspace) : Except (Stage × Halt) Request → Workspace
  | .ok q => w.after q q.imports.length
  | .error _ => w

/-- The types whose import an attempt with this verdict adds. -/
def additions : Except (Stage × Halt) Request → List Name
  | .ok q => q.imports
  | .error _ => []

/-- Where a request that gets done comes from. -/
theorem exists_of_verdict (h : w.verdict cap d = .ok q) :
    d.candidate = .ok q.candidate ∧ ∃ type draft,
      w.types.find? q.candidate.initializer.text = some type ∧
        type.spell cap (.ofScope (.ofFile d.id w.file.package w.file.imports)) =
          (.ok q.type, draft) ∧
        q.imports = draft.scope.staged := by
  unfold verdict at h
  split at h
  · cases h
  · next hc =>
    split at h
    · cases h
    · next htype =>
      split at h
      · cases h
      · next hspell =>
        split at h
        · cases h
          exact ⟨hc, _, _, htype, hspell, rfl⟩
        · cases h

theorem addImports_host (types : List Name) (w : Workspace) :
    host.addImports types w = (.ok (), { w with file := w.file.declareAll types }) := by
  induction types generalizing w with
  | nil => rfl
  | cons type rest ih => exact ih (w.declare (.single type))

theorem commit_host (w : Workspace) (q : Request) :
    host.commit q.candidate q.type q.imports w =
      if (w.declarations.find? q.id).isSome then (.ok q.replacement, w.after q q.imports.length)
      else (.error (.abstention (.rejected q.id)), w) := by
  have hreplace : host.replace q.id q.replacement w =
      (.ok (w.replace q.id q.replacement).1, (w.replace q.id q.replacement).2) := rfl
  split
  · next hpresent =>
    rw [Host.replace_of_present hpresent] at hreplace
    rw [Host.commit_of_completion hreplace (addImports_host q.imports _), Host.after_all]
  · next hmissing =>
    rw [Host.replace_of_absent (Bool.eq_false_iff.mpr hmissing)] at hreplace
    exact Host.commit_of_refusal hreplace

/-- An attempt on a workspace comes to its verdict and to nothing else. -/
theorem spellOut_verdict (w : Workspace) (cap : Nat) (d : Declaration) :
    (host.spellOut cap d w).result = (w.verdict cap d).map Request.replacement ∧
      (host.spellOut cap d w).host = w.settled (w.verdict cap d) := by
  have hresolve : ∀ i, host.resolve i w = (.ok (w.types.find? i.text), w) := fun _ => rfl
  have hpackage : host.package w = (.ok w.file.package, w) := rfl
  have himports : host.imports w = (.ok w.file.imports, w) := rfl
  unfold verdict Host.spellOut
  cases hc : d.candidate with
  | error why => exact ⟨rfl, rfl⟩
  | ok c =>
    simp only [hresolve]
    cases w.types.find? c.initializer.text with
    | none => exact ⟨rfl, rfl⟩
    | some type =>
      simp only [hpackage, himports]
      obtain ⟨result, draft⟩ :=
        type.spell cap (.ofScope (.ofFile d.id w.file.package w.file.imports))
      cases result with
      | error flaw => exact ⟨rfl, rfl⟩
      | ok e =>
        have hid : c.declaration.id = d.id := congrArg _ (Declaration.candidate_declaration hc)
        have hcommit := commit_host w ⟨c, e, draft.scope.staged⟩
        simp only [Request.id, hid] at hcommit
        cases hpresent : (w.declarations.find? d.id).isSome with
        | true =>
          rw [hpresent, if_pos rfl] at hcommit
          simp only [hcommit, if_true]
          exact ⟨rfl, rfl⟩
        | false =>
          rw [hpresent, if_neg Bool.false_ne_true] at hcommit
          simp only [hcommit, Bool.false_eq_true, if_false]
          exact ⟨rfl, rfl⟩

/-- After a type is written in the scope of a file, the imports of the file are in sight and those
that were asked for. -/
theorem mem_imports_spell {type : ResolvedType} {site : NodeId} {package : Option Name}
    {imports : List Import} {e : SpelledType} {draft : Draft}
    (h : type.spell cap (.ofScope (.ofFile site package imports)) = (.ok e, draft)) {i : Import} :
    i ∈ draft.scope.imports ↔ i ∈ imports ∨ ∃ type ∈ draft.scope.staged, i = .single type := by
  rw [Scope.imports_of_spell rfl h, List.mem_append, Scope.mem_imports_ofFile, List.mem_map]
  simp only [eq_comm]

/-- What an attempt adds is named in the type of the declaration, and was wanted in the file before,
wherever in the file. -/
theorem mem_additions {type : Name} (h : type ∈ additions (w.verdict cap d)) :
    type ∈ w.referencesOf d ∧
      ∀ site, (Scope.ofFile site w.file.package w.file.imports).Wanted type := by
  cases hverdict : w.verdict cap d with
  | error e =>
    rw [hverdict] at h
    cases h
  | ok q =>
    obtain ⟨hc, t, draft, htype, hspell, hstaged⟩ := exists_of_verdict hverdict
    obtain ⟨-, -, hscope⟩ := ResolvedType.spell_written hspell
    rw [hverdict, additions, hstaged, hscope] at h
    rcases Scope.wanted_of_mem_staged h with hstart | ⟨hname, hwanted⟩
    · cases hstart
    · have hreferences : w.referencesOf d = t.references := by
        simp only [referencesOf, hc, htype]
      exact ⟨hreferences ▸ hname, fun site => hwanted.anti rfl (List.Subset.refl _)⟩

theorem mem_imports_settled {v : Except (Stage × Halt) Request} {i : Import} :
    i ∈ (w.settled v).file.imports ↔
      i ∈ w.file.imports ∨ ∃ type ∈ additions v, i = .single type := by
  cases v with
  | error e => simp [settled, additions]
  | ok q =>
    rw [settled, after, List.take_length, SourceFile.mem_imports_declareAll]
    simp only [additions, eq_comm]

/-! ### An attempt on a workspace that is ahead -/

/-- For an attempt on `d`, a workspace `w'` differs from `w` only by additional imports. These are
wanted in `w` and keep apart from the names in the type of `d`. -/
structure AheadFor (d : Declaration) (more : List Name) (w w' : Workspace) : Prop where
  types : w'.types = w.types
  package : w'.file.package = w.file.package
  present : w'.declarations.find? d.id = w.declarations.find? d.id
  imports : ∀ i, i ∈ w'.file.imports ↔ i ∈ w.file.imports ∨ ∃ type ∈ more, i = .single type
  wanted : ∀ type ∈ more, (Scope.ofFile d.id w.file.package w.file.imports).Wanted type
  apart : ∀ type ∈ more, ∀ name ∈ w.referencesOf d, type.Apart name

/-- In a workspace that is ahead an attempt abstains for the same reason, or it makes the same
replacement; and the workspace is ahead by the same imports afterwards. -/
theorem AheadFor.verdict_cases {more : List Name} (h : AheadFor d more w w') (cap : Nat) :
    (∃ e, w.verdict cap d = .error e ∧ w'.verdict cap d = .error e) ∨
      ∃ q q', w.verdict cap d = .ok q ∧ w'.verdict cap d = .ok q' ∧
        q'.replacement = q.replacement ∧
        ∀ i : Import, i ∈ w'.file.imports ∨ (∃ type ∈ q'.imports, i = .single type) ↔
          (i ∈ w.file.imports ∨ ∃ type ∈ q.imports, i = .single type) ∨
            ∃ type ∈ more, i = .single type := by
  have hapart := h.apart
  unfold referencesOf at hapart
  unfold Workspace.verdict
  rw [h.types]
  cases hc : d.candidate with
  | error why => exact .inl ⟨_, rfl, rfl⟩
  | ok c =>
    simp only [hc] at hapart
    simp only
    cases htype : w.types.find? c.initializer.text with
    | none => exact .inl ⟨_, rfl, rfl⟩
    | some type =>
      simp only [htype] at hapart
      have hsight : ∀ i : Import,
          i ∈ (Scope.ofFile d.id w'.file.package w'.file.imports).imports ↔
            i ∈ (Scope.ofFile d.id w.file.package w.file.imports).imports ∨
              ∃ type ∈ more, i = .single type := by
        intro i
        rw [Scope.mem_imports_ofFile, Scope.mem_imports_ofFile, h.imports]
      obtain ⟨hresult, himports⟩ :=
        ResolvedType.spell_ahead cap h.package.symm hsight h.wanted hapart
      simp only
      cases hspell : type.spell cap (.ofScope (.ofFile d.id w.file.package w.file.imports)) with
      | mk result draft =>
      cases hspell' : type.spell cap (.ofScope (.ofFile d.id w'.file.package w'.file.imports)) with
      | mk result' draft' =>
        rw [hspell, hspell'] at hresult himports
        cases hresult
        cases result with
        | error flaw => exact .inl ⟨_, rfl, rfl⟩
        | ok e =>
          rw [h.present]
          cases (w.declarations.find? d.id).isSome with
          | false => exact .inl ⟨_, rfl, rfl⟩
          | true =>
            refine .inr ⟨_, _, rfl, rfl, rfl, fun i => ?_⟩
            have hi := himports i
            rw [mem_imports_spell hspell, mem_imports_spell hspell'] at hi
            exact hi

/-- An attempt comes out in a workspace that is ahead as it does in the one behind. -/
theorem AheadFor.spellOut {more : List Name} (h : AheadFor d more w w') (cap : Nat) :
    (host.spellOut cap d w').result = (host.spellOut cap d w).result ∧
      ∀ i, i ∈ (host.spellOut cap d w').host.file.imports ↔
        i ∈ (host.spellOut cap d w).host.file.imports ∨ ∃ type ∈ more, i = .single type := by
  obtain ⟨hresult, hhost⟩ := spellOut_verdict w cap d
  obtain ⟨hresult', hhost'⟩ := spellOut_verdict w' cap d
  rw [hresult, hresult', hhost, hhost']
  simp only [mem_imports_settled]
  rcases h.verdict_cases cap with ⟨e, he, he'⟩ | ⟨q, q', hq, hq', hreplacement, himports⟩
  · rw [he, he']
    exact ⟨rfl, by simp [additions, h.imports]⟩
  · rw [hq, hq']
    exact ⟨congrArg Except.ok hreplacement, himports⟩

/-! ### Two attempts -/

/-- The names in the types of the two declarations do not interfere. -/
def Independent (w : Workspace) (d₁ d₂ : Declaration) : Prop :=
  ∀ a ∈ w.referencesOf d₁, ∀ b ∈ w.referencesOf d₂, a.Apart b

instance (w : Workspace) (d₁ d₂ : Declaration) : Decidable (w.Independent d₁ d₂) := by
  unfold Independent
  infer_instance

theorem Independent.symm {d₁ d₂ : Declaration} (h : w.Independent d₁ d₂) : w.Independent d₂ d₁ :=
  fun b hb a ha => (h a ha b hb).symm

/-- The declarations with a replacement, if there is one. -/
def replaced {ε : Type} (ds : Declarations) : Except ε Declaration → Declarations
  | .ok r => ds.insert r
  | .error _ => ds

theorem declarations_spellOut (w : Workspace) (cap : Nat) (d : Declaration) :
    (host.spellOut cap d w).host.declarations =
      replaced w.declarations (host.spellOut cap d w).result := by
  obtain ⟨hresult, hhost⟩ := spellOut_verdict w cap d
  rw [hresult, hhost]
  cases w.verdict cap d with
  | ok q => rfl
  | error e => rfl

/-- The replacement has the number of the declaration. -/
theorem id_of_result {r : Declaration} (h : (host.spellOut cap d w).result = .ok r) :
    r.id = d.id := by
  rw [(spellOut_verdict w cap d).1] at h
  cases hverdict : w.verdict cap d with
  | error e =>
    rw [hverdict] at h
    cases h
  | ok q =>
    rw [hverdict] at h
    cases h
    have hd := Declaration.candidate_declaration (exists_of_verdict hverdict).1
    rw [Request.id_replacement, Request.id, hd]

theorem package_spellOut (w : Workspace) (cap : Nat) (d : Declaration) :
    (host.spellOut cap d w).host.file.package = w.file.package := by
  rw [(spellOut_verdict w cap d).2]
  cases w.verdict cap d with
  | error e => rfl
  | ok q => exact SourceFile.package_declareAll _ _

theorem types_spellOut (w : Workspace) (cap : Nat) (d : Declaration) :
    (host.spellOut cap d w).host.types = w.types := by
  rw [(spellOut_verdict w cap d).2]
  cases w.verdict cap d <;> rfl

/-- An attempt on one of two independent declarations leaves the workspace ahead for the other. -/
theorem Independent.aheadFor {d₁ d₂ : Declaration} (h : w.Independent d₁ d₂) (hid : d₁.id ≠ d₂.id)
    (cap : Nat) :
    AheadFor d₂ (additions (w.verdict cap d₁)) w (host.spellOut cap d₁ w).host where
  types := types_spellOut w cap d₁
  package := package_spellOut w cap d₁
  present := by
    rw [declarations_spellOut]
    cases hr : (host.spellOut cap d₁ w).result with
    | ok r => rw [replaced, Declarations.find?_insert, id_of_result hr, if_neg hid.symm]
    | error e => rfl
  imports i := by
    rw [(spellOut_verdict w cap d₁).2, mem_imports_settled]
  wanted type htype := (mem_additions htype).2 d₂.id
  apart type htype := h type (mem_additions htype).1

/-- **Attempts on independent declarations commute.** In either order each of the two comes out as
it would on its own, and they leave the same declarations and the same imports, these in some
order. -/
theorem spellOut_commute {d₁ d₂ : Declaration} (hid : d₁.id ≠ d₂.id) (h : w.Independent d₁ d₂)
    (cap : Nat) :
    let a₁ := host.spellOut cap d₁ w
    let a₂ := host.spellOut cap d₂ a₁.host
    let b₂ := host.spellOut cap d₂ w
    let b₁ := host.spellOut cap d₁ b₂.host
    b₁.outcome = a₁.outcome ∧ a₂.outcome = b₂.outcome ∧
      a₂.host.declarations = b₁.host.declarations ∧ a₂.host.types = b₁.host.types ∧
      a₂.host.file.package = b₁.host.file.package ∧
      a₂.host.file.imports.Perm b₁.host.file.imports := by
  intro a₁ a₂ b₂ b₁
  obtain ⟨hresult₂, himports₂⟩ := (h.aheadFor hid cap).spellOut cap
  obtain ⟨hresult₁, himports₁⟩ := (h.symm.aheadFor hid.symm cap).spellOut cap
  have hdeclarations : a₂.host.declarations = b₁.host.declarations := by
    simp only [a₂, b₁, a₁, b₂, declarations_spellOut, hresult₁, hresult₂]
    cases hr₁ : (host.spellOut cap d₁ w).result with
    | error e => rfl
    | ok r₁ =>
      cases hr₂ : (host.spellOut cap d₂ w).result with
      | error e => rfl
      | ok r₂ =>
        apply Declarations.insert_comm
        rw [id_of_result hr₁, id_of_result hr₂]
        exact hid
  have hsame : ∀ i, i ∈ a₂.host.file.imports ↔ i ∈ b₁.host.file.imports := by
    intro i
    obtain ⟨-, hhost₁⟩ := spellOut_verdict w cap d₁
    obtain ⟨-, hhost₂⟩ := spellOut_verdict w cap d₂
    rw [himports₂, himports₁, hhost₁, hhost₂, mem_imports_settled, mem_imports_settled,
      or_right_comm]
  refine ⟨?_, ?_, hdeclarations, ?_, ?_, ?_⟩
  · simp only [Attempt.outcome, b₁, hresult₁, a₁, b₂]
  · simp only [Attempt.outcome, a₂, hresult₂, b₂, a₁]
  · simp only [a₁, a₂, b₁, b₂, types_spellOut]
  · simp only [a₁, a₂, b₁, b₂, package_spellOut]
  · exact (List.perm_ext_iff_of_nodup a₂.host.file.nodup b₁.host.file.nodup).mpr hsame

/-- A declaration `var start = now()`. -/
def starting : Declaration := ⟨1, [], [], [⟨"start", .inferred, some (.other "now()")⟩]⟩

/-- A declaration `var visits = log()` of a map that has the type of the start for its keys. -/
def visiting : Declaration := ⟨2, [], [], [⟨"visits", .inferred, some (.other "log()")⟩]⟩

def visitedWorkspace : Workspace where
  file := .empty (some (.ofText "app"))
  types := (TypeTable.empty.insert "now()" (.reference (.ofText "java.time.Instant") [])).insert
    "log()" (.reference (.ofText "java.util.Map")
      [.reference (.ofText "java.time.Instant") [], .reference (.ofText "java.io.File") []])
  declarations := (Declarations.empty.insert starting).insert visiting

/-- The type that both attempts name is imported by whichever comes first. -/
theorem visited_commute :
    let a₁ := host.spellOut 32 starting visitedWorkspace
    let a₂ := host.spellOut 32 visiting a₁.host
    let b₂ := host.spellOut 32 visiting visitedWorkspace
    let b₁ := host.spellOut 32 starting b₂.host
    (starting.id ≠ visiting.id ∧ visitedWorkspace.Independent starting visiting) ∧
      (a₁.outcome.isApplied = true ∧ a₂.outcome.isApplied = true ∧
        a₂.host.file.imports = [.single (.ofText "java.time.Instant"),
          .single (.ofText "java.util.Map"), .single (.ofText "java.io.File")] ∧
        b₁.host.file.imports = [.single (.ofText "java.util.Map"),
          .single (.ofText "java.time.Instant"), .single (.ofText "java.io.File")]) ∧
      b₁.outcome = a₁.outcome ∧ a₂.outcome = b₂.outcome ∧
      a₂.host.declarations = b₁.host.declarations ∧
      a₂.host.file.imports.Perm b₁.host.file.imports := by
  intro a₁ a₂ b₂ b₁
  dsimp only [a₁, a₂, b₂, b₁]
  have hid : starting.id ≠ visiting.id := by
    decide
  have hindependent : visitedWorkspace.Independent starting visiting := by
    decide +kernel
  obtain ⟨hfirst, hsecond, hdeclarations, -, -, himports⟩ := spellOut_commute hid hindependent 32
  refine ⟨⟨hid, hindependent⟩, ?_, hfirst, hsecond, hdeclarations, himports⟩
  decide +kernel

end SpellOut.Workspace
