import SpellOut.Attempt
import SpellOut.Host.Fault
import SpellOut.Proofs.Scope.Growth
import SpellOut.Proofs.Workspace

/-! What an attempt leaves of a workspace, whatever fault the host has.

What is to be done is settled before anything is done: a workspace and a declaration determine one
request, or none (`Workspace.request?`). What the attempt leaves of the workspace, and whether it
succeeds, follows from the request and from how far the fault lets the host get
(`spellOut_leaves`). -/
namespace SpellOut

/-! ### What is to be done -/

/-- What an attempt asks of the host in the end: to write out a type for a candidate and to add
imports. -/
structure Request where
  candidate : Candidate
  type : SpelledType
  imports : List Name

namespace Request

def id (q : Request) : NodeId := q.candidate.declaration.id

def replacement (q : Request) : Declaration := q.candidate.withType q.type

@[simp]
theorem id_replacement (q : Request) : q.replacement.id = q.id := rfl

end Request

/-- The request that an attempt on `d` comes to if no call breaks down. -/
def Workspace.request? (w : Workspace) (cap : Nat) (d : Declaration) : Option Request :=
  match d.candidate with
  | .error _ => none
  | .ok c =>
    match w.types.find? c.initializer.text with
    | none => none
    | some type =>
      match type.spell cap (.ofScope (.ofFile d.id w.file.package w.file.imports)) with
      | (.error _, _) => none
      | (.ok e, draft) => some ⟨c, e, draft.scope.staged⟩

theorem Declaration.candidate_declaration {d : Declaration} {c : Candidate}
    (h : d.candidate = .ok c) : c.declaration = d := by
  unfold Declaration.candidate at h
  split at h
  · split at h
    · cases h
    · cases h
    · split at h
      · cases h
      · cases h
        rfl
  · cases h

namespace Workspace

variable {w : Workspace} {cap : Nat} {d : Declaration} {q : Request}

theorem id_of_request? (h : w.request? cap d = some q) : q.id = d.id := by
  unfold request? at h
  split at h
  · cases h
  · next c hc =>
    split at h
    · cases h
    · split at h
      · cases h
      · cases h
        exact congrArg _ (Declaration.candidate_declaration hc)

/-- No import is asked for that the file has. -/
theorem unimported_of_request? (h : w.request? cap d = some q) :
    ∀ type ∈ q.imports, .single type ∉ w.file.imports := by
  unfold request? at h
  split at h
  · cases h
  · split at h
    · cases h
    · split at h
      · cases h
      · next hspell =>
        cases h
        obtain ⟨-, -, hscope⟩ := ResolvedType.spell_written hspell
        rw [hscope]
        intro type htype himport
        obtain ⟨_, _, _, _, _, hfree⟩ :=
          Scope.needsImport_iff.mp (Scope.needsImport_of_mem_staged rfl htype)
        exact hfree type (Scope.mem_imports_ofFile.mpr himport) rfl

/-- The request that the workspace is ready to carry out: it has the declaration to replace. -/
def due? (w : Workspace) (cap : Nat) (d : Declaration) : Option Request :=
  (w.request? cap d).filter fun _ => (w.declarations.find? d.id).isSome

theorem due?_eq_some_iff :
    w.due? cap d = some q ↔
      w.request? cap d = some q ∧ (w.declarations.find? d.id).isSome = true :=
  Option.filter_eq_some_iff

/-- The workspace with the replacement made and some of the imports added. -/
def after (w : Workspace) (q : Request) (added : Nat) : Workspace where
  file := w.file.declareAll (q.imports.take added)
  types := w.types
  declarations := w.declarations.insert q.replacement

end Workspace

/-! ### How far the host gets -/

namespace Fault

/-- How far a host with the fault gets with a replacement and `count` imports: whether it comes to
the end, and how many imports it adds; nothing if it does not make the replacement. -/
def progress? : Option Fault → Nat → Option (Bool × Nat)
  | none, count => some (true, count)
  | some (.breakdown .afterReplace _), _ => some (false, 0)
  | some (.breakdown (.addImport index) _), count =>
    some (if index < count then (false, index) else (true, count))
  | some (.breakdown .resolve _), _ => none
  | some (.breakdown .package _), _ => none
  | some (.breakdown .imports _), _ => none
  | some (.breakdown .replace _), _ => none
  | some .refusal, _ => none

/-- Whether the fault strikes before a replacement is asked for. -/
def isEarly (fault : Option Fault) : Bool :=
  (strikes? fault .resolve).isSome || (strikes? fault .package).isSome ||
    (strikes? fault .imports).isSome

theorem isEarly_eq_false_iff {fault : Option Fault} :
    isEarly fault = false ↔ strikes? fault .resolve = none ∧ strikes? fault .package = none ∧
      strikes? fault .imports = none := by
  simp [isEarly, and_assoc]

/-- A host with an early fault makes no replacement. -/
theorem progress?_of_isEarly {fault : Option Fault} (h : isEarly fault = true) (count : Nat) :
    progress? fault count = none := by
  rcases fault with _ | ⟨⟨point, cause⟩ | _⟩
  · cases h
  · cases point with
    | resolve => rfl
    | package => rfl
    | imports => rfl
    | replace => rfl
    | afterReplace => cases h
    | addImport index => cases h
  · rfl

end Fault

namespace Host

variable {fault : Option Fault} {w : Workspace} {cap : Nat} {d : Declaration} {q : Request}

theorem addImport_workspace (type : Name) (count : Nat) :
    (Workspace.host.withFault fault).addImport type (w, count) =
      match Fault.strikes? fault (.addImport count) with
      | some cause => (.error cause, (w, count))
      | none => (.ok (), (w.declare (.single type), count + 1)) := rfl

/-- Imports are all added if the fault strikes at none of them. -/
theorem addImports_spared (types : List Name) (count : Nat)
    (h : ∀ index < count + types.length, count ≤ index →
      Fault.strikes? fault (.addImport index) = none) :
    (Workspace.host.withFault fault).addImports types (w, count) =
      (.ok (), ({ w with file := w.file.declareAll types }, count + types.length)) := by
  induction types generalizing w count with
  | nil => rfl
  | cons type rest ih =>
    have hnow : Fault.strikes? fault (.addImport count) = none :=
      h count (Nat.lt_add_of_pos_right (Nat.succ_pos _)) (Nat.le_refl count)
    have hlater : ∀ index < count + 1 + rest.length, count + 1 ≤ index →
        Fault.strikes? fault (.addImport index) = none := by
      intro index hlt hle
      refine h index ?_ (Nat.le_of_succ_le hle)
      rw [List.length_cons]
      omega
    rw [addImports, addImport_workspace, hnow]
    show (Workspace.host.withFault fault).addImports rest _ = _
    rw [ih _ hlater, List.length_cons, SourceFile.declareAll_cons]
    simp only [Workspace.declare, Nat.add_assoc, Nat.add_comm 1]

/-- Imports are added up to the one at which the fault strikes. -/
theorem addImports_struck {types : List Name} {count index : Nat} (cause : Breakdown)
    (hle : count ≤ index) (hlt : index < count + types.length) :
    (Workspace.host.withFault (some (.breakdown (.addImport index) cause))).addImports types
        (w, count) =
      (.error cause,
        ({ w with file := w.file.declareAll (types.take (index - count)) }, index)) := by
  induction types generalizing w count with
  | nil => exact absurd hlt (Nat.not_lt.mpr hle)
  | cons type rest ih =>
    rw [addImports, addImport_workspace]
    by_cases heq : index = count
    · subst heq
      simp [Fault.strikes?]
    · have hmiss : Fault.strikes? (some (.breakdown (.addImport index) cause)) (.addImport count) =
          none := by
        simp [Fault.strikes?, heq]
      have hnext : index - count = index - (count + 1) + 1 := by
        omega
      rw [hmiss]
      show (Workspace.host.withFault _).addImports rest _ = _
      rw [ih (by omega) (by rw [List.length_cons] at hlt; omega), hnext, List.take_succ_cons,
        SourceFile.declareAll_cons]
      rfl

theorem replace_workspace (fault : Option Fault) (w : Workspace) (id : NodeId) (r : Declaration)
    (count : Nat) :
    (Workspace.host.withFault fault).replace id r (w, count) =
      if fault = some .refusal then (.ok false, (w, count))
      else match Fault.strikes? fault .replace with
        | some cause => (.error cause, (w, count))
        | none =>
          match Fault.strikes? fault .afterReplace with
          | some cause => (.error cause, ((w.replace id r).2, count))
          | none => (.ok (w.replace id r).1, ((w.replace id r).2, count)) := by
  unfold withFault
  by_cases hrefusal : fault = some .refusal
  · simp only [if_pos hrefusal]
  · simp only [if_neg hrefusal]
    rfl

theorem replace_of_present (h : (w.declarations.find? q.id).isSome = true) :
    w.replace q.id q.replacement = (true, w.after q 0) := by
  simp [Workspace.replace, Declarations.replace?, h, Workspace.after]

theorem after_all (w : Workspace) (q : Request) :
    { w.after q 0 with file := (w.after q 0).file.declareAll q.imports } =
      w.after q q.imports.length := by
  rw [Workspace.after, Workspace.after, List.take_length]
  rfl

theorem replace_of_absent (h : (w.declarations.find? q.id).isSome = false) :
    w.replace q.id q.replacement = (false, w) := by
  simp [Workspace.replace, Declarations.replace?, h]

/-- How a result and a workspace come out of a request of which this much gets done. -/
def Leads {ε : Type} (w : Workspace) (q : Request) (result : Except ε Declaration)
    (left : Workspace) : Option (Bool × Nat) → Prop
  | none => (∃ e, result = .error e) ∧ left = w
  | some (true, added) => result = .ok q.replacement ∧ left = w.after q added
  | some (false, added) => (∃ e, result = .error e) ∧ left = w.after q added

section Commit
variable {σ : Type} {host : Host σ} {s t u : σ} {cause : Breakdown}

theorem commit_of_breakdown
    (hr : host.replace q.id q.replacement s = (.error cause, t)) :
    host.commit q.candidate q.type q.imports s = (.error (.breakdown cause), t) := by
  have hr' : host.replace q.candidate.declaration.id (q.candidate.withType q.type) s = _ := hr
  simp only [commit, hr']

theorem commit_of_refusal (hr : host.replace q.id q.replacement s = (.ok false, t)) :
    host.commit q.candidate q.type q.imports s = (.error (.abstention (.rejected q.id)), t) := by
  have hr' : host.replace q.candidate.declaration.id (q.candidate.withType q.type) s = _ := hr
  simp only [commit, hr']
  rfl

theorem commit_of_interruption (hr : host.replace q.id q.replacement s = (.ok true, t))
    (ha : host.addImports q.imports t = (.error cause, u)) :
    host.commit q.candidate q.type q.imports s = (.error (.breakdown cause), u) := by
  have hr' : host.replace q.candidate.declaration.id (q.candidate.withType q.type) s = _ := hr
  simp only [commit, hr', ha]

theorem commit_of_completion (hr : host.replace q.id q.replacement s = (.ok true, t))
    (ha : host.addImports q.imports t = (.ok (), u)) :
    host.commit q.candidate q.type q.imports s = (.ok q.replacement, u) := by
  have hr' : host.replace q.candidate.declaration.id (q.candidate.withType q.type) s = _ := hr
  simp only [commit, hr', ha]
  rfl

end Commit

theorem Leads.mapError {ε ε' : Type} {result : Except ε Declaration} {left : Workspace}
    {progress : Option (Bool × Nat)} (f : ε → ε') (h : Leads w q result left progress) :
    Leads w q (result.mapError f) left progress := by
  match progress with
  | none =>
    obtain ⟨⟨e, rfl⟩, hleft⟩ := h
    exact ⟨⟨f e, rfl⟩, hleft⟩
  | some (true, added) =>
    obtain ⟨rfl, hleft⟩ := h
    exact ⟨rfl, hleft⟩
  | some (false, added) =>
    obtain ⟨⟨e, rfl⟩, hleft⟩ := h
    exact ⟨⟨f e, rfl⟩, hleft⟩

/-- A request to a workspace that has the declaration to replace gets done as far as the fault
lets it. -/
theorem commit_leads (hpresent : (w.declarations.find? q.id).isSome = true)
    (hearly : Fault.isEarly fault = false) :
    let made := (Workspace.host.withFault fault).commit q.candidate q.type q.imports (w, 0)
    Leads w q made.1 made.2.1 (Fault.progress? fault q.imports.length) := by
  have hreplace := replace_workspace fault w q.id q.replacement 0
  rw [replace_of_present hpresent] at hreplace
  rcases fault with _ | ⟨⟨point, cause⟩ | _⟩
  · have hadd := addImports_spared (w := w.after q 0) q.imports 0
      fun index _ _ => (rfl : Fault.strikes? none (.addImport index) = none)
    rw [commit_of_completion hreplace hadd, Fault.progress?]
    exact ⟨rfl, after_all w q⟩
  · cases point with
    | resolve => cases hearly
    | package => cases hearly
    | imports => cases hearly
    | replace =>
      have hstruck := hreplace.trans (if_neg nofun)
      rw [commit_of_breakdown hstruck]
      exact ⟨⟨_, rfl⟩, rfl⟩
    | afterReplace =>
      have hstruck := hreplace.trans (if_neg nofun)
      rw [commit_of_breakdown hstruck]
      exact ⟨⟨_, rfl⟩, rfl⟩
    | addImport index =>
      have hmade := hreplace.trans (if_neg nofun)
      rw [Fault.progress?]
      by_cases hlt : index < q.imports.length
      · have hadd := addImports_struck (w := w.after q 0) cause (Nat.zero_le index)
          (by simpa using hlt)
        rw [commit_of_interruption hmade hadd, if_pos hlt]
        exact ⟨⟨_, rfl⟩, rfl⟩
      · have hspared : ∀ other < 0 + q.imports.length, 0 ≤ other →
            Fault.strikes? (some (.breakdown (.addImport index) cause)) (.addImport other) =
              none := by
          intro other hother _
          have hne : index ≠ other := by
            omega
          simp [Fault.strikes?, hne]
        rw [commit_of_completion hmade (addImports_spared _ _ hspared), if_neg hlt]
        exact ⟨rfl, after_all w q⟩
  · have hrefused := hreplace.trans (if_pos rfl)
    rw [commit_of_refusal hrefused]
    exact ⟨⟨_, rfl⟩, rfl⟩

/-- Without the declaration to replace, a request comes to nothing. -/
theorem commit_of_absent (fault : Option Fault)
    (habsent : (w.declarations.find? q.id).isSome = false) :
    let made := (Workspace.host.withFault fault).commit q.candidate q.type q.imports (w, 0)
    (∃ e, made.1 = .error e) ∧ made.2 = (w, 0) := by
  have hreplace := replace_workspace fault w q.id q.replacement 0
  rw [replace_of_absent habsent] at hreplace
  by_cases hrefusal : fault = some .refusal
  · rw [if_pos hrefusal] at hreplace
    rw [commit_of_refusal hreplace]
    exact ⟨⟨_, rfl⟩, rfl⟩
  · rw [if_neg hrefusal] at hreplace
    split at hreplace
    · rw [commit_of_breakdown hreplace]
      exact ⟨⟨_, rfl⟩, rfl⟩
    · split at hreplace
      · rw [commit_of_breakdown hreplace]
        exact ⟨⟨_, rfl⟩, rfl⟩
      · rw [commit_of_refusal hreplace]
        exact ⟨⟨_, rfl⟩, rfl⟩

theorem resolve_workspace (i : Initializer) (count : Nat) :
    (Workspace.host.withFault fault).resolve i (w, count) =
      match Fault.strikes? fault .resolve with
      | some cause => (.error cause, (w, count))
      | none => (.ok (w.types.find? i.text), (w, count)) := rfl

theorem package_workspace (count : Nat) :
    (Workspace.host.withFault fault).package (w, count) =
      match Fault.strikes? fault .package with
      | some cause => (.error cause, (w, count))
      | none => (.ok w.file.package, (w, count)) := rfl

theorem imports_workspace (count : Nat) :
    (Workspace.host.withFault fault).imports (w, count) =
      match Fault.strikes? fault .imports with
      | some cause => (.error cause, (w, count))
      | none => (.ok w.file.imports, (w, count)) := rfl

/-- An attempt that comes to a request has it committed, and ends as that does. -/
theorem spellOut_of_request (hearly : Fault.isEarly fault = false)
    (h : w.request? cap d = some q) :
    let a := (Workspace.host.withFault fault).spellOut cap d (w, 0)
    let made := (Workspace.host.withFault fault).commit q.candidate q.type q.imports (w, 0)
    a.host = made.2 ∧ a.result = made.1.mapError fun halt => (.replacing, halt) := by
  obtain ⟨hresolve, hpackage, himports⟩ := Fault.isEarly_eq_false_iff.mp hearly
  unfold Workspace.request? at h
  split at h
  · cases h
  · next c hc =>
    split at h
    · cases h
    · next type htype =>
      split at h
      · cases h
      · next e draft hspell =>
        cases h
        simp only [spellOut, hc, resolve_workspace, hresolve, htype, package_workspace, hpackage,
          imports_workspace, himports, hspell]
        split
        · next hmade => exact ⟨by rw [hmade], by rw [hmade]; rfl⟩
        · next hmade => exact ⟨by rw [hmade], by rw [hmade]; rfl⟩

/-- An attempt that comes to no request leaves everything as it is. -/
theorem spellOut_of_no_request (fault : Option Fault) (w : Workspace) (cap : Nat) (d : Declaration)
    (h : w.request? cap d = none ∨ Fault.isEarly fault = true) :
    let a := (Workspace.host.withFault fault).spellOut cap d (w, 0)
    (∃ e, a.result = .error e) ∧ a.host = (w, 0) := by
  intro a
  simp only [a, spellOut]
  cases hc : d.candidate with
  | error why => exact ⟨⟨_, rfl⟩, rfl⟩
  | ok c =>
    simp only [resolve_workspace]
    cases hresolve : Fault.strikes? fault .resolve with
    | some cause => exact ⟨⟨_, rfl⟩, rfl⟩
    | none =>
      cases htype : w.types.find? c.initializer.text with
      | none => exact ⟨⟨_, rfl⟩, rfl⟩
      | some type =>
        simp only [package_workspace]
        cases hpackage : Fault.strikes? fault .package with
        | some cause => exact ⟨⟨_, rfl⟩, rfl⟩
        | none =>
          simp only [imports_workspace]
          cases himports : Fault.strikes? fault .imports with
          | some cause => exact ⟨⟨_, rfl⟩, rfl⟩
          | none =>
            simp only
            split
            · exact ⟨⟨_, rfl⟩, rfl⟩
            · next hspell =>
              -- the attempt has come to a request after all
              have hearly := Fault.isEarly_eq_false_iff.mpr ⟨hresolve, hpackage, himports⟩
              rcases h with h | h
              · simp [Workspace.request?, hc, htype, hspell] at h
              · cases hearly.symm.trans h

/-- **What an attempt leaves.** A request that the workspace is ready to carry out gets done as far
as the fault lets it; without one, everything is left as it is. -/
theorem spellOut_leaves (fault : Option Fault) (w : Workspace) (cap : Nat) (d : Declaration) :
    let a := (Workspace.host.withFault fault).spellOut cap d (w, 0)
    match w.due? cap d with
    | none => (∃ e, a.result = .error e) ∧ a.host.1 = w
    | some q => Leads w q a.result a.host.1 (Fault.progress? fault q.imports.length) := by
  intro a
  cases hearly : Fault.isEarly fault with
  | true =>
    obtain ⟨herror, hhost⟩ := spellOut_of_no_request fault w cap d (.inr hearly)
    have hleft : a.host.1 = w := congrArg Prod.fst hhost
    split
    · exact ⟨herror, hleft⟩
    · rw [Fault.progress?_of_isEarly hearly]
      exact ⟨herror, hleft⟩
  | false =>
    cases hq : w.request? cap d with
    | none =>
      obtain ⟨herror, hhost⟩ := spellOut_of_no_request fault w cap d (.inl hq)
      simp only [Workspace.due?, hq, Option.filter_none]
      exact ⟨herror, congrArg Prod.fst hhost⟩
    | some q =>
      obtain ⟨hhost, hresult⟩ := spellOut_of_request hearly hq
      simp only [a, hhost, hresult]
      cases hpresent : (w.declarations.find? q.id).isSome with
      | true =>
        have hdue : w.due? cap d = some q :=
          Workspace.due?_eq_some_iff.mpr ⟨hq, Workspace.id_of_request? hq ▸ hpresent⟩
        rw [hdue]
        exact (commit_leads hpresent hearly).mapError _
      | false =>
        have hdue : w.due? cap d = none := by
          rw [Workspace.id_of_request? hq] at hpresent
          simp [Workspace.due?, hq, Option.filter, hpresent]
        obtain ⟨⟨e, herror⟩, hleft⟩ := commit_of_absent fault hpresent
        rw [hdue, herror, hleft]
        exact ⟨⟨_, rfl⟩, rfl⟩

end Host

end SpellOut
