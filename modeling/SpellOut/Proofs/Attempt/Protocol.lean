import SpellOut.Proofs.Attempt.Calls
import SpellOut.Proofs.Attempt.Session

/-! What an attempt leaves of a workspace, as its log tells it.

The workspace may have any fault. Each exchange with it changes it in a way of its own, or not at
all (`Effect`), so the log of an attempt tells what there is at the end. No exchange before the
replacement changes anything. The replacement comes before the imports, and these are added in the
order in which the spelling asked for them. So what is left is the workspace as it was, or with the
replacement and a first part of the imports, and with none of them unless the host has said that it
made the replacement (`spellOut_protocol`). -/
namespace SpellOut

/-! ### What exchanges make of a workspace -/

namespace Workspace

/-- What an exchange with a workspace tells of it, and what it makes of it. -/
inductive Effect (w : Workspace) : Exchange → Workspace → Prop
  | resolved {i : Initializer} {answer : Option ResolvedType}
      (h : w.types.find? i.text = answer) : Effect w (.resolve i (.ok answer)) w
  | packaged {package : Option Name} (h : w.file.package = package) :
    Effect w (.package (.ok package)) w
  | imported {imports : List Import} (h : w.file.imports = imports) :
    Effect w (.imports (.ok imports)) w
  | refused (id : NodeId) (r : Declaration) : Effect w (.replace id r (.ok false)) w
  | replied {id : NodeId} {r : Declaration} {accepted : Bool} {left : Workspace}
      (h : w.replace id r = (accepted, left)) : Effect w (.replace id r (.ok accepted)) left
  | added (type : Name) : Effect w (.addImport type (.ok ())) (w.declare (.single type))
  | broke {x : Exchange} {cause : Breakdown} (h : x.breakdown? = some cause) : Effect w x w
  /-- A breakdown after the replacement. -/
  | brokeLate (id : NodeId) (r : Declaration) (cause : Breakdown) :
    Effect w (.replace id r (.error cause)) (w.replace id r).2

/-- What one exchange after the other makes of a workspace. -/
def Effects (w : Workspace) : List Exchange → Workspace → Prop
  | [], left => left = w
  | x :: rest, left => ∃ next, w.Effect x next ∧ next.Effects rest left

variable {w left : Workspace} {log : List Exchange}

theorem effects_append {a b : List Exchange} :
    w.Effects (a ++ b) left ↔ ∃ next, w.Effects a next ∧ next.Effects b left := by
  induction a generalizing w with
  | nil => simp [Effects]
  | cons x rest ih =>
    simp only [List.cons_append, Effects, ih]
    constructor
    · intro h
      obtain ⟨u, hx, v, hrest, hb⟩ := h
      exact ⟨v, ⟨u, hx, hrest⟩, hb⟩
    · intro h
      obtain ⟨v, ⟨u, hx, hrest⟩, hb⟩ := h
      exact ⟨u, hx, v, hrest, hb⟩

/-- Only the calls of the last stage change anything. -/
theorem Effects.eq_of_stage (h : w.Effects log left) (hstage : ∀ x ∈ log, x.stage ≠ .replacing) :
    left = w := by
  induction log generalizing w with
  | nil => exact h
  | cons x rest ih =>
    obtain ⟨next, hx, hrest⟩ := h
    have hnext : next = w := by
      have hnot := hstage x List.mem_cons_self
      cases hx with
      | resolved _ => rfl
      | packaged _ => rfl
      | imported _ => rfl
      | broke _ => rfl
      | refused _ _ => rfl
      | replied _ => exact absurd rfl hnot
      | added _ => exact absurd rfl hnot
      | brokeLate _ _ _ => exact absurd rfl hnot
    exact hnext ▸ ih hrest fun y hy => hstage y (List.mem_cons_of_mem _ hy)

end Workspace

namespace Host

variable {fault : Option Fault}

/-- With any fault, an exchange has one of the effects. -/
theorem effect_of_answers {s t : Workspace × Nat} {x : Exchange}
    (h : (Workspace.host.withFault fault).Answers s x t) : s.1.Effect x t.1 := by
  obtain ⟨w, count⟩ := s
  cases x with
  | resolve i answer =>
    have hcall : (Workspace.host.withFault fault).resolve i (w, count) = (answer, t) := h
    rw [resolve_workspace] at hcall
    split at hcall
    · cases hcall
      exact .broke rfl
    · cases hcall
      exact .resolved rfl
  | package answer =>
    have hcall : (Workspace.host.withFault fault).package (w, count) = (answer, t) := h
    rw [package_workspace] at hcall
    split at hcall
    · cases hcall
      exact .broke rfl
    · cases hcall
      exact .packaged rfl
  | imports answer =>
    have hcall : (Workspace.host.withFault fault).imports (w, count) = (answer, t) := h
    rw [imports_workspace] at hcall
    split at hcall
    · cases hcall
      exact .broke rfl
    · cases hcall
      exact .imported rfl
  | replace id r answer =>
    have hcall : (Workspace.host.withFault fault).replace id r (w, count) = (answer, t) := h
    rw [replace_workspace] at hcall
    split at hcall
    · cases hcall
      exact .refused id r
    · split at hcall
      · cases hcall
        exact .broke rfl
      · split at hcall
        · cases hcall
          exact .brokeLate id r _
        · cases hcall
          exact .replied rfl
  | addImport type answer =>
    have hcall : (Workspace.host.withFault fault).addImport type (w, count) = (answer, t) := h
    rw [addImport_workspace] at hcall
    split at hcall
    · cases hcall
      exact .broke rfl
    · cases hcall
      exact .added type

theorem effects_of_answersAll {log : List Exchange} {s t : Workspace × Nat}
    (h : (Workspace.host.withFault fault).AnswersAll s log t) : s.1.Effects log t.1 := by
  induction log generalizing s with
  | nil => exact congrArg Prod.fst h
  | cons x rest ih =>
    obtain ⟨next, hx, hrest⟩ := h
    exact ⟨next.1, effect_of_answers hx, ih hrest⟩

end Host

/-! ### The request that a log tells of -/

/-- The request that the answers in a log come to: nothing if the type was not written. -/
def requested? (cap : Nat) (d : Declaration) (log : List Exchange) : Option Request :=
  match d.candidate, log with
  | .ok c, .resolve _ (.ok (some type)) :: .package (.ok package) :: .imports (.ok imports) :: _ =>
    match type.spell cap (.ofScope (.ofFile d.id package imports)) with
    | (.ok e, draft) => some ⟨c, e, draft.scope.staged⟩
    | (.error _, _) => none
  | _, _ => none

/-- The imports that were asked for when the type was written; none if it was not. -/
def stagedBy (cap : Nat) (d : Declaration) (log : List Exchange) : List Name :=
  match requested? cap d log with
  | some q => q.imports
  | none => []

/-- The host has said that it replaced `d`. -/
def Accepted (d : Declaration) (log : List Exchange) : Prop :=
  ∃ r, .replace d.id r (.ok true) ∈ log

namespace Spelled

variable {cap : Nat} {d : Declaration} {q : Request} {asked : List Exchange}

theorem requested?_eq (h : Spelled cap d q asked) (log : List Exchange) :
    requested? cap d (asked ++ log) = some q := by
  obtain ⟨hc, type, package, imports, draft, rfl, hspell, hstaged⟩ := h
  simp [requested?, hc, hspell, ← hstaged]

theorem stage_ne (h : Spelled cap d q asked) : ∀ x ∈ asked, x.stage ≠ .replacing := by
  obtain ⟨-, _, _, _, _, rfl, -, -⟩ := h
  simp [Exchange.stage]

theorem accepted_iff (h : Spelled cap d q asked) (log : List Exchange) :
    Accepted d (asked ++ log) ↔ Accepted d log := by
  obtain ⟨-, _, _, _, _, rfl, -, -⟩ := h
  simp [Accepted]

theorem accepted (h : Spelled cap d q asked) (log : List Exchange) :
    Accepted d (.replace q.id q.replacement (.ok true) :: log) :=
  ⟨q.replacement, by rw [h.id_eq]; exact List.mem_cons_self⟩

/-- What a workspace answered is what it holds, so the type was written in the scope of its file. -/
theorem exists_spell {w left : Workspace} (h : Spelled cap d q asked) (he : w.Effects asked left) :
    ∃ type draft, .resolve q.candidate.initializer (.ok (some type)) ∈ asked ∧
      type.spell cap (.ofScope (.ofFile d.id w.file.package w.file.imports)) =
        (.ok q.type, draft) ∧ q.imports = draft.scope.staged := by
  obtain ⟨-, type, package, imports, draft, rfl, hspell, hstaged⟩ := h
  obtain ⟨u, hresolve, v, hpackage, x, himports, -⟩ := he
  cases hresolve with
  | broke h => cases h
  | resolved hresolve =>
    cases hpackage with
    | broke h => cases h
    | packaged hpackage =>
      cases himports with
      | broke h => cases h
      | imported himports =>
        subst hpackage himports
        exact ⟨type, draft, List.mem_cons_self, hspell, hstaged⟩

end Spelled

/-! ### Carrying a request out -/

/-- Imports are added from the first on, all of them or up to the one at which the host breaks
down. -/
theorem Adding.left {types : List Name} {log : List Exchange} {result : Except Breakdown Unit}
    (h : Adding types log result) {w left : Workspace} (he : w.Effects log left) :
    ∃ k ≤ types.length, left = { w with file := w.file.declareAll (types.take k) } ∧
      (result = .ok () ↔ k = types.length) := by
  induction h generalizing w with
  | nil => exact ⟨0, Nat.le_refl 0, he, iff_of_true rfl rfl⟩
  | broke type rest cause =>
    obtain ⟨next, hx, hleft⟩ := he
    cases hx with
    | broke _ => exact ⟨0, Nat.zero_le _, hleft, iff_of_false nofun nofun⟩
  | added type h ih =>
    obtain ⟨next, hx, hrest⟩ := he
    cases hx with
    | broke h => cases h
    | added type =>
      obtain ⟨k, hk, hleft, hresult⟩ := ih hrest
      refine ⟨k + 1, Nat.succ_le_succ hk, hleft, ?_⟩
      rw [hresult, List.length_cons, Nat.add_right_cancel_iff]

/-- A workspace makes a replacement, or refuses it and stays as it is. -/
theorem Workspace.replace_request (w : Workspace) (q : Request) :
    w.replace q.id q.replacement = (true, w.after q 0) ∨
      w.replace q.id q.replacement = (false, w) := by
  cases h : (w.declarations.find? q.id).isSome with
  | true => exact .inl (Host.replace_of_present h)
  | false => exact .inr (Host.replace_of_absent h)

/-- A workspace that says it made a replacement has made it. -/
theorem Workspace.Effect.eq_after {w left : Workspace} {q : Request}
    (h : w.Effect (.replace q.id q.replacement (.ok true)) left) : left = w.after q 0 := by
  cases h with
  | broke h => cases h
  | replied h =>
    rcases w.replace_request q with hmade | hrefused
    · cases h.symm.trans hmade
      rfl
    · cases h.symm.trans hrefused

/-- A workspace that says it refused a replacement has not changed. -/
theorem Workspace.Effect.eq_of_refusal {w left : Workspace} {q : Request}
    (h : w.Effect (.replace q.id q.replacement (.ok false)) left) : left = w := by
  cases h with
  | broke h => cases h
  | refused _ _ => rfl
  | replied h =>
    rcases w.replace_request q with hmade | hrefused
    · cases h.symm.trans hmade
    · cases h.symm.trans hrefused
      rfl

/-- A workspace that breaks down at a replacement may have made it. -/
theorem Workspace.Effect.eq_of_breakdown {w left : Workspace} {q : Request} {cause : Breakdown}
    (h : w.Effect (.replace q.id q.replacement (.error cause)) left) :
    left = w ∨ left = w.after q 0 := by
  cases h with
  | broke _ => exact .inl rfl
  | brokeLate _ _ _ =>
    rcases w.replace_request q with hmade | hrefused
    · exact .inr (congrArg Prod.snd hmade)
    · exact .inl (congrArg Prod.snd hrefused)

/-- After a replacement that was made, the first imports of the request are added. -/
theorem Adding.after {q : Request} {log : List Exchange} {result : Except Breakdown Unit}
    {w left : Workspace} (h : Adding q.imports log result)
    (he : w.Effects (.replace q.id q.replacement (.ok true) :: log) left) :
    ∃ k ≤ q.imports.length, left = w.after q k ∧ (result = .ok () ↔ k = q.imports.length) := by
  obtain ⟨next, hx, hlog⟩ := he
  obtain rfl := hx.eq_after
  exact h.left hlog

/-! ### The protocol -/

/-- What an attempt on `d` leaves of the workspace `w`, with this many imports added. -/
structure Protocol (cap : Nat) (w : Workspace) (d : Declaration) (log : List Exchange)
    (a : Attempt (Workspace × Nat)) (added : Nat) : Prop where
  package : a.host.1.file.package = w.file.package
  types : a.host.1.types = w.types
  added_le : added ≤ (stagedBy cap d log).length
  /-- The imports are those of before and the first that were asked for. -/
  imports : a.host.1.file.imports =
    w.file.imports ++ ((stagedBy cap d log).take added).map .single
  accepted : 0 < added → Accepted d log
  others : ∀ id, id ≠ d.id → a.host.1.declarations.find? id = w.declarations.find? id
  /-- The declaration is the one of before, or has the type written out. -/
  own : a.host.1.declarations.find? d.id = w.declarations.find? d.id ∨
    ∃ q, requested? cap d log = some q ∧
      a.host.1.declarations.find? d.id = some q.replacement
  applied : a.outcome.isApplied = true ↔ Accepted d log ∧ added = (stagedBy cap d log).length
  /-- All imports that are in sight in the end are in the file. -/
  whole : a.outcome.isApplied = true → ∃ initializer type e draft,
    .resolve initializer (.ok (some type)) ∈ log ∧
      type.spell cap (.ofScope (.ofFile d.id w.file.package w.file.imports)) = (.ok e, draft) ∧
      a.host.1.file.imports = draft.scope.imports
  /-- Nothing is changed where the attempt abstains for a reason of its own. -/
  clean : ∀ stage reason, a.outcome = .abstained stage reason →
    (∀ message, reason ≠ .fault message) → a.host.1 = w

namespace Protocol

variable {cap : Nat} {w : Workspace} {d : Declaration} {log : List Exchange}
  {a : Attempt (Workspace × Nat)}

/-- An attempt that leaves everything as it was, without having succeeded. -/
theorem of_untouched (hleft : a.host.1 = w) (haccepted : ¬ Accepted d log)
    (hfailed : a.outcome.isApplied = false) : Protocol cap w d log a 0 where
  package := by rw [hleft]
  types := by rw [hleft]
  added_le := Nat.zero_le _
  imports := by simp [hleft]
  accepted := nofun
  others id _ := by rw [hleft]
  own := .inl (by rw [hleft])
  applied := by simp [hfailed, haccepted]
  whole h := by simp [hfailed] at h
  clean _ _ _ _ := hleft

/-- An attempt that carries a request out in part or as a whole. -/
theorem of_after {q : Request} {asked rest : List Exchange} {added : Nat}
    (hspelled : Spelled cap d q asked) (hasked : w.Effects asked w)
    (hleft : a.host.1 = w.after q added) (hadded : added ≤ q.imports.length)
    (haccepted : 0 < added → Accepted d rest)
    (happlied : a.outcome.isApplied = true ↔ Accepted d rest ∧ added = q.imports.length)
    (hfault : ∀ stage reason, a.outcome = .abstained stage reason →
      ∃ message, reason = .fault message) : Protocol cap w d (asked ++ rest) a added := by
  have hrequested : requested? cap d (asked ++ rest) = some q := hspelled.requested?_eq rest
  have hstaged : stagedBy cap d (asked ++ rest) = q.imports := by
    rw [stagedBy, hrequested]
  obtain ⟨type, draft, hresolved, hspell, hdraft⟩ := hspelled.exists_spell hasked
  have hadmissible : AdmissibleAll w.file.package w.file.imports q.imports := by
    rw [hdraft]
    exact ResolvedType.spell_admissible w.file.nodup hspell
  have himports : a.host.1.file.imports =
      w.file.imports ++ (q.imports.take added).map .single := by
    rw [hleft]
    exact SourceFile.imports_declareAll_of_admissible (hadmissible.take added)
  have hfind : ∀ id, a.host.1.declarations.find? id =
      if id = d.id then some q.replacement else w.declarations.find? id := by
    intro id
    rw [hleft, Workspace.after, Declarations.find?_insert, Request.id_replacement, hspelled.id_eq]
  constructor
  case package => rw [hleft]; exact SourceFile.package_declareAll _ _
  case types => rw [hleft]; rfl
  case added_le => rw [hstaged]; exact hadded
  case imports => rw [hstaged]; exact himports
  case accepted => rw [hspelled.accepted_iff]; exact haccepted
  case others => exact fun id hne => by rw [hfind, if_neg hne]
  case own => exact .inr ⟨q, hrequested, by rw [hfind, if_pos rfl]⟩
  case applied => rw [hspelled.accepted_iff, hstaged]; exact happlied
  case whole =>
    intro h
    have hall := (happlied.mp h).2
    refine ⟨_, type, q.type, draft, List.mem_append_left _ hresolved, hspell, ?_⟩
    rw [himports, hall, List.take_length, Scope.imports_of_spell rfl hspell,
      Scope.imports_ofFile w.file.nodup, hdraft]
  case clean =>
    intro stage reason h hreason
    obtain ⟨message, hmessage⟩ := hfault stage reason h
    exact absurd hmessage (hreason message)

end Protocol

/-- A request is carried out by the protocol, however that goes. -/
theorem Commitment.protocol {cap : Nat} {d : Declaration} {q : Request} {asked rest : List Exchange}
    {result : Except Halt Declaration} {w left : Workspace} (h : Commitment q rest result)
    (hspelled : Spelled cap d q asked) (hasked : w.Effects asked w) (he : w.Effects rest left)
    (id : NodeId) (count : Nat) (notes : List Note) :
    ∃ added, Protocol cap w d (asked ++ rest)
      ⟨id, result.mapError fun halt => (.replacing, halt), (left, count), notes⟩ added := by
  cases h with
  | broke cause =>
    obtain ⟨next, hx, rfl⟩ := he
    have haccepted : ¬ Accepted d [.replace q.id q.replacement (.error cause)] := by
      simp [Accepted]
    rcases hx.eq_of_breakdown with rfl | rfl
    · exact ⟨0, .of_untouched rfl (by rwa [hspelled.accepted_iff]) rfl⟩
    · refine ⟨0, .of_after hspelled hasked rfl (Nat.zero_le _) nofun ?_ ?_⟩
      · exact iff_of_false nofun fun h => haccepted h.1
      · intro stage reason h
        cases h
        exact ⟨_, rfl⟩
  | refused =>
    obtain ⟨next, hx, rfl⟩ := he
    obtain rfl := hx.eq_of_refusal
    refine ⟨0, .of_untouched rfl ?_ rfl⟩
    rw [hspelled.accepted_iff]
    simp [Accepted]
  | @interrupted log _ h =>
    obtain ⟨k, hk, hleft, hresult⟩ := h.after he
    have haccepted := hspelled.accepted log
    refine ⟨k, .of_after hspelled hasked hleft hk (fun _ => haccepted) ?_ ?_⟩
    · exact iff_of_false nofun fun h => nomatch hresult.mpr h.2
    · intro stage reason h
      cases h
      exact ⟨_, rfl⟩
  | @completed log h =>
    obtain ⟨k, hk, hleft, hresult⟩ := h.after he
    have haccepted := hspelled.accepted log
    refine ⟨k, .of_after hspelled hasked hleft hk (fun _ => haccepted) ?_ ?_⟩
    · exact iff_of_true rfl ⟨haccepted, hresult.mp rfl⟩
    · intro stage reason h
      cases h

/-- Whichever way an attempt goes, it goes by the protocol. -/
theorem Course.protocol {cap : Nat} {d : Declaration} {log : List Exchange}
    {result : Except (Stage × Halt) Declaration} {w left : Workspace}
    (h : Course cap d log result) (he : w.Effects log left) (id : NodeId) (count : Nat)
    (notes : List Note) :
    ∃ added, Protocol cap w d log ⟨id, result, (left, count), notes⟩ added := by
  -- an attempt that ends before the last stage leaves everything as it was
  have hearly : ∀ {log : List Exchange} {e : Stage × Halt}, w.Effects log left →
      (∀ x ∈ log, x.stage ≠ .replacing) →
      ∃ added, Protocol cap w d log ⟨id, .error e, (left, count), notes⟩ added := by
    intro log e he hstage
    refine ⟨0, .of_untouched (he.eq_of_stage hstage) (fun haccepted => ?_) rfl⟩
    obtain ⟨r, hr⟩ := haccepted
    exact hstage _ hr rfl
  cases h with
  | committed hspelled hcommit =>
    obtain ⟨next, hasked, hrest⟩ := Workspace.effects_append.mp he
    obtain rfl := hasked.eq_of_stage hspelled.stage_ne
    exact hcommit.protocol hspelled hasked hrest id count notes
  | filtered _ => exact hearly he nofun
  | unanswered _ _ => exact hearly he (by simp [Exchange.stage])
  | unresolved _ => exact hearly he (by simp [Exchange.stage])
  | unpackaged _ _ _ => exact hearly he (by simp [Exchange.stage])
  | unimported _ _ _ _ => exact hearly he (by simp [Exchange.stage])
  | flawed _ _ => exact hearly he (by simp [Exchange.stage])

/-- **An attempt keeps to the protocol.** Whatever fault a workspace has, an attempt replaces the
declaration or nothing, adds the first imports that were asked for, and those only after the host
has said that it made the replacement; it succeeds exactly if the host has said so and all imports
were added, and if it abstains for a reason of its own, it leaves everything as it was. -/
theorem Workspace.spellOut_protocol (fault : Option Fault) (w : Workspace) (cap : Nat)
    (d : Declaration) :
    let host := Workspace.host.withFault fault
    ∃ added, Protocol cap w d (host.exchanges cap d (w, 0)) (host.spellOut cap d (w, 0)) added := by
  intro host
  have htraced := host.spellOut_traced cap d (w, 0)
  exact htraced.course.protocol (Host.effects_of_answersAll htraced.answers) _ _ _

end SpellOut
