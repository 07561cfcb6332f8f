import Mathlib.Data.List.Chain
import SpellOut.Proofs.RawType.Grammar

/-! The readers get on, and come to an end.

What a call of a reader does can be written down as a plan, which names the calls that it makes and
says how it goes on with what each of them leaves (`answer_succ`). Of the plans one thing has to be
looked up: how a call that is made lies to the call that makes it (`plan_advances`). It takes up the
tokens no earlier than where the plan stands, goes down a level only for a token taken, and weighs
less.

Of a run all else follows from that. It comes to an end, on malformed tokens too (`exists_runs`), and
it comes to what the readers give with fuel enough (`Runs.answer_eq`), so fuel never runs out. On its
way no token is read twice (`Runs.descends`), every reader but that of arguments takes a token if it
succeeds (`Runs.leaves`), and no call lies deeper than there are tokens taken before it
(`Runs.shallow`).

A primitive type without brackets is read by no run: the reader of reference types refuses it, and
as a whole text it is one token that is looked at and no more (`isBarePrimitive`). So taking such a
type is no moment of a run. -/
namespace SpellOut.RawType

/-! ### Calls and plans -/

inductive Reader where
  | reference
  | chain
  | arguments
  | list
  | argument
deriving DecidableEq

/-- A call of a reader, with the tokens that are left then. -/
structure Call where
  reader : Reader
  depth : Nat
  tokens : List Token

/-- What the call comes to with this much fuel. -/
def Call.answer (cap fuel : Nat) (c : Call) : Option (List Token) :=
  match c.reader with
  | .reference => readReference cap fuel c.depth c.tokens
  | .chain => readClass cap fuel c.depth c.tokens
  | .arguments => readArguments cap fuel c.depth c.tokens
  | .list => readList cap fuel c.depth c.tokens
  | .argument => readArgument cap fuel c.depth c.tokens

/-- What a call does: it ends, with the tokens that it leaves or in refusal, or it makes another
call, and refuses if that does, or else goes on with what that leaves. -/
inductive Plan where
  | ends (left? : Option (List Token))
  | calls (c : Call) (next : List Token → Plan)

namespace Plan

/-- What the plan comes to, if calls are answered in this way. -/
def outcome (answer : Call → Option (List Token)) : Plan → Option (List Token)
  | ends left? => left?
  | calls c next => (answer c).bind fun left => (next left).outcome answer

/-- Leaves what another call leaves. -/
def relay (reader : Reader) (depth : Nat) (tokens : List Token) : Plan :=
  calls ⟨reader, depth, tokens⟩ fun left => ends (some left)

def reference (cap depth : Nat) : List Token → Plan
  | .word head :: rest =>
    if cap < depth then ends none
    else if Word.isPrimitive head then
      match rest with
      | .mark .leftBracket :: .mark .rightBracket :: rest => ends (some (dropBrackets rest))
      | _ => ends none
    else calls ⟨.chain, depth, .word head :: rest⟩ fun left => ends (some (dropBrackets left))
  | _ => ends none

def chain (depth : Nat) : List Token → Plan
  | .word name :: rest =>
    if Word.isIdentifier name then
      calls ⟨.arguments, depth, rest⟩ fun
        | .mark .dot :: left => relay .chain depth left
        | left => ends (some left)
    else ends none
  | _ => ends none

def arguments (depth : Nat) : List Token → Plan
  | .mark .less :: rest => relay .list (depth + 1) rest
  | tokens => ends (some tokens)

def list (depth : Nat) (tokens : List Token) : Plan :=
  calls ⟨.argument, depth, tokens⟩ fun
    | .mark .greater :: left => ends (some left)
    | .mark .comma :: left => relay .list depth left
    | _ => ends none

def argument (depth : Nat) : List Token → Plan
  | .mark .question :: .word word :: rest =>
    if word = "extends" ∨ word = "super" then relay .reference (depth + 1) rest
    else ends (some (.word word :: rest))
  | .mark .question :: rest => ends (some rest)
  | tokens => relay .reference depth tokens

@[simp]
theorem outcome_relay (answer : Call → Option (List Token)) (reader : Reader) (depth : Nat)
    (tokens : List Token) :
    (relay reader depth tokens).outcome answer = answer ⟨reader, depth, tokens⟩ :=
  Option.bind_fun_some _

end Plan

namespace Call

/-- What the call does. -/
def plan (cap : Nat) (c : Call) : Plan :=
  match c.reader with
  | .reference => .reference cap c.depth c.tokens
  | .chain => .chain c.depth c.tokens
  | .arguments => .arguments c.depth c.tokens
  | .list => .list c.depth c.tokens
  | .argument => .argument c.depth c.tokens

/-- A reader does what is planned, with one unit less of fuel for the calls that it makes. -/
theorem answer_succ (cap fuel : Nat) (c : Call) :
    c.answer cap (fuel + 1) = (c.plan cap).outcome (answer cap fuel) := by
  obtain ⟨reader, depth, tokens⟩ := c
  cases reader with
  | reference =>
    simp only [answer, plan]
    rcases tokens with _ | ⟨head | m, rest⟩
    · simp [readReference, Plan.reference, Plan.outcome]
    · unfold readReference
      rw [Plan.reference.eq_def]
      simp only
      split
      · rfl
      · split
        · -- what follows a primitive is two brackets, or it is not
          rcases rest with _ | ⟨text | first, _ | ⟨text | second, rest⟩⟩
          · rfl
          · rfl
          · rfl
          · rfl
          · cases first <;> rfl
          · cases first <;> rfl
          · cases first <;> cases second <;> rfl
        · exact Option.map_eq_bind
    · simp [readReference, Plan.reference, Plan.outcome]
  | chain =>
    simp only [answer, plan]
    rcases tokens with _ | ⟨name | m, rest⟩
    · simp [readClass, Plan.chain, Plan.outcome]
    · rw [readClass, Plan.chain]
      split
      · simp only [Plan.outcome, answer]
        rcases readArguments cap fuel depth rest with _ | _ | ⟨text | m, left⟩
        · rfl
        · rfl
        · rfl
        · cases m <;> simp [Plan.outcome, answer]
      · rfl
    · simp [readClass, Plan.chain, Plan.outcome]
  | arguments =>
    simp only [answer, plan]
    rcases tokens with _ | ⟨text | m, rest⟩
    · simp [readArguments, Plan.arguments, Plan.outcome]
    · simp [readArguments, Plan.arguments, Plan.outcome]
    · cases m <;> simp [readArguments, Plan.arguments, Plan.outcome, answer]
  | list =>
    simp only [answer, plan, readList, Plan.list, Plan.outcome]
    rcases readArgument cap fuel depth tokens with _ | _ | ⟨text | m, left⟩
    · rfl
    · rfl
    · rfl
    · cases m <;> simp [Plan.outcome, answer]
  | argument =>
    simp only [answer, plan]
    rcases tokens with _ | ⟨text | m, rest⟩
    · simp [readArgument, Plan.argument, answer]
    · simp [readArgument, Plan.argument, answer]
    · cases m with
      | question =>
        rcases rest with _ | ⟨word | m, rest⟩
        · simp [readArgument, Plan.argument, Plan.outcome]
        · rw [readArgument, Plan.argument]
          split
          · simp [answer]
          · rfl
        · simp [readArgument, Plan.argument, Plan.outcome]
      | _ => simp [readArgument, Plan.argument, answer]

end Call

/-! ### How a call lies to the one that makes it -/

/-- How many calls may be made one by another before a token is taken. -/
def Reader.rank : Reader → Nat
  | reference => 1
  | chain => 0
  | arguments => 0
  | list => 3
  | argument => 2

def Call.weight (c : Call) : Nat := 4 * c.tokens.length + c.reader.rank

/-- How a call `d` lies to a call `c` that makes it, where `now` is left of the tokens of `c`. -/
structure Call.Under (c : Call) (now : List Token) (d : Call) : Prop where
  tokens : d.tokens <:+ now
  depth : d.depth + d.tokens.length ≤ c.depth + c.tokens.length
  weight : d.weight < c.weight

theorem Reader.rank_lt (reader : Reader) : reader.rank < 4 := by
  cases reader <;> decide

/-- With a token taken before it, any reader may be called, a level deeper at the most. -/
theorem Call.Under.of_taken {c d : Call} {now : List Token} (htokens : d.tokens <:+ now)
    (hlt : d.tokens.length < c.tokens.length) (hdepth : d.depth ≤ c.depth + 1) : c.Under now d := by
  have hrank := d.reader.rank_lt
  refine ⟨htokens, ?_, ?_⟩
  · omega
  · unfold Call.weight
    omega

/-- The tokens are what a call may leave: the rest of its own, and less than those unless it is one
of arguments, as a type may have none. -/
structure Call.Leaves (c : Call) (left : List Token) : Prop where
  rest : left <:+ c.tokens
  progress : c.reader ≠ .arguments → left.length < c.tokens.length

/-- A plan that advances, where `now` is left of the tokens of the call `c` whose plan it is. -/
inductive Plan.Advances (c : Call) : List Token → Plan → Prop
  | refuses {now : List Token} : Advances c now (.ends none)
  | leaves {now left : List Token} (hnow : left <:+ now) (h : c.Leaves left) :
    Advances c now (.ends (some left))
  | calls {now : List Token} {d : Call} {next : List Token → Plan} (h : c.Under now d)
      (hnext : ∀ left, d.Leaves left → Advances c left (next left)) :
    Advances c now (.calls d next)

theorem dropBrackets_suffix (tokens : List Token) : dropBrackets tokens <:+ tokens := by
  obtain ⟨k, hk⟩ := exists_brackets tokens
  exact ⟨brackets k, hk.symm⟩

/-- A plan advances if it leaves less than there was. -/
theorem Plan.ends_advances {c : Call} {now left : List Token} (hnow : left <:+ now)
    (hrest : now <:+ c.tokens) (hlt : left.length < c.tokens.length) :
    (ends (some left)).Advances c now :=
  .leaves hnow ⟨hnow.trans hrest, fun _ => hlt⟩

/-- Relaying a call advances if the call does, and if there is something taken. -/
theorem Plan.relay_advances {c : Call} {now : List Token} {reader : Reader} {depth : Nat}
    {tokens : List Token} (h : c.Under now ⟨reader, depth, tokens⟩) (hrest : now <:+ c.tokens)
    (hprogress : reader ≠ .arguments) : (relay reader depth tokens).Advances c now := by
  refine .calls h fun left hleft => ends_advances (List.suffix_refl left) ?_ ?_
  · exact hleft.rest.trans (h.tokens.trans hrest)
  · exact Nat.lt_of_lt_of_le (hleft.progress hprogress) (h.tokens.trans hrest).length_le

/-- An argument is read as a type, at its own depth. -/
theorem Plan.relay_reference_advances (depth : Nat) (tokens : List Token) :
    (relay .reference depth tokens).Advances ⟨.argument, depth, tokens⟩ tokens :=
  relay_advances ⟨List.suffix_refl tokens, Nat.le_refl _, Nat.lt_succ_self _⟩
    (List.suffix_refl tokens) (by simp)

theorem suffix_of_pair {a b : Token} {rest : List Token} : rest <:+ a :: b :: rest :=
  (List.suffix_cons b rest).trans (List.suffix_cons a _)

/-- The plan of every call advances. -/
theorem plan_advances (cap : Nat) (c : Call) : (c.plan cap).Advances c c.tokens := by
  obtain ⟨reader, depth, tokens⟩ := c
  cases reader with
  | reference =>
    simp only [Call.plan]
    rcases tokens with _ | ⟨head | m, rest⟩
    · exact .refuses
    · rw [Plan.reference.eq_def]
      simp only
      split
      · exact .refuses
      · split
        · split
          · next rest =>
            have hdrop : dropBrackets rest <:+ .mark .rightBracket :: rest :=
              (dropBrackets_suffix rest).trans (List.suffix_cons _ rest)
            refine Plan.ends_advances ?_ (List.suffix_refl _) ?_
            · exact hdrop.trans suffix_of_pair
            · exact Nat.lt_succ_of_le (hdrop.trans (List.suffix_cons _ _)).length_le
          · exact .refuses
        · refine .calls ⟨List.suffix_refl _, Nat.le_refl _, Nat.lt_succ_self _⟩ fun left hleft => ?_
          have hdrop := dropBrackets_suffix left
          exact Plan.ends_advances hdrop hleft.rest
            (Nat.lt_of_le_of_lt hdrop.length_le (hleft.progress (by simp)))
    · exact .refuses
  | chain =>
    simp only [Call.plan]
    rcases tokens with _ | ⟨name | m, rest⟩
    · exact .refuses
    · rw [Plan.chain]
      split
      · have hname : rest <:+ .word name :: rest := List.suffix_cons _ rest
        refine .calls (.of_taken hname (Nat.lt_succ_self _) (Nat.le_succ _)) fun left hleft => ?_
        have hlt := Nat.lt_succ_of_le hleft.rest.length_le
        split
        · next left =>
          exact Plan.relay_advances
            (.of_taken (List.suffix_cons _ left) (Nat.lt_of_succ_lt hlt) (Nat.le_succ _))
            (hleft.rest.trans hname) (by simp)
        · exact Plan.ends_advances (List.suffix_refl left) (hleft.rest.trans hname) hlt
      · exact .refuses
    · exact .refuses
  | arguments =>
    simp only [Call.plan, Plan.arguments]
    split
    · next rest =>
      exact Plan.relay_advances
        (.of_taken (List.suffix_cons _ rest) (Nat.lt_succ_self _) (Nat.le_refl _))
        (List.suffix_refl _) (by simp)
    · exact .leaves (List.suffix_refl tokens) ⟨List.suffix_refl tokens, absurd rfl⟩
  | list =>
    simp only [Call.plan, Plan.list]
    refine .calls ⟨List.suffix_refl tokens, Nat.le_refl _, Nat.lt_succ_self _⟩ fun left hleft => ?_
    have hlt := hleft.progress (by simp)
    split
    · next left =>
      exact Plan.ends_advances (List.suffix_cons _ left) hleft.rest (Nat.lt_of_succ_lt hlt)
    · next left =>
      exact Plan.relay_advances
        (.of_taken (List.suffix_cons _ left) (Nat.lt_of_succ_lt hlt) (Nat.le_succ _)) hleft.rest
        (by simp)
    · exact .refuses
  | argument =>
    simp only [Call.plan]
    unfold Plan.argument
    split
    · next word rest =>
      split
      · exact Plan.relay_advances
          (.of_taken suffix_of_pair (Nat.lt_succ_of_lt (Nat.lt_succ_self _)) (Nat.le_refl _))
          (List.suffix_refl _) (by simp)
      · exact Plan.ends_advances (List.suffix_cons _ _) (List.suffix_refl _) (Nat.lt_succ_self _)
    · exact Plan.ends_advances (List.suffix_cons _ _) (List.suffix_refl _) (Nat.lt_succ_self _)
    · exact Plan.relay_reference_advances depth tokens

/-! ### Runs -/

/-- A moment of a run: a call is made, or it has come to an end and left these tokens. -/
inductive Moment where
  | entered (c : Call)
  | left (c : Call) (tokens : List Token)

/-- The tokens that are left at the moment. -/
def Moment.tokens : Moment → List Token
  | entered c => c.tokens
  | left _ tokens => tokens

/-- The run of a plan, with its moments and with what it comes to. No fuel is spent, so there is a
run exactly if the calls come to an end. -/
inductive Runs (cap : Nat) : Plan → List Moment → Option (List Token) → Prop
  | ends (left? : Option (List Token)) : Runs cap (.ends left?) [] left?
  | refused {c : Call} {next : List Token → Plan} {log : List Moment}
      (h : Runs cap (c.plan cap) log none) : Runs cap (.calls c next) (.entered c :: log) none
  | answered {c : Call} {next : List Token → Plan} {log more : List Moment} {left : List Token}
      {left? : Option (List Token)} (h : Runs cap (c.plan cap) log (some left))
      (hnext : Runs cap (next left) more left?) :
      Runs cap (.calls c next) (.entered c :: (log ++ .left c left :: more)) left?

namespace Runs

variable {cap : Nat} {p : Plan} {log : List Moment} {left? : Option (List Token)} {c : Call}
  {now : List Token}

/-- What a run leaves is what its call may leave. -/
theorem leaves (h : Runs cap p log left?) (hp : p.Advances c now) {left : List Token}
    (hleft : left? = some left) : left <:+ now ∧ c.Leaves left := by
  induction h generalizing c now left with
  | ends left? =>
    subst hleft
    cases hp with
    | leaves hnow h => exact ⟨hnow, h⟩
  | refused _ _ => cases hleft
  | @answered d next log more between left? h hnext ih ihnext =>
    cases hp with
    | calls hunder hadvances =>
      obtain ⟨hbetween, hd⟩ := ih (plan_advances cap d) rfl
      obtain ⟨hrest, hc⟩ := ihnext (hadvances between hd) hleft
      exact ⟨hrest.trans (hbetween.trans hunder.tokens), hc⟩

end Runs

/-- A plan is followed to its end, if the calls below the one whose plan it is come to theirs. -/
theorem Plan.Advances.exists_runs {cap : Nat} {c : Call} {now : List Token} {p : Plan}
    (hp : p.Advances c now)
    (hcalls : ∀ d : Call, d.weight < c.weight → ∃ log left?, Runs cap (d.plan cap) log left?) :
    ∃ log left?, Runs cap p log left? := by
  induction hp with
  | refuses => exact ⟨_, _, .ends none⟩
  | leaves _ _ => exact ⟨_, _, .ends _⟩
  | @calls now d next h hnext ih =>
    obtain ⟨log, left?, hd⟩ := hcalls d h.weight
    cases left? with
    | none => exact ⟨_, _, .refused hd⟩
    | some left =>
      obtain ⟨more, last?, hmore⟩ := ih left (hd.leaves (plan_advances cap d) rfl).2
      exact ⟨_, _, .answered hd hmore⟩

/-- Every call comes to an end, since the calls that it makes weigh less. -/
theorem exists_runs (cap : Nat) (c : Call) : ∃ log left?, Runs cap (c.plan cap) log left? := by
  induction hweight : c.weight using Nat.strongRecOn generalizing c with
  | ind n ih =>
    subst hweight
    exact (plan_advances cap c).exists_runs fun d hd => ih d.weight hd d rfl

namespace Runs

variable {cap : Nat} {p : Plan} {log : List Moment} {left? : Option (List Token)} {c : Call}
  {now : List Token}

/-- A run comes to what the readers give, with more fuel than its call weighs. -/
theorem outcome_eq (h : Runs cap p log left?) (hp : p.Advances c now) {fuel : Nat}
    (hfuel : c.weight ≤ fuel) : p.outcome (Call.answer cap fuel) = left? := by
  induction h generalizing c now fuel with
  | ends left? => rfl
  | @refused d next log h ih =>
    cases hp with
    | calls hunder hadvances =>
      obtain ⟨spare, rfl⟩ := Nat.exists_eq_add_of_lt (Nat.lt_of_lt_of_le hunder.weight hfuel)
      rw [Plan.outcome, Call.answer_succ, ih (plan_advances cap d) (Nat.le_add_right _ _)]
      rfl
  | @answered d next log more left left? h hnext ih ihnext =>
    cases hp with
    | calls hunder hadvances =>
      have hleft := (h.leaves (plan_advances cap d) rfl).2
      have hrest := ihnext (hadvances left hleft) hfuel
      obtain ⟨spare, rfl⟩ := Nat.exists_eq_add_of_lt (Nat.lt_of_lt_of_le hunder.weight hfuel)
      rw [Plan.outcome, Call.answer_succ, ih (plan_advances cap d) (Nat.le_add_right _ _)]
      exact hrest

/-- With more fuel than a call weighs it has the answer that it comes to. -/
theorem answer_eq (h : Runs cap (c.plan cap) log left?) {fuel : Nat} (hfuel : c.weight < fuel) :
    c.answer cap fuel = left? := by
  obtain ⟨spare, rfl⟩ := Nat.exists_eq_add_of_lt hfuel
  rw [Call.answer_succ]
  exact h.outcome_eq (plan_advances cap c) (Nat.le_add_right _ _)

/-- From moment to moment of a run less is left of the tokens, or as much. -/
theorem descends (h : Runs cap p log left?) (hp : p.Advances c now) :
    List.IsChain (fun before after => after <:+ before)
      (now :: (log.map Moment.tokens ++ left?.toList)) := by
  induction h generalizing c now with
  | ends left? =>
    cases hp with
    | refuses => exact .singleton now
    | leaves hnow _ => exact List.isChain_pair.mpr hnow
  | @refused d next log h ih =>
    cases hp with
    | calls hunder _ => exact List.isChain_cons_cons.mpr ⟨hunder.tokens, ih (plan_advances cap d)⟩
  | @answered d next log more left left? h hnext ih ihnext =>
    cases hp with
    | calls hunder hadvances =>
      have hcall : List.IsChain (fun before after => after <:+ before)
          ((d.tokens :: log.map Moment.tokens) ++ [left]) := ih (plan_advances cap d)
      have hmore := ihnext (hadvances left (h.leaves (plan_advances cap d) rfl).2)
      refine List.isChain_cons_cons.mpr ⟨hunder.tokens, ?_⟩
      have hsplit := List.isChain_split.mpr ⟨hcall, hmore⟩
      simpa [Moment.tokens] using hsplit

/-- No call lies deeper than the tokens taken before it allow. -/
theorem shallow (h : Runs cap p log left?) (hp : p.Advances c now) {d : Call}
    (hd : .entered d ∈ log) : d.depth + d.tokens.length ≤ c.depth + c.tokens.length := by
  induction h generalizing c now with
  | ends left? => cases hd
  | @refused e next log h ih =>
    cases hp with
    | calls hunder _ =>
      rcases List.mem_cons.mp hd with heq | hd
      · cases heq
        exact hunder.depth
      · exact Nat.le_trans (ih (plan_advances cap e) hd) hunder.depth
  | @answered e next log more left left? h hnext ih ihnext =>
    cases hp with
    | calls hunder hadvances =>
      simp only [List.mem_cons, List.mem_append] at hd
      rcases hd with heq | hd | heq | hd
      · cases heq
        exact hunder.depth
      · exact Nat.le_trans (ih (plan_advances cap e) hd) hunder.depth
      · cases heq
      · exact ihnext (hadvances left (h.leaves (plan_advances cap e) rfl).2) hd

/-- What a call has left at some moment is what a run of it leaves, and it was made before. -/
theorem exists_of_left (h : Runs cap p log left?) {d : Call} {left : List Token}
    (hd : .left d left ∈ log) :
    .entered d ∈ log ∧ ∃ log', Runs cap (d.plan cap) log' (some left) := by
  induction h with
  | ends left? => cases hd
  | refused h ih =>
    rcases List.mem_cons.mp hd with heq | hd
    · cases heq
    · obtain ⟨hentered, hrun⟩ := ih hd
      exact ⟨List.mem_cons_of_mem _ hentered, hrun⟩
  | answered h hnext ih ihnext =>
    simp only [List.mem_cons, List.mem_append] at hd ⊢
    rcases hd with heq | hd | heq | hd
    · cases heq
    · obtain ⟨hentered, hrun⟩ := ih hd
      exact ⟨.inr (.inl hentered), hrun⟩
    · cases heq
      exact ⟨.inl rfl, _, h⟩
    · obtain ⟨hentered, hrun⟩ := ihnext hd
      exact ⟨.inr (.inr (.inr hentered)), hrun⟩

end Runs

/-! ### The run of a whole -/

/-- How many of all tokens are taken at a moment. -/
def Moment.position (all : List Token) (m : Moment) : Nat := all.length - m.tokens.length

/-- What there is to say of the moments of a run on all these tokens. -/
structure Advancing (cap : Nat) (all : List Token) (log : List Moment) : Prop where
  /-- The tokens up to some place are taken, and those from there on are left. -/
  placed : ∀ m ∈ log, m.position all ≤ all.length ∧ m.tokens = all.drop (m.position all)
  /-- The place never goes back. -/
  onwards : log.Pairwise fun before after => before.position all ≤ after.position all
  /-- A call that succeeds takes a token at least, unless it is one of arguments. -/
  progress : ∀ c left, .left c left ∈ log → c.reader ≠ .arguments →
    (Moment.entered c).position all < (Moment.left c left).position all
  /-- No call lies deeper than as many tokens as are taken when it is made. -/
  shallow : ∀ c, .entered c ∈ log → c.depth ≤ (Moment.entered c).position all
  /-- So there is a number for the next depth too, where the greatest number is beyond that of the
  tokens by more than two. -/
  bounded : ∀ greatest, all.length < greatest - 2 → ∀ c, .entered c ∈ log → c.depth + 1 ≤ greatest
  /-- What a call leaves is what its reader gives. -/
  answered : ∀ c left, .left c left ∈ log → c.answer cap (enough c.tokens) = some left

theorem Call.weight_lt_enough (c : Call) : c.weight < enough c.tokens :=
  Nat.add_lt_add_left c.reader.rank_lt _

instance : Trans (fun before after : List Token => after <:+ before)
    (fun before after => after <:+ before) (fun before after => after <:+ before) where
  trans h h' := h'.trans h

theorem Runs.advancing {cap : Nat} {tokens : List Token} {log : List Moment}
    {left? : Option (List Token)} (h : Runs cap (.relay .reference 0 tokens) log left?) :
    Advancing cap tokens log := by
  have hwhole := Plan.relay_reference_advances 0 tokens
  obtain ⟨hrests, hdescends⟩ := List.pairwise_cons.mp (h.descends hwhole).pairwise
  have hrest : ∀ m ∈ log, m.tokens <:+ tokens := fun m hm =>
    hrests _ (List.mem_append_left _ (List.mem_map_of_mem hm))
  have hshallow : ∀ c, .entered c ∈ log → c.depth + c.tokens.length ≤ tokens.length := by
    intro c hc
    simpa using h.shallow hwhole hc
  constructor
  case placed => exact fun m hm => ⟨Nat.sub_le _ _, List.suffix_iff_eq_drop.mp (hrest m hm)⟩
  case onwards =>
    refine (List.pairwise_map.mp (List.pairwise_append.mp hdescends).1).imp ?_
    exact fun hafter => Nat.sub_le_sub_left hafter.length_le _
  case progress =>
    intro c left hmem hreader
    obtain ⟨hentered, log', hrun⟩ := h.exists_of_left hmem
    have hless := (hrun.leaves (plan_advances cap c) rfl).2.progress hreader
    have hle := (hrest _ hentered).length_le
    exact Nat.sub_lt_sub_left (Nat.lt_of_lt_of_le hless hle) hless
  case shallow => exact fun c hc => Nat.le_sub_of_add_le (hshallow c hc)
  case bounded =>
    intro greatest hgreatest c hc
    have := hshallow c hc
    omega
  case answered =>
    intro c left hmem
    obtain ⟨-, log', hrun⟩ := h.exists_of_left hmem
    exact hrun.answer_eq c.weight_lt_enough

/-- **The readers get on and come to an end.** They do what is planned; and whether tokens are a
type is told by the run of one call on them, which comes to an end on any tokens. Nothing is read
twice on its way or past the last token, calls that succeed take tokens, and no call lies deeper than
there are tokens taken. -/
theorem isType_advances (cap : Nat) (tokens : List Token) :
    (∀ fuel c, Call.answer cap (fuel + 1) c = (c.plan cap).outcome (Call.answer cap fuel)) ∧
      (∃ log left?, Runs cap (.relay .reference 0 tokens) log left?) ∧
      ∀ log left?, Runs cap (.relay .reference 0 tokens) log left? →
        isType cap tokens = (isBarePrimitive tokens || left? == some []) ∧
          Advancing cap tokens log := by
  have hwhole := Plan.relay_reference_advances 0 tokens
  refine ⟨Call.answer_succ cap, ?_, ?_⟩
  · exact hwhole.exists_runs fun d _ => exists_runs cap d
  · intro log left? h
    refine ⟨?_, h.advancing⟩
    have hanswer := h.outcome_eq hwhole (Nat.le_of_lt (Call.weight_lt_enough _))
    rw [Plan.outcome_relay] at hanswer
    rw [isType, ← hanswer]
    rfl

end SpellOut.RawType
