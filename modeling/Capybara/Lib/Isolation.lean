import Mathlib.Data.List.Basic

/-!
# Systems with several users

A system answers calls and may fail. One of its users sees only a part of the state:
two states agree when they are the same to that user. Calls of others respect the
user when they lead to a state that agrees with the one they found. The calls of the
user are consistent when states that agree give the same answer and agree again.

From these two properties the user cannot tell whether the others are there at all:
the user's own calls, made alone, are answered as they are among the calls of the
others.
-/

namespace Isolation

universe u v w
variable {σ β : Type u} {α : Type v} {ε : Type w}

/-- Two outcomes that a user cannot tell apart: the same failure, or the same answer
in states that agree. -/
inductive Alike (agree : σ → σ → Prop) : Except ε (σ × β) → Except ε (σ × β) → Prop where
  | failed (failure : ε) : Alike agree (.error failure) (.error failure)
  | returned {state state' : σ} (answer : β) (agrees : agree state state') :
      Alike agree (.ok (state, answer)) (.ok (state', answer))

/-- An outcome that returns is matched by one that returns the same answer. -/
theorem Alike.returns {agree : σ → σ → Prop} {outcome : Except ε (σ × β)} {state : σ} {answer : β}
    (alike : Alike agree (.ok (state, answer)) outcome) :
    ∃ state', outcome = .ok (state', answer) ∧ agree state state' := by
  cases alike with
  | returned _ agrees => exact ⟨_, rfl, agrees⟩

/-- Outcomes that are alike are continued in ways that are alike. -/
theorem Alike.bind {γ : Type u} {agree agree' : σ → σ → Prop} {outcome outcome' : Except ε (σ × β)}
    {next next' : σ × β → Except ε (σ × γ)} (alike : Alike agree outcome outcome')
    (continued : ∀ state state' answer, agree state state' →
      Alike agree' (next (state, answer)) (next' (state', answer))) :
    Alike agree' (outcome >>= next) (outcome' >>= next') := by
  cases alike with
  | failed failure => exact .failed failure
  | returned answer agrees => exact continued _ _ answer agrees

/-- Calls that return one after the other, recorded with their answers, the first one
first. Every call is allowed in the state in which it is made. -/
inductive Performs (step : σ → α → Except ε (σ × β)) (allowed : σ → α → Prop) :
    σ → List (α × β) → σ → Prop where
  | nil (state : σ) : Performs step allowed state [] state
  | cons {state next last : σ} {call : α} {answer : β} {later : List (α × β)}
      (permitted : allowed state call) (returned : step state call = .ok (next, answer))
      (rest : Performs step allowed next later last) :
      Performs step allowed state ((call, answer) :: later) last

/-- What a user's view needs in order to be a system of its own. -/
structure Isolated (step : σ → α → Except ε (σ × β)) (mine : α → Prop) (foreign : σ → α → Prop)
    (agree : σ → σ → Prop) : Prop where
  equivalence : Equivalence agree
  respects : ∀ {state next : σ} {call : α} {answer : β}, foreign state call →
    step state call = .ok (next, answer) → agree state next
  consistent : ∀ {state state' : σ} {call : α}, mine call → agree state state' →
    Alike agree (step state call) (step state' call)

variable {step : σ → α → Except ε (σ × β)} {mine : α → Prop} [DecidablePred mine]
  {foreign : σ → α → Prop} {agree : σ → σ → Prop}

/-- The calls of the user, made alone from a state that agrees, are answered in the
same way and lead to a state that agrees. -/
theorem Isolated.alone (isolated : Isolated step mine foreign agree) {start last : σ}
    {record : List (α × β)}
    (performed : Performs step (fun state call => mine call ∨ foreign state call) start record last)
    {start' : σ} (agrees : agree start start') :
    ∃ last', Performs step (fun _ call => mine call) start'
      (record.filter fun entry => mine entry.1) last' ∧ agree last last' := by
  induction performed generalizing start' with
  | nil state => exact ⟨start', .nil start', agrees⟩
  | @cons state next last call answer later permitted returned rest inductionHypothesis =>
    by_cases own : mine call
    · have alike := isolated.consistent own agrees
      rw [returned] at alike
      obtain ⟨next', returned', agrees'⟩ := alike.returns
      obtain ⟨last', performed', agrees''⟩ := inductionHypothesis agrees'
      rw [List.filter_cons_of_pos (by simpa using own)]
      exact ⟨last', .cons own returned' performed', agrees''⟩
    · have other : foreign state call := permitted.resolve_left own
      have unchanged : agree state next := isolated.respects other returned
      rw [List.filter_cons_of_neg (by simpa using own)]
      exact inductionHypothesis
        (isolated.equivalence.trans (isolated.equivalence.symm unchanged) agrees)

end Isolation
