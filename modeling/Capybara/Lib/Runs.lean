import Capybara.Lib.SerialNumbers

/-!
# Runs of a step function that may fail

A system is a step function from a state and an action to a next state or a
failure. A run is a finite sequence of successful steps, recorded with the most
recent transition first, so that quantities of the past are functions of the
record and conditions on the past are conditions on its members.

The invariant rules state once what an induction over runs needs: the property
holds at the start and every transition that meets the condition keeps it.
-/

namespace Runs

universe u v w
variable {σ : Type u} {α : Type v} {ε : Type w}

/-- One successful step: where it began, what was done and where it ended. -/
structure Transition (σ : Type u) (α : Type v) where
  source : σ
  action : α
  target : σ

/-- The states reached from `start`, each with the transitions that led to it,
most recent first. -/
inductive Run (step : σ → α → Except ε σ) (start : σ) : List (Transition σ α) → σ → Prop where
  | nil : Run step start [] start
  | step {past : List (Transition σ α)} {source target : σ} (action : α)
      (earlier : Run step start past source)
      (advanced : step source action = .ok target) :
      Run step start (⟨source, action, target⟩ :: past) target

/-- Every transition of the past meets the condition on its source and action. -/
def Meets (condition : σ → α → Prop) (past : List (Transition σ α)) : Prop :=
  ∀ transition ∈ past, condition transition.source transition.action

instance (condition : σ → α → Prop) [∀ state action, Decidable (condition state action)]
    (past : List (Transition σ α)) : Decidable (Meets condition past) :=
  inferInstanceAs (Decidable (∀ transition ∈ past, _))

/-- A run without steps meets every condition. -/
theorem meets_nil (condition : σ → α → Prop) : Meets condition [] := by
  simp [Meets]

/-- A run meets a condition if its last step and the run before it do. -/
theorem meets_cons (condition : σ → α → Prop) (transition : Transition σ α)
    (past : List (Transition σ α)) :
    Meets condition (transition :: past) ↔
      condition transition.source transition.action ∧ Meets condition past := by
  simp [Meets]

/-- Two conditions that are met are met together. -/
theorem meets_and {condition condition' : σ → α → Prop} {past : List (Transition σ α)}
    (meets : Meets condition past) (meets' : Meets condition' past) :
    Meets (fun source action => condition source action ∧ condition' source action) past :=
  fun transition member => ⟨meets transition member, meets' transition member⟩

/-- Every run meets no condition at all. -/
theorem meets_true (past : List (Transition σ α)) : Meets (fun _ _ => True) past :=
  fun _ _ => trivial

/-- A run meets a condition if both of its parts do. -/
theorem meets_append {condition : σ → α → Prop} {past later : List (Transition σ α)} :
    Meets condition (later ++ past) ↔ Meets condition later ∧ Meets condition past := by
  simp only [Meets, List.mem_append, or_imp, forall_and]

variable {step : σ → α → Except ε σ} {start : σ}

/-- A run that goes on from where another one ended. -/
theorem Run.append {past later : List (Transition σ α)} {middle state : σ}
    (first : Run step start past middle) (second : Run step middle later state) :
    Run step start (later ++ past) state := by
  induction second with
  | nil => exact first
  | step action earlier advanced inductionHypothesis => exact .step action inductionHypothesis advanced

/-- The last transition of a run, and the run before it. -/
theorem Run.last {transition : Transition σ α} {past : List (Transition σ α)} {state : σ}
    (run : Run step start (transition :: past) state) :
    Run step start past transition.source ∧
      step transition.source transition.action = .ok transition.target ∧
      state = transition.target := by
  cases run with
  | step action earlier advanced => exact ⟨earlier, advanced, rfl⟩

/-- Each part of the past is the past of a state that the run went through. -/
theorem Run.earlier {later past : List (Transition σ α)} {state : σ}
    (run : Run step start (later ++ past) state) : ∃ middle, Run step start past middle := by
  induction later generalizing state with
  | nil => exact ⟨state, run⟩
  | cons transition later inductionHypothesis => exact inductionHypothesis run.last.1

/-- A property of the past and the state that holds at the start and is kept by
every transition meeting the condition holds after every such run. -/
theorem run_invariant {condition : σ → α → Prop}
    (invariant : List (Transition σ α) → σ → Prop) (initially : invariant [] start)
    (kept : ∀ past source action target, Run step start past source →
      condition source action → invariant past source → step source action = .ok target →
        invariant (⟨source, action, target⟩ :: past) target)
    {past : List (Transition σ α)} {state : σ} (run : Run step start past state)
    (meets : Meets condition past) : invariant past state := by
  induction run with
  | nil => exact initially
  | step action earlier advanced inductionHypothesis =>
    obtain ⟨here, before⟩ := (meets_cons _ _ _).mp meets
    exact kept _ _ action _ earlier here (inductionHypothesis before) advanced

/-- The rule for a property of the state alone. -/
theorem state_invariant {condition : σ → α → Prop} (invariant : σ → Prop)
    (initially : invariant start)
    (kept : ∀ source action target, condition source action → invariant source →
      step source action = .ok target → invariant target)
    {past : List (Transition σ α)} {state : σ} (run : Run step start past state)
    (meets : Meets condition past) : invariant state :=
  run_invariant (fun _ => invariant) initially
    (fun _ source action target _ here holds advanced =>
      kept source action target here holds advanced) run meets

/-- Every transition meets a condition that may also depend on what came before it. -/
def Follows (condition : List (Transition σ α) → σ → α → Prop) : List (Transition σ α) → Prop
  | [] => True
  | transition :: past =>
    condition past transition.source transition.action ∧ Follows condition past

instance decidableFollows (condition : List (Transition σ α) → σ → α → Prop)
    [∀ past state action, Decidable (condition past state action)] :
    (past : List (Transition σ α)) → Decidable (Follows condition past)
  | [] => .isTrue trivial
  | _ :: past => @instDecidableAnd _ _ _ (decidableFollows condition past)

/-- Two conditions that are followed are followed together. -/
theorem follows_and {condition condition' : List (Transition σ α) → σ → α → Prop}
    {past : List (Transition σ α)} (follows : Follows condition past)
    (follows' : Follows condition' past) :
    Follows (fun past source action => condition past source action ∧ condition' past source action)
      past := by
  induction past with
  | nil => trivial
  | cons transition past inductionHypothesis =>
    exact ⟨⟨follows.1, follows'.1⟩, inductionHypothesis follows.2 follows'.2⟩

/-- A condition on the single transitions is followed as well. -/
theorem follows_of_meets {condition : σ → α → Prop} {past : List (Transition σ α)}
    (meets : Meets condition past) : Follows (fun _ => condition) past := by
  induction past with
  | nil => trivial
  | cons transition past inductionHypothesis =>
    obtain ⟨here, before⟩ := (meets_cons _ _ _).mp meets
    exact ⟨here, inductionHypothesis before⟩

/-- The invariant rule for a condition that depends on the past. -/
theorem follows_invariant {condition : List (Transition σ α) → σ → α → Prop}
    (invariant : List (Transition σ α) → σ → Prop) (initially : invariant [] start)
    (kept : ∀ past source action target, Run step start past source →
      condition past source action → invariant past source → step source action = .ok target →
        invariant (⟨source, action, target⟩ :: past) target)
    {past : List (Transition σ α)} {state : σ} (run : Run step start past state)
    (follows : Follows condition past) : invariant past state := by
  induction run with
  | nil => exact initially
  | step action earlier advanced inductionHypothesis =>
    exact kept _ _ action _ earlier follows.1 (inductionHypothesis follows.2) advanced

/-- The property holds at the start and after every transition. -/
def Throughout (property : σ → Prop) (start : σ) (past : List (Transition σ α)) : Prop :=
  property start ∧ ∀ transition ∈ past, property transition.target

/-- A property holds throughout a run if it holds at its end and throughout the run before. -/
theorem throughout_cons {property : σ → Prop} {start : σ} {transition : Transition σ α}
    {past : List (Transition σ α)} :
    Throughout property start (transition :: past) ↔
      property transition.target ∧ Throughout property start past := by
  simp only [Throughout, List.forall_mem_cons]
  exact and_left_comm

/-- A property that an invariant implies holds throughout exactly the runs that begin with it
and whose transitions all meet a condition, if every transition meeting the condition keeps the
invariant and every other one destroys the property. -/
theorem throughout_iff {allowed condition : σ → α → Prop} {property invariant : σ → Prop}
    (initially : property start → invariant start)
    (sound : ∀ state, invariant state → property state)
    (kept : ∀ source action target, allowed source action → invariant source →
      step source action = .ok target → condition source action → invariant target)
    (destroyed : ∀ source action target, allowed source action → invariant source →
      step source action = .ok target → ¬ condition source action → ¬ property target)
    {past : List (Transition σ α)} {state : σ} (run : Run step start past state)
    (allowing : Meets allowed past) :
    Throughout property start past ↔ property start ∧ Meets condition past := by
  suffices both : (Throughout property start past → Meets condition past ∧ invariant state) ∧
      (property start ∧ Meets condition past → Throughout property start past ∧ invariant state) from
    ⟨fun throughout => ⟨throughout.1, (both.1 throughout).1⟩, fun meets => (both.2 meets).1⟩
  induction run with
  | nil =>
    refine ⟨fun throughout => ⟨meets_nil _, initially throughout.1⟩, fun meets => ⟨⟨meets.1, ?_⟩,
      initially meets.1⟩⟩
    exact fun _ member => absurd member List.not_mem_nil
  | step action earlier advanced inductionHypothesis =>
    obtain ⟨here, before⟩ := (meets_cons _ _ _).mp allowing
    obtain ⟨forward, backward⟩ := inductionHypothesis before
    constructor
    · intro throughout
      obtain ⟨reached, throughout⟩ := throughout_cons.mp throughout
      obtain ⟨meets, holds⟩ := forward throughout
      have meetsHere := not_imp_not.mp (destroyed _ action _ here holds advanced) reached
      exact ⟨(meets_cons _ _ _).mpr ⟨meetsHere, meets⟩,
        kept _ action _ here holds advanced meetsHere⟩
    · rintro ⟨started, meets⟩
      obtain ⟨meetsHere, meets⟩ := (meets_cons _ _ _).mp meets
      obtain ⟨throughout, holds⟩ := backward ⟨started, meets⟩
      have holds' := kept _ action _ here holds advanced meetsHere
      exact ⟨throughout_cons.mpr ⟨sound _ holds', throughout⟩, holds'⟩

/-- The property holds of the start and of every state reached since, each with the past that
led to it. -/
def Always (property : List (Transition σ α) → σ → Prop) (start : σ) :
    List (Transition σ α) → Prop
  | [] => property [] start
  | transition :: past =>
    property (transition :: past) transition.target ∧ Always property start past

/-- A property of the past that an invariant implies always holds in exactly the runs whose
transitions all meet a condition, if every transition meeting the condition keeps the invariant
and every other one destroys the property. -/
theorem always_iff {condition : σ → α → Prop}
    {property invariant : List (Transition σ α) → σ → Prop} (initially : invariant [] start)
    (sound : ∀ past state, invariant past state → property past state)
    (kept : ∀ past source action target, invariant past source →
      step source action = .ok target → condition source action →
        invariant (⟨source, action, target⟩ :: past) target)
    (destroyed : ∀ past source action target, invariant past source →
      step source action = .ok target → ¬ condition source action →
        ¬ property (⟨source, action, target⟩ :: past) target)
    {past : List (Transition σ α)} {state : σ} (run : Run step start past state) :
    Always property start past ↔ Meets condition past := by
  suffices both : (Always property start past → Meets condition past) ∧
      (Meets condition past → Always property start past ∧ invariant past state) from
    ⟨both.1, fun meets => (both.2 meets).1⟩
  induction run with
  | nil => exact ⟨fun _ => meets_nil _, fun _ => ⟨sound _ _ initially, initially⟩⟩
  | @step past source target action earlier advanced inductionHypothesis =>
    obtain ⟨forward, backward⟩ := inductionHypothesis
    constructor
    · rintro ⟨here, always⟩
      have meets := forward always
      have holds := (backward meets).2
      have meetsHere := not_imp_not.mp (destroyed past source action target holds advanced) here
      exact (meets_cons _ _ _).mpr ⟨meetsHere, meets⟩
    · intro meets
      obtain ⟨meetsHere, meets⟩ := (meets_cons _ _ _).mp meets
      obtain ⟨always, holds⟩ := backward meets
      have holds' := kept past source action target holds advanced meetsHere
      exact ⟨⟨sound _ _ holds', always⟩, holds'⟩

/-! ## Services

A service answers each action. What an answer has to be may depend on a note of the actions so far,
which knows nothing of the state. -/

section Services

universe x y
variable {ω : Type x} {γ : Type y}

/-- Every action is answered, and as required after it has been noted. -/
def Serves (serve : σ → α → Except ε (σ × ω)) (note : γ → α → γ) (required : γ → α → ω → Prop) :
    σ → γ → List α → Prop
  | _, _, [] => True
  | state, noted, action :: later =>
    ∃ state' answer, serve state action = .ok (state', answer) ∧
      required (note noted action) action answer ∧
      Serves serve note required state' (note noted action) later

/-- Every action meets a condition on what has been noted before it. -/
def Admits (note : γ → α → γ) (condition : γ → α → Prop) : γ → List α → Prop
  | _, [] => True
  | noted, action :: later =>
    condition noted action ∧ Admits note condition (note noted action) later

instance decidableAdmits (note : γ → α → γ) (condition : γ → α → Prop)
    [∀ noted action, Decidable (condition noted action)] :
    (noted : γ) → (actions : List α) → Decidable (Admits note condition noted actions)
  | _, [] => .isTrue trivial
  | noted, action :: later =>
    @instDecidableAnd _ _ _ (decidableAdmits note condition (note noted action) later)

/-- A service answers as required exactly if every action meets a condition, provided that an
invariant between state and note makes the condition enough for a right answer that keeps the
invariant, and needed for a right answer. -/
theorem serves_iff {serve : σ → α → Except ε (σ × ω)} {note : γ → α → γ}
    {required : γ → α → ω → Prop} {condition : γ → α → Prop} {allowed : α → Prop}
    {invariant : σ → γ → Prop}
    (enough : ∀ state noted action, allowed action → invariant state noted →
      condition noted action → ∃ state' answer, serve state action = .ok (state', answer) ∧
        required (note noted action) action answer ∧ invariant state' (note noted action))
    (needed : ∀ state noted action state' answer, allowed action → invariant state noted →
      serve state action = .ok (state', answer) →
        required (note noted action) action answer → condition noted action)
    {actions : List α} (allowing : ∀ action ∈ actions, allowed action) {state : σ} {noted : γ}
    (initially : invariant state noted) :
    Serves serve note required state noted actions ↔ Admits note condition noted actions := by
  induction actions generalizing state noted with
  | nil => exact Iff.rfl
  | cons action later inductionHypothesis =>
    have here := allowing action List.mem_cons_self
    have behind {state : σ} {noted : γ} (holds : invariant state noted) :
        Serves serve note required state noted later ↔ Admits note condition noted later :=
      inductionHypothesis (fun other member => allowing other (List.mem_cons_of_mem _ member)) holds
    constructor
    · rintro ⟨state', answer, served, right, serves⟩
      have meets := needed state noted action state' answer here initially served right
      obtain ⟨_, _, served', -, kept⟩ := enough state noted action here initially meets
      cases served.symm.trans served'
      exact ⟨meets, (behind kept).mp serves⟩
    · rintro ⟨meets, admits⟩
      obtain ⟨state', answer, served, right, kept⟩ := enough state noted action here initially meets
      exact ⟨state', answer, served, right, (behind kept).mpr admits⟩

/-- The answers of a service to some actions, and the state they leave behind. -/
def respond (serve : σ → α → Except ε (σ × ω)) : σ → List α → Except ε (σ × List ω)
  | state, [] => .ok (state, [])
  | state, action :: later =>
    match serve state action with
    | .error failure => .error failure
    | .ok (state, answer) => (respond serve state later).map (Prod.map id (answer :: ·))

/-- Every action meets a condition on the state in which it is served. -/
def Permits (serve : σ → α → Except ε (σ × ω)) (condition : σ → α → Prop) : σ → List α → Prop
  | _, [] => True
  | state, action :: later =>
    condition state action ∧
      ∀ state' answer, serve state action = .ok (state', answer) →
        Permits serve condition state' later

/-- Every sequence of actions is permitted where nothing is asked. -/
theorem permits_true {serve : σ → α → Except ε (σ × ω)} (state : σ) (actions : List α) :
    Permits serve (fun _ _ => True) state actions := by
  induction actions generalizing state with
  | nil => trivial
  | cons action later inductionHypothesis =>
    exact ⟨trivial, fun state' _ _ => inductionHypothesis state'⟩

universe z
variable {τ : Type z} {ε' : Type w}

/-- A service that answers each action as another one does, as long as the actions meet a
condition on the other's state, answers all of them as the other one does. -/
theorem respond_simulates {serve : σ → α → Except ε (σ × ω)} {model : τ → α → Except ε' (τ × ω)}
    {condition : τ → α → Prop} {related : σ → τ → Prop}
    (simulated : ∀ state abstract action, related state abstract → condition abstract action →
      ∃ state' abstract' answer, serve state action = .ok (state', answer) ∧
        model abstract action = .ok (abstract', answer) ∧ related state' abstract')
    {actions : List α} {state : σ} {abstract : τ} (initially : related state abstract)
    (permits : Permits model condition abstract actions) :
    ∃ state' abstract' answers, respond serve state actions = .ok (state', answers) ∧
      respond model abstract actions = .ok (abstract', answers) ∧ related state' abstract' := by
  induction actions generalizing state abstract with
  | nil => exact ⟨state, abstract, [], rfl, rfl, initially⟩
  | cons action later inductionHypothesis =>
    obtain ⟨here, permitted⟩ := permits
    obtain ⟨state', abstract', answer, served, modelled, kept⟩ :=
      simulated state abstract action initially here
    obtain ⟨last, lastAbstract, answers, responded, respondedAbstract, related'⟩ :=
      inductionHypothesis kept (permitted abstract' answer modelled)
    refine ⟨last, lastAbstract, answer :: answers, ?_, ?_, related'⟩
    · rw [respond, served]
      simp only [responded]
      rfl
    · rw [respond, modelled]
      simp only [respondedAbstract]
      rfl

end Services

/-- Carry out a list of actions, recording the transitions. -/
def execute (step : σ → α → Except ε σ) : List (Transition σ α) × σ → List α →
    Except ε (List (Transition σ α) × σ)
  | reached, [] => .ok reached
  | (past, source), action :: later =>
    match step source action with
    | .error failure => .error failure
    | .ok target => execute step (⟨source, action, target⟩ :: past, target) later

/-- What has been carried out is a run. -/
theorem run_of_execute {actions : List α} {past past' : List (Transition σ α)} {source state : σ}
    (earlier : Run step start past source)
    (executed : execute step (past, source) actions = .ok (past', state)) :
    Run step start past' state := by
  induction actions generalizing past source with
  | nil =>
    cases executed
    exact earlier
  | cons action actions inductionHypothesis =>
    simp only [execute] at executed
    split at executed
    · cases executed
    · rename_i target advanced
      exact inductionHypothesis (.step action earlier advanced) executed

/-- Actions that meet a condition in any state do so when they are carried out. -/
theorem meets_of_execute {condition : σ → α → Prop} (actions : List α)
    {past past' : List (Transition σ α)} {source state : σ} (meets : Meets condition past)
    (always : ∀ action ∈ actions, ∀ source, condition source action)
    (executed : execute step (past, source) actions = .ok (past', state)) :
    Meets condition past' := by
  induction actions generalizing past source with
  | nil =>
    cases executed
    exact meets
  | cons action actions inductionHypothesis =>
    simp only [execute] at executed
    split at executed
    · cases executed
    · rename_i target advanced
      have here : Meets condition (⟨source, action, target⟩ :: past) :=
        (meets_cons _ _ _).mpr ⟨always action List.mem_cons_self source, meets⟩
      exact inductionHypothesis here
        (fun other member => always other (List.mem_cons_of_mem _ member)) executed

/-- Forward movement of a wrapping counter over the whole past. -/
def advance {width : Nat} (counter : σ → BitVec (width + 1)) : List (Transition σ α) → Nat
  | [] => 0
  | transition :: past =>
    advance counter past + SerialNumbers.ahead (counter transition.source) (counter transition.target)

end Runs
