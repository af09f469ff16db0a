import Capybara.Lib.Runs

/-!
# Operations that wait behind one waker

Several operations wait for what a state holds. A poll that finds nothing leaves the
waker of its operation in the only slot of the state and returns nothing; what
arrives wakes the operation in the slot and empties it. An operation whose waker is
overwritten is not woken any more.

`System` lists what such a state has and `Lawful` what its steps do with it. While no
poll overwrites the waker of another waiting operation, every waiting operation has
been woken, or is in the slot and there is nothing to take.
-/

namespace WakerSlot

open Runs

universe u v w
variable {σ : Type u} {α : Type v} {ε : Type w} {ω : Type} [DecidableEq ω]

/-- A state with a waker slot: its steps, which of them poll for whom and whether that
returns something, and the operations that it has woken so far. -/
structure System (σ : Type u) (α : Type v) (ε : Type w) (ω : Type) where
  step : σ → α → Except ε σ
  slot : σ → Option ω
  woken : σ → List ω
  available : σ → Bool
  polls : α → Option ω
  returns : σ → α → Bool

/-- A poll returns something if there is something, and else registers its waker. Any
other step leaves the slot as it is and brings nothing, or wakes the operation in the slot. -/
structure Lawful (system : System σ α ε ω) : Prop where
  returns : ∀ {source target action operation}, system.step source action = .ok target →
    system.polls action = some operation →
      system.returns source action = system.available source
  registers : ∀ {source target action operation}, system.step source action = .ok target →
    system.polls action = some operation → system.available source = false →
      system.slot target = some operation ∧ system.available target = false
  other : ∀ {source target action}, system.step source action = .ok target →
    system.polls action = none →
      system.slot target = system.slot source ∧
        (system.available source = false → system.available target = false) ∨
      system.woken target = system.woken source ++ (system.slot source).toList

/-- A state with the operations that wait, and those that have been woken since they
last returned nothing. -/
structure Operations (σ : Type u) (ω : Type) where
  state : σ
  pending : List ω
  notified : List ω

/-- A step of the state, or the end of a waiting operation without a result. -/
inductive Act (α : Type v) (ω : Type) where
  | act (action : α)
  | cancel (operation : ω)

namespace Operations

/-- What a step has woken. -/
def fresh (system : System σ α ε ω) (source target : σ) : List ω :=
  (system.woken target).drop (system.woken source).length

/-- The operations after a step of the state. -/
def after (system : System σ α ε ω) (operations : Operations σ ω) (action : α) (target : σ) :
    Operations σ ω :=
  match system.polls action with
  | some operation => {
      state := target
      pending := if system.returns operations.state action then
          operations.pending.filter (· ≠ operation)
        else operation :: operations.pending.filter (· ≠ operation)
      notified := operations.notified.filter (· ≠ operation) }
  | none => {
      state := target
      pending := operations.pending
      notified := operations.notified ++ fresh system operations.state target }

/-- A step of the state with its operations. -/
def step (system : System σ α ε ω) (operations : Operations σ ω) :
    Act α ω → Except ε (Operations σ ω)
  | .act action => (system.step operations.state action).map (operations.after system action)
  | .cancel operation =>
    .ok { operations with pending := operations.pending.filter (· ≠ operation) }

/-- No poll overwrites the waker of another operation that waits. -/
def Respects (system : System σ α ε ω) (operations : Operations σ ω) : Act α ω → Prop
  | .act action => ∀ operation, system.polls action = some operation →
      system.available operations.state = false →
        ∀ other ∈ operations.pending, system.slot operations.state = some other → other = operation
  | .cancel _ => True

/-- A waiting operation has been woken, or is in the slot and there is nothing to take. -/
def Attended (system : System σ α ε ω) (operations : Operations σ ω) : Prop :=
  ∀ operation ∈ operations.pending, operation ∈ operations.notified ∨
    system.slot operations.state = some operation ∧ system.available operations.state = false

variable {system : System σ α ε ω} {operations : Operations σ ω}

omit [DecidableEq ω] in
/-- What is available has woken somebody, if anybody waits. -/
theorem Attended.notified (attended : operations.Attended system)
    (available : system.available operations.state = true) (waiting : operations.pending ≠ []) :
    ∃ operation ∈ operations.pending, operation ∈ operations.notified := by
  obtain ⟨operation, member⟩ := List.exists_mem_of_ne_nil _ waiting
  obtain notified | ⟨-, nothing⟩ := attended operation member
  · exact ⟨operation, member, notified⟩
  · rw [available] at nothing
    cases nothing

/-- A poll keeps the waiting operations attended. -/
theorem Attended.poll (lawful : Lawful system) (attended : operations.Attended system) {action : α}
    {target : σ} {operation : ω} (advanced : system.step operations.state action = .ok target)
    (polls : system.polls action = some operation)
    (respects : operations.Respects system (.act action)) :
    (operations.after system action target).Attended system := by
  intro other member
  simp only [after, polls, lawful.returns advanced polls] at member ⊢
  cases available : system.available operations.state with
  | true =>
    simp only [available, if_true, List.mem_filter, decide_eq_true_eq] at member
    obtain notified | ⟨-, nothing⟩ := attended other member.1
    · exact .inl (List.mem_filter.mpr ⟨notified, by simpa using member.2⟩)
    · rw [available] at nothing
      cases nothing
  | false =>
    obtain ⟨slot, nothing⟩ := lawful.registers advanced polls available
    simp only [available, Bool.false_eq_true, if_false, List.mem_cons, List.mem_filter,
      decide_eq_true_eq] at member
    obtain rfl | ⟨waiting, different⟩ := member
    · exact .inr ⟨slot, nothing⟩
    · obtain notified | ⟨held, -⟩ := attended other waiting
      · exact .inl (List.mem_filter.mpr ⟨notified, by simpa using different⟩)
      · exact absurd (respects operation polls available other waiting held) different

/-- Any other step keeps them attended. -/
theorem Attended.other (lawful : Lawful system) (attended : operations.Attended system) {action : α}
    {target : σ} (advanced : system.step operations.state action = .ok target)
    (none : system.polls action = none) :
    (operations.after system action target).Attended system := by
  intro operation member
  simp only [after, none] at member ⊢
  obtain notified | ⟨held, nothing⟩ := attended operation member
  · exact .inl (List.mem_append_left _ notified)
  obtain ⟨slot, brings⟩ | woken := lawful.other advanced none
  · exact .inr ⟨slot.trans held, brings nothing⟩
  · left
    apply List.mem_append_right
    rw [fresh, woken, List.drop_left, held]
    exact List.mem_singleton_self _

/-- One step keeps the waiting operations attended. -/
theorem Attended.step (lawful : Lawful system) (attended : operations.Attended system)
    {act : Act α ω} {operations' : Operations σ ω} (respects : operations.Respects system act)
    (advanced : operations.step system act = .ok operations') : operations'.Attended system := by
  cases act with
  | act action =>
    cases stepped : system.step operations.state action with
    | error failure =>
      simp only [Operations.step, stepped, Except.map] at advanced
      cases advanced
    | ok target =>
      simp only [Operations.step, stepped, Except.map, Except.ok.injEq] at advanced
      subst advanced
      cases polls : system.polls action with
      | none => exact attended.other lawful stepped polls
      | some operation => exact attended.poll lawful stepped polls respects
  | cancel operation =>
    cases advanced
    intro other member
    exact attended other (List.mem_filter.mp member).1

/-- In every run that begins without waiting operations and in which no poll overwrites
the waker of another one, the waiting operations are attended. -/
theorem attended_run (lawful : Lawful system) {start : σ}
    {past : List (Transition (Operations σ ω) (Act α ω))}
    (run : Run (step system) ⟨start, [], []⟩ past operations)
    (respects : Meets (Respects system) past) : operations.Attended system := by
  refine state_invariant (Attended system) ?_ ?_ run respects
  · intro operation member
    cases member
  · intro source act target here attended advanced
    exact attended.step lawful here advanced

end Operations

end WakerSlot
