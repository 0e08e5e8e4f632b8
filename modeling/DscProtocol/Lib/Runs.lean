import DscProtocol.Lib.Checked
import Mathlib.Algebra.GroupWithZero.Nat

set_option autoImplicit false

/- Runs of a deterministic machine whose actions either commit or are rolled back, the
permitted runs among them, and amounts collected along a run. -/
namespace Runs

variable {σ α ε : Type}

/-- A rolled-back action leaves the state as it was. -/
def commit (exec : σ → α → Except ε σ) (state : σ) (action : α) : σ :=
  match exec state action with
  | .ok next => next
  | .error _ => state

def run (step : σ → α → σ) : σ → List α → σ
  | state, [] => state
  | state, action :: rest => run step (step state action) rest

/-- Every action is permitted in the state in which it is taken. -/
def Along (step : σ → α → σ) (permitted : σ → α → Prop) : σ → List α → Prop
  | _, [] => True
  | state, action :: rest => permitted state action ∧ Along step permitted (step state action) rest

/-- What an action costs if it commits. -/
def charge (exec : σ → α → Except ε σ) (cost : σ → α → Nat) (state : σ) (action : α) : Nat :=
  match exec state action with
  | .ok _ => cost state action
  | .error _ => 0

instance Along.decidable (step : σ → α → σ) (permitted : σ → α → Prop)
    [∀ state action, Decidable (permitted state action)] :
    (state : σ) → (actions : List α) → Decidable (Along step permitted state actions)
  | _, [] => isTrue trivial
  | state, action :: rest =>
      have := Along.decidable step permitted (step state action) rest
      inferInstanceAs (Decidable (_ ∧ _))

/-- What the actions of a run cost together, each priced in the state in which it is taken. -/
def total (step : σ → α → σ) (cost : σ → α → Nat) : σ → List α → Nat
  | _, [] => 0
  | state, action :: rest => cost state action + total step cost (step state action) rest

variable {step : σ → α → σ} {permitted : σ → α → Prop}

theorem run_append (state : σ) (first second : List α) :
    run step state (first ++ second) = run step (run step state first) second := by
  induction first generalizing state with
  | nil => rfl
  | cons action rest ih => exact ih (step state action)

theorem along_append (state : σ) (first second : List α) :
    Along step permitted state (first ++ second) ↔
      Along step permitted state first ∧ Along step permitted (run step state first) second := by
  induction first generalizing state with
  | nil => simp only [List.nil_append, Along, run, true_and]
  | cons action rest ih => simp only [List.cons_append, Along, run, ih, and_assoc]

theorem Along.mono {stronger : σ → α → Prop} {state : σ} {actions : List α}
    (along : Along step stronger state actions)
    (weaker : ∀ state action, stronger state action → permitted state action) :
    Along step permitted state actions := by
  induction actions generalizing state with
  | nil => trivial
  | cons action rest ih => exact ⟨weaker state action along.1, ih along.2⟩

/-- A run that is permitted is permitted as far as one follows it. -/
theorem Along.initial {state : σ} {sofar actions : List α}
    (along : Along step permitted state actions) (inside : sofar <+: actions) :
    Along step permitted state sofar := by
  obtain ⟨later, rfl⟩ := inside
  exact ((along_append state sofar later).mp along).1

/-- What one committed action preserves, one step preserves. -/
theorem commit_preserves {exec : σ → α → Except ε σ} {holds : σ → Prop} {state : σ} {action : α}
    (before : holds state)
    (committed : ∀ next, exec state action = .ok next → holds next) :
    holds (commit exec state action) := by
  unfold commit
  split
  · rename_i next returned
    exact committed next returned
  · exact before

/-- Two measures that drift apart by the cost of every action that returns drift apart by what is
charged for each action, committed or not. -/
theorem commit_drift {exec : σ → α → Except ε σ} {state : σ} {action : α} (high low : σ → Nat)
    (cost : σ → α → Nat)
    (drifts : ∀ next, exec state action = .ok next →
      high next + low state = high state + low next + cost state action) :
    high (commit exec state action) + low state =
      high state + low (commit exec state action) + charge exec cost state action := by
  unfold commit charge
  split
  · rename_i next returned
    exact drifts next returned
  · rfl

theorem commit_eq_of_ok {exec : σ → α → Except ε σ} {state next : σ} {action : α}
    (returned : exec state action = .ok next) : commit exec state action = next := by
  unfold commit
  rw [returned]

theorem commit_eq_of_error {exec : σ → α → Except ε σ} {state : σ} {action : α} {reason : ε}
    (failed : exec state action = .error reason) : commit exec state action = state := by
  unfold commit
  rw [failed]

/-- What an action that is known to return commits. -/
theorem commit_of_returns {exec : σ → α → Except ε σ} {state : σ} {action : α}
    (returns : (exec state action).toBool = true) :
    exec state action = .ok (commit exec state action) := by
  unfold commit
  split
  · rename_i next returned
    exact returned
  · rename_i reason reverted
    rw [reverted] at returns
    cases returns

/-- The induction over runs: a property of the first state that every permitted step keeps. -/
theorem invariant {holds : σ → Prop}
    (keeps : ∀ state action, holds state → permitted state action → holds (step state action))
    {state : σ} {actions : List α} (start : holds state)
    (along : Along step permitted state actions) : holds (run step state actions) := by
  induction actions generalizing state with
  | nil => exact start
  | cons action rest ih => exact ih (keeps state action start along.1) along.2

/-- Two ways to permit a step that agree wherever the invariant holds permit the same runs. -/
theorem along_congr {holds : σ → Prop} {first second : σ → α → Prop}
    (keeps : ∀ state action, holds state → permitted state action → holds (step state action))
    (agree : ∀ state action, holds state → permitted state action →
      (first state action ↔ second state action))
    {state : σ} {actions : List α} (start : holds state)
    (along : Along step permitted state actions) :
    Along step first state actions ↔ Along step second state actions := by
  induction actions generalizing state with
  | nil => exact Iff.rfl
  | cons action rest ih =>
      exact and_congr (agree state action start along.1)
        (ih (keeps state action start along.1) along.2)

/-- A measure is the same in every state of a run exactly when no step changes it. -/
theorem constant_iff {β : Type} (measure : σ → β) {state : σ} {actions : List α} :
    (∀ sofar, sofar <+: actions → measure (run step state sofar) = measure state) ↔
      Along step (fun state action => measure (step state action) = measure state)
        state actions := by
  induction actions generalizing state with
  | nil =>
      constructor
      · intro _
        trivial
      · intro _ sofar inside
        rw [List.prefix_nil.mp inside]
        rfl
  | cons action rest ih =>
      constructor
      · intro constant
        have first : measure (step state action) = measure state :=
          constant [action] (List.prefix_append [action] rest)
        refine ⟨first, ih.mp ?_⟩
        intro sofar inside
        rw [first]
        exact constant (action :: sofar) (List.cons_prefix_cons.mpr ⟨rfl, inside⟩)
      · intro along sofar inside
        cases sofar with
        | nil => rfl
        | cons first later =>
            obtain ⟨same, tail⟩ := List.cons_prefix_cons.mp inside
            subst same
            have rest := ih.mpr along.2 later tail
            exact rest.trans along.1

theorem total_append (cost : σ → α → Nat) (state : σ) (first second : List α) :
    total step cost state (first ++ second) =
      total step cost state first + total step cost (run step state first) second := by
  induction first generalizing state with
  | nil => simp only [List.nil_append, total, run, Nat.zero_add]
  | cons action rest ih => simp only [List.cons_append, total, run, ih, Nat.add_assoc]

/-- A run costs nothing exactly when no step does. -/
theorem total_eq_zero_iff (cost : σ → α → Nat) {state : σ} {actions : List α} :
    total step cost state actions = 0 ↔
      Along step (fun state action => cost state action = 0) state actions := by
  induction actions generalizing state with
  | nil => simp only [total, Along]
  | cons action rest ih => simp only [total, Along, Nat.add_eq_zero_iff, ih]

/-- Two measures that drift apart by the cost of each step have drifted apart by its total. -/
theorem drift {holds : σ → Prop} (high low : σ → Nat) (cost : σ → α → Nat)
    (keeps : ∀ state action, holds state → permitted state action → holds (step state action))
    (drifts : ∀ state action, holds state → permitted state action →
      high (step state action) + low state = high state + low (step state action) +
        cost state action)
    {state : σ} {actions : List α} (start : holds state)
    (along : Along step permitted state actions) :
    high (run step state actions) + low state =
      high state + low (run step state actions) + total step cost state actions := by
  induction actions generalizing state with
  | nil => simp only [run, total, Nat.add_zero]
  | cons action rest ih =>
      have later := ih (keeps state action start along.1) along.2
      have first := drifts state action start along.1
      simp only [run, total]
      omega

theorem commit_gain {exec : σ → α → Except ε σ} {state : σ} {action : α}
    (asset liability : σ → Nat) (cost : σ → α → Nat)
    (gains : ∀ next, exec state action = .ok next →
      asset next + liability state ≤ asset state + liability next + cost state action) :
    asset (commit exec state action) + liability state ≤
      asset state + liability (commit exec state action) + charge exec cost state action := by
  unfold commit charge
  split
  · rename_i next returned
    exact gains next returned
  · exact Nat.le_refl _

/-- If no step gains more than its cost, no run gains more than its total cost. -/
theorem gain_le {holds : σ → Prop} (asset liability : σ → Nat) (cost : σ → α → Nat)
    (keeps : ∀ state action, holds state → permitted state action → holds (step state action))
    (gains : ∀ state action, holds state → permitted state action →
      asset (step state action) + liability state ≤
        asset state + liability (step state action) + cost state action)
    {state : σ} {actions : List α} (start : holds state)
    (along : Along step permitted state actions) :
    asset (run step state actions) + liability state ≤
      asset state + liability (run step state actions) + total step cost state actions := by
  induction actions generalizing state with
  | nil => exact Nat.le_refl _
  | cons action rest ih =>
      have later := ih (keeps state action start along.1) along.2
      have first := gains state action start along.1
      simp only [run, total]
      omega

/-- What one action, committed or not, brings and takes. -/
theorem commit_balance {exec : σ → α → Except ε σ} {state : σ} {action : α} (measure : σ → Nat)
    (gain loss : σ → α → Nat)
    (moves : ∀ next, exec state action = .ok next →
      measure next + loss state action = measure state + gain state action) :
    measure (commit exec state action) + charge exec loss state action =
      measure state + charge exec gain state action := by
  unfold commit charge
  split
  · rename_i next returned
    exact moves next returned
  · rfl

/-- A measure that every step moves by what it brings less what it takes has moved, after a run,
by all that came less all that went. -/
theorem balance {holds : σ → Prop} (measure : σ → Nat) (gain loss : σ → α → Nat)
    (keeps : ∀ state action, holds state → permitted state action → holds (step state action))
    (moves : ∀ state action, holds state → permitted state action →
      measure (step state action) + loss state action = measure state + gain state action)
    {state : σ} {actions : List α} (start : holds state)
    (along : Along step permitted state actions) :
    measure (run step state actions) + total step loss state actions =
      measure state + total step gain state actions := by
  induction actions generalizing state with
  | nil => rfl
  | cons action rest ih =>
      have later := ih (keeps state action start along.1) along.2
      have first := moves state action start along.1
      simp only [run, total]
      omega

section Parts

/-- Where the invariant holds, an amount at once does what any two parts of it do in turn. -/
def Splits (holds : σ → Prop) (op : Nat → σ → Except ε σ) : Prop :=
  ∀ state first second final, holds state → 0 < first → 0 < second →
    (op (first + second) state = .ok final ↔
      ∃ middle, op first state = .ok middle ∧ op second middle = .ok final)

/-- Then any number of parts does, in any order. -/
theorem parts_iff_whole {holds : σ → Prop} {op : Nat → σ → Except ε σ} {parts : List Nat}
    {state final : σ}
    (keeps : ∀ state amount next, holds state → op amount state = .ok next → holds next)
    (splits : Splits holds op) (start : holds state) (positive : ∀ part ∈ parts, 0 < part)
    (some : parts ≠ []) :
    parts.foldlM (fun state part => op part state) state = .ok final ↔
      op parts.sum state = .ok final := by
  induction parts generalizing state with
  | nil => exact absurd rfl some
  | cons part rest ih =>
      have first : 0 < part := positive part List.mem_cons_self
      rw [List.foldlM_cons, Checked.bind_eq_ok]
      by_cases last : rest = []
      · subst last
        simp only [List.foldlM_nil, List.sum_singleton]
        constructor
        · intro played
          obtain ⟨next, returned, same⟩ := played
          cases same
          exact returned
        · intro returned
          exact ⟨final, returned, rfl⟩
      · have others : ∀ other ∈ rest, 0 < other := fun other inside =>
          positive other (List.mem_cons_of_mem part inside)
        have more : 0 < rest.sum := by
          obtain ⟨other, inside⟩ := List.exists_mem_of_ne_nil rest last
          exact List.sum_pos_iff_exists_pos_nat.mpr ⟨other, inside, others other inside⟩
        rw [List.sum_cons, splits state part rest.sum final start first more]
        constructor
        · intro played
          obtain ⟨next, returned, later⟩ := played
          exact ⟨next, returned, (ih (keeps state part next start returned) others last).mp later⟩
        · intro whole
          obtain ⟨next, returned, later⟩ := whole
          exact ⟨next, returned, (ih (keeps state part next start returned) others last).mpr later⟩

end Parts

section Schedules

variable {π κ : Type} [DecidableEq π]

/-- The calls a schedule gives to one party, in order. -/
def callsOf (schedule : List (π × κ)) (party : π) : List κ :=
  (schedule.filter fun entry => entry.1 = party).map Prod.snd

/-- Every call of the schedule in turn; the first failure is the end. -/
def play (exec : π → κ → σ → Except ε σ) (state : σ) (schedule : List (π × κ)) : Except ε σ :=
  schedule.foldlM (fun state entry => exec entry.1 entry.2 state) state

theorem callsOf_cons_self (party : π) (call : κ) (rest : List (π × κ)) :
    callsOf ((party, call) :: rest) party = call :: callsOf rest party := by
  simp only [callsOf, List.filter_cons, decide_true, ↓reduceIte, List.map_cons]

theorem callsOf_cons_of_ne {party other : π} (apart : other ≠ party) (call : κ)
    (rest : List (π × κ)) : callsOf ((party, call) :: rest) other = callsOf rest other := by
  simp only [callsOf, List.filter_cons, apart.symm, decide_false, Bool.false_eq_true, ↓reduceIte]

/-- Parties that never disable each other finish in any interleaving: if the first call of any
party's remaining plan always succeeds, leaves the rest of that plan and keeps everyone else's,
then every schedule made of their plans runs to its end. -/
theorem play_completes {exec : π → κ → σ → Except ε σ} {good : σ → Prop} {member : π → Prop}
    {plan : σ → π → List κ → Prop}
    (moves : ∀ state party call rest, good state → member party →
      plan state party (call :: rest) → ∃ next, exec party call state = .ok next ∧ good next ∧
        plan next party rest ∧
          ∀ other, other ≠ party → ∀ calls, plan state other calls → plan next other calls)
    {state : σ} {schedule : List (π × κ)} (start : good state)
    (members : ∀ entry ∈ schedule, member entry.1)
    (plans : ∀ party, member party → plan state party (callsOf schedule party)) :
    ∃ final, play exec state schedule = .ok final ∧ good final ∧
      ∀ party, member party → plan final party [] := by
  induction schedule generalizing state with
  | nil => exact ⟨state, rfl, start, plans⟩
  | cons entry rest ih =>
      obtain ⟨party, call⟩ := entry
      have here : member party := members (party, call) List.mem_cons_self
      have first := plans party here
      rw [callsOf_cons_self] at first
      obtain ⟨next, returned, kept, remaining, others⟩ :=
        moves state party call _ start here first
      have later : ∀ other, member other → plan next other (callsOf rest other) := by
        intro other member
        by_cases same : other = party
        · subst same
          exact remaining
        · have planned := plans other member
          rw [callsOf_cons_of_ne same] at planned
          exact others other same _ planned
      obtain ⟨final, played, finished, done⟩ :=
        ih kept (fun entry inside => members entry (List.mem_cons_of_mem _ inside)) later
      refine ⟨final, ?_, finished, done⟩
      change exec party call state >>= (fun next => play exec next rest) = .ok final
      rw [returned]
      exact played

end Schedules

end Runs
