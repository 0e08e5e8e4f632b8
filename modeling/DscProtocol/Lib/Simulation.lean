import DscProtocol.Lib.Runs
import Mathlib.Data.List.Infix

set_option autoImplicit false

/- Runs of a committing machine seen from outside: the labels its committed actions leave, and
when these labels, played on another machine, lead to the view of the state reached. -/
namespace Runs

variable {σ α ε μ ρ : Type} {exec : σ → α → Except ε σ} {labels : σ → α → List μ}

/-- A rolled-back action leaves no label. -/
def emitted (exec : σ → α → Except ε σ) (labels : σ → α → List μ) (state : σ) (action : α) :
    List μ :=
  match exec state action with
  | .ok _ => labels state action
  | .error _ => []

theorem emitted_of_ok {state after : σ} {action : α} (returned : exec state action = .ok after) :
    emitted exec labels state action = labels state action := by
  unfold emitted
  rw [returned]

theorem emitted_of_error {state : σ} {action : α} {reason : ε}
    (failed : exec state action = .error reason) : emitted exec labels state action = [] := by
  unfold emitted
  rw [failed]

/-- The labels of a run, in order. -/
def trace (exec : σ → α → Except ε σ) (labels : σ → α → List μ) : σ → List α → List μ
  | _, [] => []
  | state, action :: rest =>
      emitted exec labels state action ++ trace exec labels (commit exec state action) rest

variable {step : σ → α → σ} {permitted : σ → α → Prop}

theorem along_of_forall (all : ∀ state action, permitted state action) (state : σ)
    (actions : List α) : Along step permitted state actions := by
  induction actions generalizing state with
  | nil => trivial
  | cons action rest ih => exact ⟨all state action, ih (step state action)⟩

theorem Along.and {other : σ → α → Prop} {state : σ} {actions : List α}
    (first : Along step permitted state actions) (second : Along step other state actions) :
    Along step (fun state action => permitted state action ∧ other state action) state actions := by
  induction actions generalizing state with
  | nil => trivial
  | cons action rest ih => exact ⟨⟨first.1, second.1⟩, ih first.2 second.2⟩

theorem Along.located_after {start : σ} {before actions : List α}
    (along : Along step permitted (run step start before) actions) :
    Along step (fun state action => permitted state action ∧
        ∃ sofar, sofar ++ [action] <+: before ++ actions ∧ state = run step start sofar)
      (run step start before) actions := by
  induction actions generalizing before with
  | nil => trivial
  | cons action rest ih =>
      have whole : before ++ action :: rest = before ++ [action] ++ rest := by simp
      have here : run step start (before ++ [action]) = step (run step start before) action :=
        run_append start before [action]
      have later := @ih (before ++ [action]) (by rw [here]; exact along.2)
      rw [here, ← whole] at later
      refine ⟨⟨along.1, before, ?_, rfl⟩, later⟩
      rw [whole]
      exact List.prefix_append _ _

/-- Every action of a run is taken in the state to which the actions before it lead. -/
theorem Along.located {start : σ} {actions : List α} (along : Along step permitted start actions) :
    Along step (fun state action => permitted state action ∧
        ∃ sofar, sofar ++ [action] <+: actions ∧ state = run step start sofar) start actions :=
  @Along.located_after _ _ step permitted start [] actions along

variable {view : σ → ρ} {next : ρ → μ → ρ} {allowed : ρ → μ → Prop} {holds : σ → Prop}

/-- One action, committed or not, is matched by its labels. -/
theorem emitted_matches {state : σ} {action : α}
    (matched : ∀ after, exec state action = .ok after →
      Along next allowed (view state) (labels state action) ∧
        run next (view state) (labels state action) = view after) :
    Along next allowed (view state) (emitted exec labels state action) ∧
      run next (view state) (emitted exec labels state action) =
        view (commit exec state action) := by
  cases returned : exec state action with
  | ok after =>
      rw [emitted_of_ok returned, commit_eq_of_ok returned]
      exact matched after returned
  | error reason =>
      rw [emitted_of_error returned, commit_eq_of_error returned]
      exact ⟨trivial, rfl⟩

/-- The forward simulation: if every committed action is matched by its labels, then every run is
matched by its trace. -/
theorem simulates
    (keeps : ∀ state action, holds state → permitted state action →
      holds (commit exec state action))
    (matched : ∀ state action after, holds state → permitted state action →
      exec state action = .ok after →
      Along next allowed (view state) (labels state action) ∧
        run next (view state) (labels state action) = view after)
    {state : σ} {actions : List α} (start : holds state)
    (along : Along (commit exec) permitted state actions) :
    Along next allowed (view state) (trace exec labels state actions) ∧
      run next (view state) (trace exec labels state actions) =
        view (run (commit exec) state actions) := by
  induction actions generalizing state with
  | nil => exact ⟨trivial, rfl⟩
  | cons action rest ih =>
      obtain ⟨first, reached⟩ :=
        emitted_matches (fun after => matched state action after start along.1)
      obtain ⟨later, final⟩ := ih (keeps state action start along.1) along.2
      simp only [trace, along_append, run_append, reached]
      exact ⟨⟨first, later⟩, final⟩

/-- If every committed action adds its labels to a record, every run adds its trace. -/
theorem accumulates {records : σ → List μ → Prop}
    (adds : ∀ state action sofar after, records state sofar → permitted state action →
      exec state action = .ok after → records after (sofar ++ labels state action))
    {state : σ} {actions : List α} {sofar : List μ} (start : records state sofar)
    (along : Along (commit exec) permitted state actions) :
    records (run (commit exec) state actions) (sofar ++ trace exec labels state actions) := by
  induction actions generalizing state sofar with
  | nil =>
      simp only [run, trace, List.append_nil]
      exact start
  | cons action rest ih =>
      simp only [run, trace]
      rw [← List.append_assoc]
      apply ih _ along.2
      cases returned : exec state action with
      | ok after =>
          rw [emitted_of_ok returned, commit_eq_of_ok returned]
          exact adds state action sofar after start along.1 returned
      | error reason =>
          rw [emitted_of_error returned, commit_eq_of_error returned, List.append_nil]
          exact start

/-- A machine that takes each step as another one does, or not at all, goes nowhere that the other
does not go with fewer actions. -/
theorem skipping {reference : σ → α → σ}
    (skips : ∀ state action, permitted state action →
      step state action = reference state action ∨ step state action = state)
    {state : σ} {actions : List α} (along : Along step permitted state actions) :
    ∃ kept, List.Sublist kept actions ∧ Along reference permitted state kept ∧
      run reference state kept = run step state actions := by
  induction actions generalizing state with
  | nil => exact ⟨[], List.Sublist.slnil, trivial, rfl⟩
  | cons action rest ih =>
      obtain ⟨kept, within, allowed, reached⟩ := ih along.2
      rcases skips state action along.1 with same | skipped
      · rw [same] at allowed reached
        refine ⟨action :: kept, within.cons_cons action, ⟨along.1, allowed⟩, ?_⟩
        simp only [run]
        rw [reached, same]
      · rw [skipped] at allowed reached
        refine ⟨kept, within.cons action, allowed, ?_⟩
        simp only [run]
        rw [reached, skipped]

/-- Actions that do nothing where the invariant holds may as well be left out. -/
theorem run_filter {keep : α → Bool}
    (keeps : ∀ state action, holds state → permitted state action → holds (step state action))
    (idle : ∀ state action, holds state → permitted state action → keep action = false →
      step state action = state)
    {state : σ} {actions : List α} (start : holds state)
    (along : Along step permitted state actions) :
    run step state (actions.filter keep) = run step state actions := by
  induction actions generalizing state with
  | nil => rfl
  | cons action rest ih =>
      have later := ih (keeps state action start along.1) along.2
      cases kept : keep action with
      | true =>
          rw [List.filter_cons_of_pos kept]
          exact later
      | false =>
          rw [List.filter_cons_of_neg (by simp [kept])]
          simp only [run]
          rw [idle state action start along.1 kept] at later ⊢
          exact later

/-- An invariant with a budget of which every action uses up one unit. -/
theorem countdown {within : Nat → σ → Prop}
    (spends : ∀ left state action, within (left + 1) state → permitted state action →
      within left (step state action))
    {left : Nat} {state : σ} {actions : List α} (start : within (left + actions.length) state)
    (along : Along step permitted state actions) : within left (run step state actions) := by
  induction actions generalizing state with
  | nil => exact start
  | cons action rest ih => exact ih (spends (left + rest.length) state action start along.1) along.2

end Runs
