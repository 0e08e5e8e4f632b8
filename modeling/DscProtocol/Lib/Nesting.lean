import DscProtocol.Lib.Checked
import DscProtocol.Lib.Runs

set_option autoImplicit false

/- Calls that make calls of their own. A nested call that fails is rolled back together with
everything it called and caught by its caller, so a sequence of nested calls always returns. -/
namespace Nesting

variable {σ α ε : Type}

/-- An action with the calls it makes before and after it takes effect. -/
inductive Call (α : Type) where
  | call (action : α) (before after : List (Call α))

def Call.action : Call α → α
  | .call action _ _ => action

mutual

def Call.exec (exec : σ → α → Except ε σ) : Call α → σ → Except ε σ
  | .call action before after, state => do
      let next ← exec (run exec before state) action
      .ok (run exec after next)
termination_by structural call => call

def run (exec : σ → α → Except ε σ) : List (Call α) → σ → σ
  | [], state => state
  | call :: rest, state =>
      run exec rest (match call.exec exec state with
        | .ok next => next
        | .error _ => state)
termination_by structural calls => calls

end

mutual

/-- Every action in the tree of calls is permitted. -/
def Call.Every (permitted : α → Prop) : Call α → Prop
  | .call action before after =>
      permitted action ∧ Every permitted before ∧ Every permitted after
termination_by structural call => call

def Every (permitted : α → Prop) : List (Call α) → Prop
  | [] => True
  | call :: rest => call.Every permitted ∧ Every permitted rest
termination_by structural calls => calls

end

mutual

def Call.kept (keep : α → Bool) : Call α → Call α
  | .call action before after => .call action (kept keep before) (kept keep after)
termination_by structural call => call

/-- The same calls without those whose action is not to be kept. -/
def kept (keep : α → Bool) : List (Call α) → List (Call α)
  | [] => []
  | call :: rest => if keep call.action then call.kept keep :: kept keep rest else kept keep rest
termination_by structural calls => calls

end

variable {exec : σ → α → Except ε σ} {permitted : α → Prop} {holds : σ → Prop}
  {call : Call α} {calls : List (Call α)} {state next : σ}

theorem run_cons (call : Call α) (rest : List (Call α)) (state : σ) :
    run exec (call :: rest) state =
      run exec rest (Runs.commit (fun state call => Call.exec exec call state) state call) := rfl

theorem exec_eq_ok {action : α} {before after : List (Call α)} :
    (Call.call action before after).exec exec state = .ok next ↔
      ∃ middle, exec (run exec before state) action = .ok middle ∧
        run exec after middle = next := by
  unfold Call.exec
  simp only [Checked.bind_eq_ok, Except.ok.injEq]

section Rules

variable (keeps : ∀ state action next, holds state → permitted action →
  exec state action = .ok next → holds next)

include keeps

/-- What every permitted action keeps, nested calls keep. The induction is on the calls and the
calls inside them. -/
theorem run_keeps (all : Every permitted calls) (start : holds state) :
    holds (run exec calls state) := by
  have both := run.induct exec
    (fun call state => call.Every permitted → holds state →
      ∀ next, call.exec exec state = .ok next → holds next)
    (fun calls state => Every permitted calls → holds state → holds (run exec calls state))
  apply both _ _ _ calls state all start
  · intro action before after state first second all start next returned
    obtain ⟨middle, took, rfl⟩ := exec_eq_ok.mp returned
    obtain ⟨allowed, allBefore, allAfter⟩ := all
    have reached := keeps _ action middle (first allBefore start) allowed took
    exact second middle allAfter reached
  · intro state _ start
    exact start
  · intro call rest state first second all start
    apply second all.2
    exact @Runs.commit_preserves σ _ ε (fun state call => Call.exec exec call state) holds state
      call start (first all.1 start)

/-- Calls that never succeed can as well be left out. -/
theorem run_kept {keep : α → Bool}
    (succeeds : ∀ state action next, holds state → permitted action →
      exec state action = .ok next → keep action = true)
    (all : Every permitted calls) (start : holds state) :
    run exec (kept keep calls) state = run exec calls state := by
  have both := run.induct exec
    (fun call state => call.Every permitted → holds state →
      (call.kept keep).exec exec state = call.exec exec state)
    (fun calls state => Every permitted calls → holds state →
      run exec (kept keep calls) state = run exec calls state)
  apply both _ _ _ calls state all start
  · intro action before after state first second all start
    obtain ⟨allowed, allBefore, allAfter⟩ := all
    unfold Call.kept Call.exec
    rw [first allBefore start]
    cases took : exec (run exec before state) action with
    | error reason => rfl
    | ok middle =>
        have reached := keeps _ action middle (run_keeps keeps allBefore start) allowed took
        rw [Checked.ok_bind, Checked.ok_bind, second middle allAfter reached]
  · intro state _ _
    rfl
  · intro call rest state first second all start
    have same := first all.1 start
    have reached : holds (run exec [call] state) := run_keeps keeps ⟨all.1, trivial⟩ start
    have later := second all.2 reached
    unfold kept
    by_cases allowed : keep call.action = true
    · rw [if_pos allowed, run_cons, run_cons, Runs.commit, Runs.commit, same]
      exact later
    · -- the call left out is one that is rolled back
      have failed : ∀ next, call.exec exec state ≠ .ok next := by
        intro next returned
        cases call with
        | call action before after =>
            obtain ⟨middle, took, _⟩ := exec_eq_ok.mp returned
            obtain ⟨permitted, allBefore, _⟩ := all.1
            exact allowed (succeeds _ action middle (run_keeps keeps allBefore start)
              permitted took)
      obtain ⟨reason, caught⟩ := Checked.fails_iff.mpr failed
      have stays : Runs.commit (fun state call => Call.exec exec call state) state call = state :=
        Runs.commit_eq_of_error caught
      rw [if_neg allowed, run_cons, stays]
      rw [caught] at later
      exact later

end Rules

end Nesting
