import DscProtocol.Lib.Runs

set_option autoImplicit false

/- Actions of different parties on one state. A view is what one party's actions read and write;
an action that is local to its own view and outside another's commutes with that party's. -/
namespace Locality

variable {σ α ε : Type}

/-- Among good states the action does the same wherever the view is the same. -/
def Local (exec : σ → α → Except ε σ) (good : σ → Prop) (view : σ → σ → Prop) (action : α) :
    Prop :=
  ∀ state other next, good state → good other → view state other →
    exec state action = .ok next → ∃ after, exec other action = .ok after ∧ view next after

/-- The action leaves the view as it was. -/
def Outside (exec : σ → α → Except ε σ) (good : σ → Prop) (view : σ → σ → Prop) (action : α) :
    Prop :=
  ∀ state next, good state → exec state action = .ok next → view state next

variable {exec : σ → α → Except ε σ} {good goodOther : σ → Prop} {view : σ → σ → Prop}
  {action foreign : α} {state other : σ}

theorem Outside.commit (same : Equivalence view) (outside : Outside exec good view action)
    (start : good state) : view state (Runs.commit exec state action) :=
  Runs.commit_preserves (same.refl state) (fun next returned => outside state next start returned)

/-- Actions outside a view leave it as it was over a whole run. -/
theorem run_outside {permitted : σ → α → Prop} (refl : ∀ state, view state state)
    (trans : ∀ {first second third}, view first second → view second third → view first third)
    (steps : ∀ state action, good state → permitted state action →
      good (Runs.commit exec state action) ∧ view state (Runs.commit exec state action))
    {actions : List α} (start : good state)
    (along : Runs.Along (Runs.commit exec) permitted state actions) :
    view state (Runs.run (Runs.commit exec) state actions) := by
  have kept : ∀ next action, good next ∧ view state next → permitted next action →
      good (Runs.commit exec next action) ∧ view state (Runs.commit exec next action) := by
    intro next action before allowed
    obtain ⟨later, step⟩ := steps next action before.1 allowed
    exact ⟨later, trans before.2 step⟩
  exact (Runs.invariant kept ⟨start, refl state⟩ along).2

theorem Local.returns_iff (same : Equivalence view) (confined : Local exec good view action)
    (start : good state) (elsewhere : good other) (agree : view state other) :
    (∃ next, exec state action = .ok next) ↔ ∃ next, exec other action = .ok next := by
  constructor
  · intro returned
    obtain ⟨next, returned⟩ := returned
    obtain ⟨after, returned, _⟩ := confined state other next start elsewhere agree returned
    exact ⟨after, returned⟩
  · intro returned
    obtain ⟨next, returned⟩ := returned
    obtain ⟨after, returned, _⟩ :=
      confined other state next elsewhere start (same.symm agree) returned
    exact ⟨after, returned⟩

/-- Committed or rolled back, a local action keeps equal views equal. -/
theorem Local.commit (same : Equivalence view) (confined : Local exec good view action)
    (start : good state) (elsewhere : good other) (agree : view state other) :
    view (Runs.commit exec state action) (Runs.commit exec other action) := by
  have returns := confined.returns_iff same start elsewhere agree
  unfold Runs.commit
  split
  · rename_i next returned
    obtain ⟨after, later, agree⟩ := confined state other next start elsewhere agree returned
    rw [later]
    exact agree
  · rename_i reason failed
    split
    · rename_i next returned
      obtain ⟨after, impossible⟩ := returns.mpr ⟨next, returned⟩
      rw [failed] at impossible
      cases impossible
    · exact agree

/-- A foreign action neither enables nor disables a local one, -/
theorem returns_after_iff (same : Equivalence view) (confined : Local exec good view action)
    (outside : Outside exec goodOther view foreign) (start : good state)
    (elsewhere : goodOther state) (later : good (Runs.commit exec state foreign)) :
    (∃ next, exec state action = .ok next) ↔
      ∃ next, exec (Runs.commit exec state foreign) action = .ok next :=
  confined.returns_iff same start later (outside.commit same elsewhere)

/-- and in both orders the view ends the same. -/
theorem views_agree (same : Equivalence view) (confined : Local exec good view action)
    (outside : Outside exec goodOther view foreign) (start : good state)
    (elsewhere : goodOther state) (later : good (Runs.commit exec state foreign))
    (laterElsewhere : goodOther (Runs.commit exec state action)) :
    view (Runs.commit exec (Runs.commit exec state action) foreign)
      (Runs.commit exec (Runs.commit exec state foreign) action) := by
  have alone := outside.commit same elsewhere
  have first := confined.commit same start later alone
  have second := outside.commit same laterElsewhere
  exact same.trans (same.symm second) first

/-- A bystander sees no difference between the orders of two foreign actions. -/
theorem bystander_views_agree (same : Equivalence view) (outside : Outside exec good view action)
    (outsideToo : Outside exec good view foreign) (start : good state)
    (later : good (Runs.commit exec state action))
    (laterToo : good (Runs.commit exec state foreign)) :
    view (Runs.commit exec (Runs.commit exec state action) foreign)
      (Runs.commit exec (Runs.commit exec state foreign) action) := by
  have left := same.trans (outside.commit same start) (outsideToo.commit same later)
  have right := same.trans (outsideToo.commit same start) (outside.commit same laterToo)
  exact same.trans (same.symm left) right

end Locality
