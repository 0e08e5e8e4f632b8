import DscProtocol.HelperConfig
import DscProtocol.LedgerEffects
import DscProtocol.Reachability

set_option autoImplicit false

/- What becomes of the collateral swept into the pool. `withdraw` pays out tokens but is guarded
by the pool's ether, of which there is none unless some is forced on it. -/
namespace DscProtocol

/-- The purpose of `withdraw`: the owner gets any amount the pool holds, to the unit; anyone
else, or an amount above the balance, is refused and nothing changes. -/
structure World.Recovers (w : World) (caller collateral : Address) (amount : Nat) : Prop where
  pays : caller = w.pool.owner → amount ≤ DSCPool.getBalance w collateral →
    ∃ after, DSCPool.withdraw standard caller collateral amount w = .ok after ∧
      World.SameSetting w after ∧ after.engine = w.engine ∧
      (∀ other, other ≠ collateral → after.tokens other = w.tokens other) ∧
      (after.tokens collateral).balances =
        Ledger.move (w.tokens collateral).balances w.engine.poolAddress caller amount
  refuses : caller ≠ w.pool.owner ∨ DSCPool.getBalance w collateral < amount →
    (∃ reason, DSCPool.withdraw standard caller collateral amount w = .error reason) ∧
      step w (.withdraw caller collateral amount) = w

namespace DSCPool

variable {w : World} {caller collateral : Address} {amount : Nat}

/-- A refused withdrawal is rolled back. -/
theorem refused_changes_nothing
    (refused : ∀ after, withdraw standard caller collateral amount w ≠ .ok after) :
    (∃ reason, withdraw standard caller collateral amount w = .error reason) ∧
      step w (.withdraw caller collateral amount) = w := by
  have failed := Checked.fails_iff.mpr refused
  refine ⟨failed, ?_⟩
  obtain ⟨reason, failed⟩ := failed
  unfold step Runs.commit
  rw [show Action.exec w (.withdraw caller collateral amount) = .error reason from failed]

/-- With no ether in the pool nothing but a withdrawal of zero gets through. -/
theorem withdraw_only_nothing (orderly : w.Orderly) {after : World}
    (success : withdraw standard caller collateral amount w = .ok after) : amount = 0 := by
  obtain ⟨_, ether, _⟩ := withdraw_eq_ok.mp success
  rw [orderly.no_ether] at ether
  omega

theorem refuses (unfit : caller ≠ w.pool.owner ∨ getBalance w collateral < amount) :
    ∀ after, withdraw standard caller collateral amount w ≠ .ok after := by
  intro after success
  obtain ⟨owner, _, _, _, enough, _⟩ := withdraw_eq_ok.mp success
  rcases unfit with stranger | short
  · exact stranger owner
  · omega

/-- Zero is the one amount the owner does get. -/
theorem withdraw_zero (orderly : w.Orderly) :
    withdraw standard w.pool.owner collateral 0 w = .ok (w.setToken collateral
      ((w.tokens collateral).moved w.engine.poolAddress w.pool.owner 0)) :=
  withdraw_eq_ok.mpr ⟨rfl, Nat.zero_le _, orderly.pool_ne_zero, orderly.pool_owner_ne_zero,
    Nat.zero_le _, rfl⟩

end DSCPool

/-- Swept collateral is recoverable exactly where there is nothing to recover: in every reachable
state `withdraw` does what it is for only when it has to refuse or the amount is zero. -/
theorem pool_recovers_iff {w : World} (reachable : Reachable w) (caller collateral : Address)
    (amount : Nat) :
    w.Recovers caller collateral amount ↔
      amount = 0 ∨ DSCPool.getBalance w collateral < amount ∨ caller ≠ w.pool.owner := by
  have orderly := reachable.orderly
  constructor
  · intro recovers
    by_contra stuck
    obtain ⟨some, held, owner⟩ : amount ≠ 0 ∧ amount ≤ DSCPool.getBalance w collateral ∧
        caller = w.pool.owner := by
      refine ⟨fun none => stuck (Or.inl none), ?_, ?_⟩
      · by_contra short
        exact stuck (Or.inr (Or.inl (by omega)))
      · by_contra stranger
        exact stuck (Or.inr (Or.inr stranger))
    obtain ⟨after, success, _⟩ := recovers.pays owner held
    exact some (DSCPool.withdraw_only_nothing orderly success)
  · intro condition
    refine ⟨?_, fun unfit => DSCPool.refused_changes_nothing (DSCPool.refuses unfit)⟩
    intro owner held
    subst owner
    rcases condition with rfl | short | stranger
    · refine ⟨_, DSCPool.withdraw_zero orderly, World.SameSetting.setToken w collateral _, rfl,
        fun other apart => World.tokens_setToken_of_ne _ apart, ?_⟩
      rw [World.tokens_setToken]
      exact (orderly.sound collateral).moved_balances (Nat.zero_le _)
    · omega
    · exact absurd rfl stranger

section Example

open HelperConfig

/-- The unit test's liquidation, after which the pool holds 3.88 ether. -/
def sweptRun : List Action :=
  indebted ++ [reprice (18 * 10 ^ 8),
    .callEngine liquidator (.liquidate weth user (100 * 10 ^ 18))]

theorem swept_reachable : Reachable (Runs.run step anvil.start sweptRun) :=
  ⟨anvil, anvil.start, sweptRun, anvil.run_ok, by decide +kernel, rfl⟩

theorem pool_recovers_nothing_swept :
    (Runs.run step anvil.start sweptRun).Recovers deployer weth 0 :=
  (pool_recovers_iff swept_reachable deployer weth 0).mpr (Or.inl rfl)

/-- The owner asks for what the pool holds and is refused. -/
theorem swept_collateral_stuck :
    Reachable (Runs.run step anvil.start sweptRun) ∧
      (Runs.run step anvil.start sweptRun).pool.owner = deployer ∧
      DSCPool.getBalance (Runs.run step anvil.start sweptRun) weth = 3888888888888888890 ∧
      ¬ (Runs.run step anvil.start sweptRun).Recovers deployer weth 3888888888888888890 := by
  have owner : (Runs.run step anvil.start sweptRun).pool.owner = deployer := by decide +kernel
  have balance : DSCPool.getBalance (Runs.run step anvil.start sweptRun) weth =
      3888888888888888890 := by decide +kernel
  have refused : (DSCPool.withdraw standard deployer weth 3888888888888888890
      (Runs.run step anvil.start sweptRun)).toBool = false := by decide +kernel
  refine ⟨swept_reachable, owner, balance, ?_⟩
  intro recovers
  obtain ⟨after, success, _⟩ := recovers.pays owner.symm (Nat.le_of_eq balance.symm)
  rw [success] at refused
  cases refused

end Example

end DscProtocol
