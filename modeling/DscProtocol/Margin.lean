import DscProtocol.Refinement
import DscProtocol.Solvency
import Mathlib.Tactic.GCongr

set_option autoImplicit false

/- Falling prices. Accounts are judged only when they take value out, so the peg rests on how far
prices fall from where anyone was judged: the margin of the vault, carried over to the coins. -/
namespace DscProtocol

/-- A liquidation covers the whole debt. -/
def Action.Covers (w : World) (action : Action) : Prop :=
  match action with
  | callEngine _ (.liquidate _ user debtToCover) => debtToCover = w.engine.dscMinted user
  | _ => True

instance (w : World) : (action : Action) → Decidable (action.Covers w)
  | .callEngine _ (.liquidate _ user debtToCover) =>
      inferInstanceAs (Decidable (debtToCover = w.engine.dscMinted user))
  | .callEngine _ (.depositCollateral _ _) => inferInstanceAs (Decidable True)
  | .callEngine _ (.depositCollateralAndMintDsc _ _ _) => inferInstanceAs (Decidable True)
  | .callEngine _ (.mintDsc _) => inferInstanceAs (Decidable True)
  | .callEngine _ (.burnDsc _) => inferInstanceAs (Decidable True)
  | .callEngine _ (.redeemCollateral _ _) => inferInstanceAs (Decidable True)
  | .callEngine _ (.redeemCollateralForDsc _ _ _) => inferInstanceAs (Decidable True)
  | .callToken _ _ _ => inferInstanceAs (Decidable True)
  | .callCoin _ _ => inferInstanceAs (Decidable True)
  | .withdraw _ _ _ => inferInstanceAs (Decidable True)
  | .issue _ _ _ => inferInstanceAs (Decidable True)
  | .updateFeed _ _ => inferInstanceAs (Decidable True)
  | .advance _ => inferInstanceAs (Decidable True)

/-- A permitted action that, if it is a liquidation that goes through, leaves no rest of debt. -/
def Covering (w : World) (action : Action) : Prop :=
  Permitted w action ∧ ((action.exec w).toBool = true → action.Covers w)

instance (w : World) (action : Action) : Decidable (Covering w action) :=
  inferInstanceAs (Decidable (_ ∧ _))

namespace World

/-- The prices in force in some state of the run. -/
def pricesSeen (start : World) (actions : List Action) : Set (Address → Nat) :=
  fun price => ∃ sofar, sofar <+: actions ∧ (Runs.run step start sofar).price = price

variable {w start after : World} {actions : List Action} {seen : Set (Address → Nat)}

/-- The moves of a committed action close only whole debts, and bring in only the new prices. -/
theorem moves_settling {action : Action} (success : action.exec w = .ok after)
    (covers : action.Covers w) (current : after.price ∈ seen) :
    Runs.Along Vault.apply (Vault.Settling seen) w.vault (action.moves w) := by
  cases action with
  | callEngine sender call =>
      cases call with
      | liquidate collateral user debtToCover => exact ⟨covers, trivial⟩
      | depositCollateralAndMintDsc | redeemCollateralForDsc => exact ⟨trivial, trivial, trivial⟩
      | depositCollateral | mintDsc | burnDsc | redeemCollateral => exact ⟨trivial, trivial⟩
  | updateFeed priceFeed round =>
      cases success
      exact ⟨current, trivial⟩
  | callToken | callCoin | withdraw | issue | advance => trivial

/-- Along a run without partial liquidations every account meets the line at prices the run has
seen: those at which it last took value out, or later ones. -/
theorem run_judged (healthy : start.AllHealthy)
    (along : Runs.Along step Covering start actions) :
    Vault.Judged (vaultRules start.engine.collateralTokens) (start.pricesSeen actions)
      (Runs.run step start actions).book := by
  have keeps : ∀ (w : World) (action : Action),
      w.engine.collateralTokens = start.engine.collateralTokens →
      (Covering w action ∧ ∃ sofar, sofar ++ [action] <+: actions ∧
        w = Runs.run step start sofar) →
      (step w action).engine.collateralTokens = start.engine.collateralTokens :=
    fun w action listed _ => (SameContracts.step w action).collateralTokens.trans listed
  have matched : ∀ (w : World) (action : Action) (after : World),
      w.engine.collateralTokens = start.engine.collateralTokens →
      (Covering w action ∧ ∃ sofar, sofar ++ [action] <+: actions ∧
        w = Runs.run step start sofar) → action.exec w = .ok after →
      Runs.Along Vault.apply
          (fun vault move => Vault.Allowed (vaultRules start.engine.collateralTokens) vault move ∧
            Vault.Settling (start.pricesSeen actions) vault move) w.vault (action.moves w) ∧
        Runs.run Vault.apply w.vault (action.moves w) = after.vault := by
    intro w action after listed located success
    obtain ⟨covering, sofar, inside, here⟩ := located
    obtain ⟨allowed, reached⟩ := action_matched listed success
    have current : after.price ∈ start.pricesSeen actions := by
      refine ⟨sofar ++ [action], inside, ?_⟩
      rw [Runs.run_append, ← here]
      exact congrArg World.price (Runs.commit_eq_of_ok success)
    have covers := covering.2 (by rw [success]; rfl)
    exact ⟨allowed.and (moves_settling success covers current), reached⟩
  obtain ⟨moves, reached⟩ := Runs.simulates keeps matched rfl along.located
  have first : start.vault.price ∈ start.pricesSeen actions := ⟨[], List.nil_prefix, rfl⟩
  have judged : Vault.Judged (vaultRules start.engine.collateralTokens)
      (start.pricesSeen actions) start.vault.book :=
    fun account => ⟨start.price, first, healthy account⟩
  have final := judged.run first moves
  rw [reached] at final
  exact final

end World

/-- The margin of the peg. If no listed price is below `part / whole` of what it was at any earlier
moment, and liquidations leave no rest of a debt, then that part of twice the supply is covered by
the exact value of what the engine holds. -/
theorem peg_margin {d : Deployment} {start : World} {actions : List Action} {part whole : Nat}
    (deployed : d.run = .ok start) (along : Runs.Along step Covering start actions)
    (lasting : ∀ sofar, sofar <+: actions → ∀ token ∈ start.engine.collateralTokens,
      part * (Runs.run step start sofar).price token ≤
        whole * (Runs.run step start actions).price token) :
    part * (2 * DSCEngine.precision * (Runs.run step start actions).supply) ≤
      whole * Vault.exactValue start.engine.collateralTokens (Runs.run step start actions).price
        (Runs.run step start actions).held := by
  have permitted : Runs.Along step Permitted start actions :=
    along.mono (fun _ _ covering => covering.1)
  obtain ⟨_, _, minted, _, _⟩ := Deployment.run_eq_ok deployed
  have healthy : start.AllHealthy := by
    intro account
    rw [DSCEngine.minHealthFactor_le_health, minted]
    exact Nat.zero_le _
  have covered : part * (100 * DSCEngine.precision * (Runs.run step start actions).debts) ≤
      whole * (50 * Vault.exactValue start.engine.collateralTokens
        (Runs.run step start actions).price (Runs.run step start actions).deposits) := by
    apply (World.run_judged healthy along).covers
    intro price seen token listed
    obtain ⟨sofar, before, rfl⟩ := seen
    exact lasting sofar before token listed
  have owed : (Runs.run step start actions).supply ≤ (Runs.run step start actions).debts := by
    have debts := Deployment.debts_eq deployed permitted
    omega
  have backed : Vault.exactValue start.engine.collateralTokens (Runs.run step start actions).price
      (Runs.run step start actions).deposits ≤
        Vault.exactValue start.engine.collateralTokens (Runs.run step start actions).price
          (Runs.run step start actions).held := by
    apply Vault.exactValue_mono
    intro token _
    have held := Deployment.held_eq deployed permitted token
    omega
  have fifty : 0 < 50 := by decide
  apply Nat.le_of_mul_le_mul_left _ fifty
  calc 50 * (part * (2 * DSCEngine.precision * (Runs.run step start actions).supply))
    _ ≤ 50 * (part * (2 * DSCEngine.precision * (Runs.run step start actions).debts)) := by gcongr
    _ = part * (100 * DSCEngine.precision * (Runs.run step start actions).debts) := by ring
    _ ≤ whole * (50 * Vault.exactValue start.engine.collateralTokens
          (Runs.run step start actions).price (Runs.run step start actions).deposits) := covered
    _ ≤ whole * (50 * Vault.exactValue start.engine.collateralTokens
          (Runs.run step start actions).price (Runs.run step start actions).held) := by gcongr
    _ = 50 * (whole * Vault.exactValue start.engine.collateralTokens
          (Runs.run step start actions).price (Runs.run step start actions).held) := by ring

/-- Without feed updates no price changes. -/
theorem price_of_quiet {start : World} {actions : List Action}
    (quiet : ∀ action ∈ actions, ∀ priceFeed round, action ≠ .updateFeed priceFeed round) :
    (Runs.run step start actions).price = start.price := by
  induction actions generalizing start with
  | nil => rfl
  | cons action rest ih =>
      have first : (step start action).price = start.price := by
        apply @Runs.commit_preserves World Action Revert Action.exec
          (fun next => next.price = start.price) start action rfl
        intro next success
        rcases Action.exec_frame success with ⟨sender, call, _, returned⟩ | ⟨engine, _, _, feeds⟩
        · exact (World.SameSetting.exec returned).price
        · unfold World.price World.latestRoundData
          rw [engine, feeds (quiet action List.mem_cons_self)]
      rw [← first]
      exact ih (fun action inside => quiet action (List.mem_cons_of_mem _ inside))

section Example

open HelperConfig

/-- Ether loses half of its price: every coin is still backed by a dollar. -/
theorem peg_margin_halved :
    1 * (2 * DSCEngine.precision * (repriced (1000 * 10 ^ 8)).supply) ≤
      2 * Vault.exactValue anvil.start.engine.collateralTokens (repriced (1000 * 10 ^ 8)).price
        (repriced (1000 * 10 ^ 8)).held := by
  have along : Runs.Along step Covering anvil.start (indebted ++ [reprice (1000 * 10 ^ 8)]) := by
    decide +kernel
  have quiet : ∀ action ∈ indebted, ∀ priceFeed round, action ≠ .updateFeed priceFeed round := by
    simp [indebted]
  have fall : ∀ token ∈ anvil.start.engine.collateralTokens,
      1 * anvil.start.price token ≤ 2 * (repriced (1000 * 10 ^ 8)).price token :=
    forall_listed [] (by decide +kernel) (by decide +kernel)
  apply peg_margin anvil.run_ok along
  intro sofar inside token listed
  rcases List.prefix_concat_iff.mp inside with rfl | before
  · exact Nat.mul_le_mul_right _ (by decide)
  · rw [price_of_quiet (fun action member => quiet action (before.subset member))]
    exact fall token listed

end Example

end DscProtocol
