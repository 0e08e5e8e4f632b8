import DscProtocol.HelperConfig
import DscProtocol.LedgerEffects
import DscProtocol.Reachability

set_option autoImplicit false

/- Health under engine calls: at the prices of the call nobody is pushed down, up to the line
at which liquidation starts. -/
namespace DscProtocol

namespace World

/-- Seen through the engine's terms and the prices in force, nobody is worse off. -/
def NoneWorse (w after : World) : Prop :=
  Pledge.NoneWorse terms w.engine.collateralTokens w.price w.book after.book

variable {w after : World} {sender source target token account user onBehalfOf dscFrom : Address}
  {amount : Nat}

theorem NoneWorse.trans {first second third : World} (same : SameSetting first second)
    (left : NoneWorse first second) (right : NoneWorse second third) : NoneWorse first third := by
  unfold NoneWorse at right
  rw [same.collateralTokens, same.price] at right
  exact Pledge.NoneWorse.trans left right

/-- The health of the later state is read at its own prices, which are the same. -/
theorem NoneWorse.health_le (same : SameSetting w after) (noneWorse : NoneWorse w after)
    (account : Address) :
    min (w.health account) DSCEngine.minHealthFactor ≤
      min (after.health account) DSCEngine.minHealthFactor := by
  have step := noneWorse account
  unfold health
  rw [same.collateralTokens, same.price]
  exact step

/-- A deposit only adds. -/
theorem received_noneWorse : NoneWorse w (w.received sender token amount) := by
  apply Pledge.NoneWorse.of_one sender (fun _ apart => received_position_of_ne apart)
  have more : ∀ kind ∈ w.engine.collateralTokens, (w.book sender).held kind ≤
      ((w.received sender token amount).book sender).held kind := by
    intro kind _
    change w.engine.collateralDeposited sender kind ≤
      Ledger.assign w.engine.collateralDeposited sender token _ sender kind
    exact Ledger.le_assign w.engine.collateralDeposited (Nat.le_add_right _ _) sender kind
  have same : ((w.received sender token amount).book sender).debt ≤ (w.book sender).debt :=
    Nat.le_refl (w.engine.dscMinted sender)
  exact Pledge.health_mono more same

/-- Repaying only lowers a debt. -/
theorem repaid_noneWorse : NoneWorse w (w.repaid onBehalfOf dscFrom amount) := by
  apply Pledge.NoneWorse.of_one onBehalfOf (fun _ apart => repaid_position_of_ne apart)
  have same : ∀ kind ∈ w.engine.collateralTokens, (w.book onBehalfOf).held kind ≤
      ((w.repaid onBehalfOf dscFrom amount).book onBehalfOf).held kind :=
    fun kind _ => Nat.le_refl (w.engine.collateralDeposited onBehalfOf kind)
  have less : ((w.repaid onBehalfOf dscFrom amount).book onBehalfOf).debt ≤
      (w.book onBehalfOf).debt :=
    @repaid_minted_le w onBehalfOf dscFrom amount onBehalfOf
  exact Pledge.health_mono same less

/-- An account that ends at or above the line is not pushed below it. -/
theorem noneWorse_of_healthy (same : SameSetting w after)
    (others : ∀ user, user ≠ account → after.position user = w.position user)
    (healthy : DSCEngine.minHealthFactor ≤ after.health account) : NoneWorse w after := by
  apply Pledge.NoneWorse.of_one account others
  unfold health at healthy
  rw [same.collateralTokens, same.price] at healthy
  have line : terms.line = DSCEngine.minHealthFactor := rfl
  change _ ≤ min (Pledge.health terms w.engine.collateralTokens w.price (after.position account)) _
  omega

/-- The guard at the end of `liquidate` compares the floored ratios themselves. -/
theorem liquidated_noneWorse {debtToCover : Nat}
    (liquidates : w.Liquidates sender token user debtToCover) :
    NoneWorse w (w.liquidated sender token user debtToCover) := by
  apply Pledge.NoneWorse.of_one user (fun _ apart => liquidated_position_of_ne apart)
  have improved := liquidates.improved
  have same := SameSetting.liquidated w sender token user debtToCover
  unfold health at improved
  rw [same.collateralTokens, same.price] at improved
  change min (Pledge.health terms w.engine.collateralTokens w.price (w.position user)) _ ≤
    min (Pledge.health terms w.engine.collateralTokens w.price
      ((w.liquidated sender token user debtToCover).position user)) _
  omega

/-- No successful engine call makes anyone worse off; the combined calls chain two of them. -/
theorem exec_noneWorse {call : EngineCall} (success : call.exec standard sender w = .ok after) :
    NoneWorse w after := by
  have mint : ∀ {w after : World} {amount : Nat},
      DSCEngine.mintDsc sender amount w = .ok after → NoneWorse w after := by
    intro w after amount success
    obtain ⟨_, _, passes, rfl⟩ := DSCEngine.mintDsc_eq_ok.mp success
    exact noneWorse_of_healthy (SameSetting.issued w sender amount)
      (fun _ apart => issued_position_of_ne apart) passes.healthy
  have redeem : ∀ {w after : World} {token : Address} {amount : Nat},
      DSCEngine.redeemCollateral standard sender token amount w = .ok after →
        NoneWorse w after := by
    intro w after token amount success
    obtain ⟨_, _, _, passes, rfl⟩ := DSCEngine.redeemCollateral_eq_ok.mp success
    exact noneWorse_of_healthy (SameSetting.released w sender sender token amount)
      (fun _ apart => released_position_of_ne apart) passes.healthy
  cases call with
  | depositCollateral token amount =>
      obtain ⟨_, _, _, _, rfl⟩ := DSCEngine.depositCollateral_eq_ok.mp success
      exact received_noneWorse
  | depositCollateralAndMintDsc token amountCollateral amountDscToMint =>
      obtain ⟨_, deposited, minted⟩ := DSCEngine.depositCollateralAndMintDsc_eq_ok.mp success
      obtain ⟨_, _, _, _, rfl⟩ := DSCEngine.depositCollateral_eq_ok.mp deposited
      exact NoneWorse.trans (SameSetting.received w sender token amountCollateral)
        received_noneWorse (mint minted)
  | mintDsc amount => exact mint success
  | burnDsc amount =>
      obtain ⟨_, rfl⟩ := DSCEngine.burnDsc_eq_ok.mp success
      exact repaid_noneWorse
  | redeemCollateral token amount => exact redeem success
  | redeemCollateralForDsc token amountCollateral amountDscToBurn =>
      obtain ⟨_, burned, redeemed⟩ := DSCEngine.redeemCollateralForDsc_eq_ok.mp success
      obtain ⟨_, rfl⟩ := DSCEngine.burnDsc_eq_ok.mp burned
      exact NoneWorse.trans (SameSetting.repaid w sender sender amountDscToBurn)
        repaid_noneWorse (redeem redeemed)
  | liquidate collateral user debtToCover =>
      obtain ⟨liquidates, rfl⟩ := DSCEngine.liquidate_eq_ok.mp success
      exact liquidated_noneWorse liquidates

/-- Health is read off the engine's storage, the feeds and nothing else. -/
theorem health_congr (engine : after.engine = w.engine) (feeds : after.feeds = w.feeds)
    (account : Address) : after.health account = w.health account := by
  unfold health position price latestRoundData
  rw [engine, feeds]

/-- Whatever happens, only a new price can push anyone down. -/
theorem step_health_le (w : World) {action : Action}
    (notFeed : ∀ priceFeed round, action ≠ .updateFeed priceFeed round) (account : Address) :
    min (w.health account) DSCEngine.minHealthFactor ≤
      min ((step w action).health account) DSCEngine.minHealthFactor := by
  apply @Runs.commit_preserves World Action Revert Action.exec
    (fun next => min (w.health account) DSCEngine.minHealthFactor ≤
      min (next.health account) DSCEngine.minHealthFactor) w action (Nat.le_refl _)
  intro next success
  rcases Action.exec_frame success with ⟨sender, call, _, returned⟩ | ⟨engine, _, _, feeds⟩
  · exact (exec_noneWorse returned).health_le (SameSetting.exec returned) account
  · rw [health_congr engine (feeds notFeed) account]

end World

/-- The engine call itself, the health factors the engine computes before and after it, and
every other kind of action: up to the line nobody's health falls. -/
theorem no_call_worsens_health {w after : World} {sender : Address} {call : EngineCall}
    (success : call.exec standard sender w = .ok after) (account : Address) :
    min (w.health account) DSCEngine.minHealthFactor ≤
        min (after.health account) DSCEngine.minHealthFactor ∧
      (∀ before later, DSCEngine.healthFactor w account = .ok before →
        DSCEngine.healthFactor after account = .ok later →
        min before DSCEngine.minHealthFactor ≤ min later DSCEngine.minHealthFactor) ∧
      ∀ action, (∀ priceFeed round, action ≠ .updateFeed priceFeed round) →
        min (w.health account) DSCEngine.minHealthFactor ≤
          min ((step w action).health account) DSCEngine.minHealthFactor := by
  have noLower := (World.exec_noneWorse success).health_le (World.SameSetting.exec success) account
  refine ⟨noLower, ?_, fun action notFeed => World.step_health_le w notFeed account⟩
  intro before later first second
  obtain ⟨_, _, rfl⟩ := DSCEngine.healthFactor_eq_ok.mp first
  obtain ⟨_, _, rfl⟩ := DSCEngine.healthFactor_eq_ok.mp second
  exact noLower

section Example

open HelperConfig

/-- One ether falls to 18 dollars and the whole debt is liquidated. -/
theorem no_call_worsens_health_liquidated :
    (repriced (18 * 10 ^ 8)).health user = 9 * 10 ^ 17 ∧
      9 * 10 ^ 17 ≤ min ((step (repriced (18 * 10 ^ 8))
        (.callEngine liquidator (.liquidate weth user (100 * 10 ^ 18)))).health user)
          DSCEngine.minHealthFactor := by
  have returns : (Action.exec (repriced (18 * 10 ^ 8))
      (.callEngine liquidator (.liquidate weth user (100 * 10 ^ 18)))).toBool = true := by
    decide +kernel
  have success : EngineCall.exec standard liquidator (.liquidate weth user (100 * 10 ^ 18))
      (repriced (18 * 10 ^ 8)) = .ok _ :=
    Runs.commit_of_returns returns
  have before : (repriced (18 * 10 ^ 8)).health user =
      9 * 10 ^ 17 := by decide +kernel
  have noLower := (no_call_worsens_health success user).1
  rw [before] at noLower
  exact ⟨before, noLower⟩

end Example

end DscProtocol
