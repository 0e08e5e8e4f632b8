import DscProtocol.Solvency

set_option autoImplicit false

/- Bad debt: what accounts owe beyond the value of their collateral. Only a falling price makes it
grow, and it bounds how far the coins can be worth more than what the engine holds. -/
namespace DscProtocol

namespace World

/-- What the collateral of an account does not cover of its debt. -/
def shortfall (w : World) (account : Address) : Nat :=
  Pledge.shortfall DSCEngine.precision w.engine.collateralTokens w.price (w.position account)

def badDebt (w : World) : Nat := ∑ account, w.shortfall account

variable {w after : World} {sender user account token : Address} {amount : Nat} {action : Action}

theorem shortfall_eq (w : World) (account : Address) :
    w.shortfall account = w.engine.dscMinted account - w.value account := rfl

theorem shortfall_of_healthy (healthy : DSCEngine.minHealthFactor ≤ w.health account) :
    w.shortfall account = 0 := by
  have covered := DSCEngine.minHealthFactor_le_health.mp healthy
  rw [shortfall_eq]
  omega

/-- An account that an action leaves alone at unchanged prices lacks what it lacked. -/
theorem shortfall_congr (same : SameSetting w after)
    (position : after.position account = w.position account) :
    after.shortfall account = w.shortfall account := by
  unfold shortfall
  rw [same.collateralTokens, same.price, position]

/-- More collateral and less debt. -/
theorem shortfall_mono (same : SameSetting w after)
    (more : ∀ token, w.engine.collateralDeposited account token ≤
      after.engine.collateralDeposited account token)
    (less : after.engine.dscMinted account ≤ w.engine.dscMinted account) :
    after.shortfall account ≤ w.shortfall account := by
  have grown : w.value account ≤ after.value account := by
    unfold value
    rw [same.collateralTokens, same.price]
    exact Pledge.value_mono (fun _ _ => Nat.le_refl _) (fun token _ => more token)
  rw [shortfall_eq, shortfall_eq]
  omega

theorem received_shortfall_le :
    (w.received sender token amount).shortfall account ≤ w.shortfall account := by
  apply shortfall_mono (SameSetting.received w sender token amount)
  · intro kind
    rw [received_deposited]
    exact Ledger.le_assign w.engine.collateralDeposited (Nat.le_add_right _ _) account kind
  · exact Nat.le_refl _

theorem repaid_shortfall_le {onBehalfOf : Address} :
    (w.repaid onBehalfOf sender amount).shortfall account ≤ w.shortfall account :=
  shortfall_mono (SameSetting.repaid w onBehalfOf sender amount) (fun _ => Nat.le_refl _)
    (repaid_minted_le account)

/-- Whoever has just passed the health check lacks nothing, and nobody else has moved. -/
theorem shortfall_le_of_passes (same : SameSetting w after)
    (others : ∀ other, other ≠ sender → after.position other = w.position other)
    (healthy : DSCEngine.minHealthFactor ≤ after.health sender) :
    after.shortfall account ≤ w.shortfall account := by
  by_cases own : account = sender
  · rw [own, shortfall_of_healthy healthy]
    exact Nat.zero_le _
  · exact Nat.le_of_eq (shortfall_congr same (others account own))

/-- A liquidation raises the floored health factor of the liquidated account, which is enough. -/
theorem liquidated_shortfall_le (liquidates : w.Liquidates sender token user amount) :
    (w.liquidated sender token user amount).shortfall account ≤ w.shortfall account := by
  have same := SameSetting.liquidated w sender token user amount
  by_cases own : account = user
  · subst own
    have owed : (w.liquidated sender token account amount).engine.dscMinted account =
        w.engine.dscMinted account - amount := by
      rw [liquidated_minted, Function.update_self]
    have repaid : (w.liquidated sender token account amount).engine.dscMinted account ≤
        w.engine.dscMinted account := by omega
    by_cases clear : (w.liquidated sender token account amount).engine.dscMinted account = 0
    · rw [shortfall_eq, clear, Nat.zero_sub]
      exact Nat.zero_le _
    · have indebted : w.engine.dscMinted account ≠ 0 := by omega
      have improved := liquidates.improved
      change Pledge.ratio terms (w.value account) (w.engine.dscMinted account) <
        Pledge.ratio terms ((w.liquidated sender token account amount).value account)
          ((w.liquidated sender token account amount).engine.dscMinted account) at improved
      unfold Pledge.ratio at improved
      rw [if_neg indebted, if_neg clear] at improved
      have half : ∀ amount, amount * terms.num / terms.den = amount / 2 := by
        intro amount
        change amount * 50 / 100 = amount / 2
        omega
      rw [half, half] at improved
      exact Pledge.shortfall_le_of_raised repaid improved
  · exact Nat.le_of_eq (shortfall_congr same (liquidated_position_of_ne own))

/-- No engine call leaves more uncovered, on any account. -/
theorem exec_shortfall_le {call : EngineCall} (success : call.exec standard sender w = .ok after) :
    after.shortfall account ≤ w.shortfall account := by
  have mint : ∀ {w after : World} {amount : Nat},
      DSCEngine.mintDsc sender amount w = .ok after →
        after.shortfall account ≤ w.shortfall account := by
    intro w after amount success
    obtain ⟨_, _, passes, rfl⟩ := DSCEngine.mintDsc_eq_ok.mp success
    exact shortfall_le_of_passes (SameSetting.issued w sender amount)
      (fun _ apart => issued_position_of_ne apart) passes.healthy
  have redeem : ∀ {w after : World} {token : Address} {amount : Nat},
      DSCEngine.redeemCollateral standard sender token amount w = .ok after →
        after.shortfall account ≤ w.shortfall account := by
    intro w after token amount success
    obtain ⟨_, _, _, passes, rfl⟩ := DSCEngine.redeemCollateral_eq_ok.mp success
    exact shortfall_le_of_passes (SameSetting.released w sender sender token amount)
      (fun _ apart => released_position_of_ne apart) passes.healthy
  cases call with
  | depositCollateral token amount =>
      obtain ⟨_, _, _, _, rfl⟩ := DSCEngine.depositCollateral_eq_ok.mp success
      exact received_shortfall_le
  | depositCollateralAndMintDsc token amountCollateral amountDscToMint =>
      obtain ⟨_, deposited, minted⟩ := DSCEngine.depositCollateralAndMintDsc_eq_ok.mp success
      obtain ⟨_, _, _, _, rfl⟩ := DSCEngine.depositCollateral_eq_ok.mp deposited
      exact (mint minted).trans received_shortfall_le
  | mintDsc amount => exact mint success
  | burnDsc amount =>
      obtain ⟨_, rfl⟩ := DSCEngine.burnDsc_eq_ok.mp success
      exact repaid_shortfall_le
  | redeemCollateral token amount => exact redeem success
  | redeemCollateralForDsc token amountCollateral amountDscToBurn =>
      obtain ⟨_, burned, redeemed⟩ := DSCEngine.redeemCollateralForDsc_eq_ok.mp success
      obtain ⟨_, rfl⟩ := DSCEngine.burnDsc_eq_ok.mp burned
      exact (redeem redeemed).trans repaid_shortfall_le
  | liquidate collateral user debtToCover =>
      obtain ⟨liquidates, rfl⟩ := DSCEngine.liquidate_eq_ok.mp success
      exact liquidated_shortfall_le liquidates

/-- Nor does anything else while no answer falls. -/
theorem step_shortfall_le (rising : Rising w action) :
    (step w action).shortfall account ≤ w.shortfall account := by
  by_cases feed : ∃ priceFeed round, action = .updateFeed priceFeed round
  · obtain ⟨priceFeed, round, rfl⟩ := feed
    have risen : w.value account ≤ (step w (.updateFeed priceFeed round)).value account :=
      Pledge.value_mono (fun token _ => price_updateFeed_le rising) (fun _ _ => Nat.le_refl _)
    have owed : (step w (.updateFeed priceFeed round)).engine.dscMinted account =
        w.engine.dscMinted account := rfl
    rw [shortfall_eq, shortfall_eq, owed]
    omega
  · apply @Runs.commit_preserves World Action Revert Action.exec
      (fun next => next.shortfall account ≤ w.shortfall account) w action (Nat.le_refl _)
    intro next success
    rcases Action.exec_frame success with ⟨sender, call, _, returned⟩ | ⟨engine, _, _, feeds⟩
    · exact exec_shortfall_le returned
    · have kept := feeds (fun priceFeed round same => feed ⟨priceFeed, round, same⟩)
      unfold shortfall price latestRoundData position
      rw [engine, kept]

/-- The coins are covered by what the engine holds and by what the debtors lack. -/
theorem supply_le_heldValue_add_badDebt (backed : ∀ token, w.deposits token ≤ w.held token)
    (owed : w.supply ≤ w.debts) : w.supply ≤ w.heldValue + w.badDebt := by
  have lent : w.debts ≤ Pledge.value DSCEngine.precision w.engine.collateralTokens w.price
      w.deposits + w.badDebt :=
    Pledge.debts_le DSCEngine.precision w.engine.collateralTokens w.price w.book
  have pooled : Pledge.value DSCEngine.precision w.engine.collateralTokens w.price w.deposits ≤
      w.heldValue :=
    Pledge.value_mono (fun _ _ => Nat.le_refl _) (fun token _ => backed token)
  omega

end World

/-- Bad debt comes from falling prices and from nothing else: as long as no positive answer falls,
over every run of everyone's actions, liquidations at any loss among them, no account and so not
the whole book is left with more uncovered debt. At any prices it bounds the part of the coins that
is not covered by what the engine holds. -/
theorem bad_debt_only_from_falling_prices {w : World} {actions : List Action}
    (reachable : Reachable w) (along : Runs.Along step Rising w actions) :
    (∀ account, (Runs.run step w actions).shortfall account ≤ w.shortfall account) ∧
      (Runs.run step w actions).badDebt ≤ w.badDebt ∧
      (Runs.run step w actions).supply ≤
        (Runs.run step w actions).heldValue + (Runs.run step w actions).badDebt := by
  have permitted : Runs.Along step Permitted w actions :=
    along.mono (fun _ _ rising => rising.1)
  have each : ∀ account, (Runs.run step w actions).shortfall account ≤ w.shortfall account := by
    intro account
    have keeps : ∀ (state : World) (action : Action),
        state.shortfall account ≤ w.shortfall account → Rising state action →
          (step state action).shortfall account ≤ w.shortfall account :=
      fun _ _ sofar rising => (World.step_shortfall_le rising).trans sofar
    exact Runs.invariant keeps (Nat.le_refl _) along
  have reached := reachable.run permitted
  refine ⟨each, Finset.sum_le_sum fun account _ => each account, ?_⟩
  exact World.supply_le_heldValue_add_badDebt reached.backed reached.supply_le_debts

section Example

open HelperConfig

/-- Half a liquidation that is refused, and a deposit of the debtor. -/
def rescue : List Action :=
  [.callEngine liquidator (.liquidate weth user (50 * 10 ^ 18)),
    .callToken user weth (.approve anvil.engineAddress (10 ^ 18)),
    .callEngine user (.depositCollateral weth (10 ^ 18))]

/-- One ether falls to 9 dollars: 10 dollars of the debt are uncovered, and no more later. -/
theorem bad_debt_only_from_falling_prices_crash :
    (repriced (9 * 10 ^ 8)).shortfall user = 10 * 10 ^ 18 ∧
      (Runs.run step (repriced (9 * 10 ^ 8)) rescue).shortfall user ≤ 10 * 10 ^ 18 := by
  have before : (repriced (9 * 10 ^ 8)).shortfall user = 10 * 10 ^ 18 := by decide +kernel
  have along : Runs.Along step Rising (repriced (9 * 10 ^ 8)) rescue := by decide +kernel
  have lower := (bad_debt_only_from_falling_prices (repriced_reachable _) along).1 user
  rw [before] at lower
  exact ⟨before, lower⟩

end Example

end DscProtocol
