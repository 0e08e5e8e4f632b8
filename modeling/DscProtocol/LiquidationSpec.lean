import DscProtocol.HealthLine
import DscProtocol.Liquidation

set_option autoImplicit false

/- The complete specification of `liquidate`: the conditions under which it succeeds, each on the
state it finds, and every cell of the state it leaves. -/
namespace DscProtocol

namespace World

/-- The value of the user's deposit of this token alone. -/
def depositValue (w : World) (user token : Address) : Nat :=
  Pledge.worth DSCEngine.precision (w.price token) (w.engine.collateralDeposited user token)

/-- The value and the debt an account is judged on after a liquidation of the user: the user
itself has lost the deposit and the debt that was covered. -/
def judgedValue (w : World) (account collateral user : Address) : Nat :=
  if account = user then w.value user - w.depositValue user collateral else w.value account

def judgedDebt (w : World) (account user : Address) (debtToCover : Nat) : Nat :=
  if account = user then w.engine.dscMinted user - debtToCover else w.engine.dscMinted account

/-- When a liquidation is allowed, on the state before it. -/
structure MayLiquidate (w : World) (liquidator collateral user : Address) (debtToCover : Nat) :
    Prop where
  positive : 0 < debtToCover
  listed : collateral ∈ w.engine.collateralTokens
  indebted : 0 < w.engine.dscMinted user
  unhealthy : w.value user < 2 * w.engine.dscMinted user
  affordable : w.covered collateral debtToCover + w.covered collateral debtToCover / 10 ≤
    w.engine.collateralDeposited user collateral
  owed : debtToCover ≤ w.engine.dscMinted user
  coins : debtToCover ≤ (w.tokens w.engine.dsc).balances liquidator
  approved : debtToCover ≤ (w.tokens w.engine.dsc).allowances liquidator w.engineAddress
  improves : debtToCover = w.engine.dscMinted user ∨
    w.value user / 2 * 10 ^ 18 / w.engine.dscMinted user <
      (w.value user - w.depositValue user collateral) / 2 * 10 ^ 18 /
        (w.engine.dscMinted user - debtToCover)
  healthy : DSCEngine.minHealthFactor ≤ Pledge.ratio terms
    (w.judgedValue liquidator collateral user) (w.judgedDebt liquidator user debtToCover)

/-- What a liquidation leaves: every deposit, debt, balance, supply and allowance. -/
structure Settled (w : World) (liquidator collateral user : Address) (debtToCover : Nat)
    (after : World) : Prop where
  setting : SameSetting w after
  deposited : ∀ account token, after.engine.collateralDeposited account token =
    if account = user ∧ token = collateral then 0
    else w.engine.collateralDeposited account token
  minted : ∀ account, after.engine.dscMinted account =
    if account = user then w.engine.dscMinted user - debtToCover
    else w.engine.dscMinted account
  balances : ∀ account, (after.tokens collateral).balances account =
    if account = w.engineAddress then
      w.held collateral - w.engine.collateralDeposited user collateral
    else if account = liquidator then
      (w.tokens collateral).balances liquidator + w.payout collateral debtToCover
    else if account = w.engine.poolAddress then
      (w.tokens collateral).balances w.engine.poolAddress +
        (w.engine.collateralDeposited user collateral - w.payout collateral debtToCover)
    else (w.tokens collateral).balances account
  coins : ∀ account, (after.tokens w.engine.dsc).balances account =
    if account = liquidator then (w.tokens w.engine.dsc).balances liquidator - debtToCover
    else (w.tokens w.engine.dsc).balances account
  supply : after.supply + debtToCover = w.supply
  allowances : ∀ owner spender, (after.tokens w.engine.dsc).allowances owner spender =
    if owner = liquidator ∧ spender = w.engineAddress ∧
        (w.tokens w.engine.dsc).allowances liquidator w.engineAddress ≠ uint256Max then
      (w.tokens w.engine.dsc).allowances liquidator w.engineAddress - debtToCover
    else (w.tokens w.engine.dsc).allowances owner spender
  untouched : (after.tokens collateral).allowances = (w.tokens collateral).allowances ∧
    (after.tokens collateral).totalSupply = (w.tokens collateral).totalSupply
  elsewhere : ∀ token, token ≠ collateral → token ≠ w.engine.dsc →
    after.tokens token = w.tokens token

variable {w : World} {liquidator collateral user account : Address} {debtToCover : Nat}

theorem ratio_terms {value debt : Nat} (owed : debt ≠ 0) :
    Pledge.ratio terms value debt = value / 2 * 10 ^ 18 / debt := by
  have half : value * DSCEngine.liquidationThreshold / DSCEngine.liquidationPrecision =
      value / 2 := by
    unfold DSCEngine.liquidationThreshold DSCEngine.liquidationPrecision
    omega
  simp only [Pledge.ratio, owed, ↓reduceIte]
  change value * DSCEngine.liquidationThreshold / DSCEngine.liquidationPrecision * 10 ^ 18 / debt =
    _
  rw [half]

theorem payout_eq_tenth :
    w.payout collateral debtToCover =
      w.covered collateral debtToCover + w.covered collateral debtToCover / 10 := by
  unfold payout DSCEngine.liquidationBonus DSCEngine.liquidationPrecision
  omega

/-- What the account's deposits are worth after the liquidation. -/
theorem liquidated_value (orderly : w.Orderly) (listed : collateral ∈ w.engine.collateralTokens) :
    (w.liquidated liquidator collateral user debtToCover).value account =
      w.judgedValue account collateral user := by
  have same := SameSetting.liquidated w liquidator collateral user debtToCover
  unfold judgedValue
  split
  · rename_i own
    subst own
    have row : (w.liquidated liquidator collateral account
        debtToCover).engine.collateralDeposited account =
          Function.update (w.engine.collateralDeposited account) collateral 0 := by
      rw [liquidated_deposited]
      exact Function.update_self _ _ _
    unfold value
    rw [same.collateralTokens, same.price, row]
    exact Pledge.value_clear orderly.distinct listed
  · rename_i other
    exact same.value_eq (liquidated_deposited_of_ne other)

theorem liquidated_debt :
    (w.liquidated liquidator collateral user debtToCover).engine.dscMinted account =
      w.judgedDebt account user debtToCover := by
  rw [liquidated_minted]
  unfold judgedDebt
  split
  · rename_i own
    rw [own, Function.update_self]
  · rename_i other
    exact Function.update_of_ne other _ _

theorem liquidated_health (orderly : w.Orderly)
    (listed : collateral ∈ w.engine.collateralTokens) :
    (w.liquidated liquidator collateral user debtToCover).health account =
      Pledge.ratio terms (w.judgedValue account collateral user)
        (w.judgedDebt account user debtToCover) := by
  change Pledge.ratio terms ((w.liquidated liquidator collateral user debtToCover).value account)
    ((w.liquidated liquidator collateral user debtToCover).engine.dscMinted account) = _
  rw [liquidated_value orderly listed, liquidated_debt]

/-- The check after the payment: paying the whole debt always improves the health factor, a part
of it where the floored ratio rises. -/
theorem improves_iff (orderly : w.Orderly) (listed : collateral ∈ w.engine.collateralTokens)
    (unhealthy : w.health user < DSCEngine.minHealthFactor)
    (owed : debtToCover ≤ w.engine.dscMinted user) :
    w.health user < (w.liquidated liquidator collateral user debtToCover).health user ↔
      debtToCover = w.engine.dscMinted user ∨
        w.value user / 2 * 10 ^ 18 / w.engine.dscMinted user <
          (w.value user - w.depositValue user collateral) / 2 * 10 ^ 18 /
            (w.engine.dscMinted user - debtToCover) := by
  have indebted : w.engine.dscMinted user ≠ 0 := by
    have below := DSCEngine.health_lt_minHealthFactor.mp unhealthy
    omega
  by_cases whole : debtToCover = w.engine.dscMinted user
  · rw [liquidated_clear whole]
    exact iff_of_true (Nat.lt_of_lt_of_le unhealthy (by decide)) (Or.inl whole)
  · have rest : w.engine.dscMinted user - debtToCover ≠ 0 := by omega
    have before : w.health user = w.value user / 2 * 10 ^ 18 / w.engine.dscMinted user :=
      ratio_terms indebted
    rw [liquidated_health orderly listed, before]
    simp only [judgedValue, judgedDebt, ↓reduceIte, ratio_terms rest, whole, false_or]

/-- A token whose feed can be read is listed. -/
theorem listed_of_read {round : Round} (orderly : w.Orderly)
    (read : w.latestRoundData (w.engine.priceFeeds collateral) = .ok round) :
    collateral ∈ w.engine.collateralTokens := by
  apply orderly.registered
  intro zero
  unfold latestRoundData at read
  simp only [zero, ↓reduceIte] at read
  cases read

theorem GoodFeeds.live (feeds : w.GoodFeeds) : w.LiveFeeds := by
  intro token listed
  obtain ⟨round, read, fresh, positive⟩ := feeds token listed
  exact ⟨round, read, fresh, Int.le_of_lt positive⟩

/-- Nothing overflows in the whole liquidation. -/
structure LiquidationComputes (w : World) (liquidator collateral user : Address)
    (debtToCover : Nat) : Prop where
  user : w.Computes user
  liquidator : w.Computes liquidator
  amount_fits : debtToCover * DSCEngine.precision < wordLimit
  bonus_fits : w.covered collateral debtToCover * DSCEngine.liquidationBonus < wordLimit
  payout_fits : w.payout collateral debtToCover < wordLimit

/-- The engine's checks, scattered over three contracts, come down to the conditions. -/
theorem mayLiquidate_of_liquidates (orderly : w.Orderly)
    (liquidates : w.Liquidates liquidator collateral user debtToCover) :
    w.MayLiquidate liquidator collateral user debtToCover := by
  obtain ⟨round, read, _⟩ := liquidates.priced
  have listed := listed_of_read orderly read
  have apart : w.engine.dsc ≠ collateral := fun same => orderly.dsc_not_collateral (same ▸ listed)
  have pulls : (w.tokens w.engine.dsc).Pulls w.engineAddress liquidator w.engineAddress
      debtToCover := by
    have later : ((w.swept liquidator collateral user debtToCover).tokens w.engine.dsc).Pulls
        w.engineAddress liquidator w.engineAddress debtToCover := liquidates.repays.pulls
    rw [swept_tokens_of_ne apart] at later
    exact later
  have below := DSCEngine.health_lt_minHealthFactor.mp liquidates.unhealthy
  have owed : debtToCover ≤ w.engine.dscMinted user := liquidates.repays.owed
  have word : debtToCover ≤ uint256Max := by
    have fits := liquidates.amount_fits
    unfold DSCEngine.precision wordLimit at fits
    unfold uint256Max wordLimit
    omega
  refine ⟨liquidates.positive, listed, by omega, below, ?_, owed, pulls.enough, ?_, ?_, ?_⟩
  · rw [← payout_eq_tenth]
    exact liquidates.pays.deposited
  · rcases pulls.allowed with unlimited | ⟨within, _, _⟩
    · rw [unlimited]
      exact word
    · exact within
  · exact (improves_iff orderly listed liquidates.unhealthy owed).mp liquidates.improved
  · rw [← liquidated_health orderly listed]
    exact liquidates.passes.healthy

/-- Where nothing overflows the conditions are all there is. -/
theorem MayLiquidate.liquidates (reachable : Reachable w) (feeds : w.GoodFeeds)
    (computes : w.LiquidationComputes liquidator collateral user debtToCover)
    (notEngine : liquidator ≠ w.engineAddress)
    (may : w.MayLiquidate liquidator collateral user debtToCover) :
    w.Liquidates liquidator collateral user debtToCover := by
  have orderly := reachable.orderly
  have same := SameSetting.liquidated w liquidator collateral user debtToCover
  have notZero : liquidator ≠ 0 := by
    intro zero
    have coins := may.coins
    rw [zero, orderly.zero_holds_no_dsc] at coins
    have positive := may.positive
    omega
  have less : ∀ account token, (w.liquidated liquidator collateral user
      debtToCover).engine.collateralDeposited account token ≤
        w.engine.collateralDeposited account token := by
    rw [liquidated_deposited]
    exact Ledger.assign_le w.engine.collateralDeposited (Nat.zero_le _)
  have ends : ∀ account, w.Computes account →
      (w.liquidated liquidator collateral user debtToCover).Computes account :=
    fun account before => before.of_le same (less account)
  have live : (w.liquidated liquidator collateral user debtToCover).LiveFeeds :=
    feeds.live.of_same same
  have below := DSCEngine.health_lt_minHealthFactor.mpr may.unhealthy
  have affordable : w.payout collateral debtToCover ≤
      w.engine.collateralDeposited user collateral := by
    rw [payout_eq_tenth]
    exact may.affordable
  obtain ⟨pays, sweeps, repays⟩ := liquidation_moves reachable may.listed notEngine notZero
    affordable may.positive may.owed may.coins may.approved
  obtain ⟨round, read, _, positive⟩ := feeds collateral may.listed
  refine ⟨may.positive, orderly.idle, computes.user.valued feeds.live, computes.user.scales, below,
    ⟨round, read, positive⟩, computes.user.price_fits collateral may.listed,
    computes.amount_fits, computes.bonus_fits, computes.payout_fits, pays, sweeps, repays,
    (ends user computes.user).valued live, (ends user computes.user).scales, ?_,
    (ends liquidator computes.liquidator).valued live,
    (ends liquidator computes.liquidator).scales, ?_⟩
  · exact (improves_iff orderly may.listed below may.owed).mpr may.improves
  · rw [liquidated_health orderly may.listed]
    exact may.healthy

/-- The collateral paid out and swept, balance by balance. -/
theorem liquidated_collateral (orderly : w.Orderly)
    (liquidates : w.Liquidates liquidator collateral user debtToCover)
    (notEngine : liquidator ≠ w.engineAddress) (notPool : liquidator ≠ w.engine.poolAddress)
    (apart : collateral ≠ w.engine.dsc) (account : Address) :
    ((w.liquidated liquidator collateral user debtToCover).tokens collateral).balances account =
      if account = w.engineAddress then
        w.held collateral - w.engine.collateralDeposited user collateral
      else if account = liquidator then
        (w.tokens collateral).balances liquidator + w.payout collateral debtToCover
      else if account = w.engine.poolAddress then
        (w.tokens collateral).balances w.engine.poolAddress +
          (w.engine.collateralDeposited user collateral - w.payout collateral debtToCover)
      else (w.tokens collateral).balances account := by
  have pays := liquidates.pays
  have paid : (w.paidOut liquidator collateral user debtToCover).Orderly := orderly.released pays
  have rest : (w.paidOut liquidator collateral user debtToCover).engine.collateralDeposited user
      collateral =
        w.engine.collateralDeposited user collateral - w.payout collateral debtToCover :=
    Ledger.assign_self _ _ _ _
  have first : ((w.paidOut liquidator collateral user debtToCover).tokens collateral).balances =
      Ledger.move (w.tokens collateral).balances w.engineAddress liquidator
        (w.payout collateral debtToCover) := released_balances orderly pays
  have second : ((w.swept liquidator collateral user debtToCover).tokens collateral).balances =
      Ledger.move ((w.paidOut liquidator collateral user debtToCover).tokens collateral).balances
        w.engineAddress w.engine.poolAddress
          (w.engine.collateralDeposited user collateral - w.payout collateral debtToCover) := by
    rw [← rest]
    exact released_balances paid liquidates.sweeps
  have pool : w.engine.poolAddress ≠ w.engineAddress := orderly.pool_ne_engine
  have enough : w.payout collateral debtToCover ≤ w.engine.collateralDeposited user collateral :=
    pays.deposited
  rw [liquidated_tokens_of_ne apart, second, first]
  split
  · rename_i own
    rw [own, Ledger.move_source _ _ pool.symm, Ledger.move_source _ _ notEngine.symm]
    unfold held
    omega
  · rename_i outside
    split
    · rename_i own
      rw [own, Ledger.move_other _ _ notEngine notPool, Ledger.move_target _ _ notEngine.symm]
    · rename_i other
      split
      · rename_i own
        rw [own, Ledger.move_target _ _ pool.symm, Ledger.move_other _ _ pool notPool.symm]
      · rename_i stranger
        rw [Ledger.move_other _ _ outside stranger, Ledger.move_other _ _ outside other]

/-- The coins burned: the liquidator's balance, the supply and the allowance fall. -/
theorem liquidated_coin (orderly : w.Orderly)
    (liquidates : w.Liquidates liquidator collateral user debtToCover)
    (apart : w.engine.dsc ≠ collateral) :
    ((w.liquidated liquidator collateral user debtToCover).tokens w.engine.dsc).balances =
        Function.update (w.tokens w.engine.dsc).balances liquidator
          ((w.tokens w.engine.dsc).balances liquidator - debtToCover) ∧
      (w.liquidated liquidator collateral user debtToCover).supply = w.supply - debtToCover ∧
      ((w.liquidated liquidator collateral user debtToCover).tokens w.engine.dsc).allowances =
        ((w.tokens w.engine.dsc).spent liquidator w.engineAddress debtToCover).allowances := by
  have swept : (w.swept liquidator collateral user debtToCover).Orderly :=
    (orderly.released liquidates.pays).released liquidates.sweeps
  have repays : (w.swept liquidator collateral user debtToCover).Repays user liquidator
      debtToCover := liquidates.repays
  have coin : (w.swept liquidator collateral user debtToCover).tokens w.engine.dsc =
      w.tokens w.engine.dsc := swept_tokens_of_ne apart
  have balances : ((w.liquidated liquidator collateral user debtToCover).tokens
      w.engine.dsc).balances = Function.update ((w.swept liquidator collateral user
        debtToCover).tokens w.engine.dsc).balances liquidator
          (((w.swept liquidator collateral user debtToCover).tokens w.engine.dsc).balances
            liquidator - debtToCover) := repaid_balances swept repays
  have lowered : (w.liquidated liquidator collateral user debtToCover).supply =
      ((w.swept liquidator collateral user debtToCover).tokens
        w.engine.dsc).totalSupply - debtToCover := repaid_totalSupply swept repays
  have allowances : ((w.liquidated liquidator collateral user debtToCover).tokens
      w.engine.dsc).allowances = (((w.swept liquidator collateral user debtToCover).tokens
        w.engine.dsc).spent liquidator w.engineAddress debtToCover).allowances :=
    repaid_allowances
  rw [coin] at balances lowered allowances
  exact ⟨balances, lowered, allowances⟩

/-- Every cell of the state a liquidation leaves. -/
theorem Liquidates.settled (orderly : w.Orderly)
    (liquidates : w.Liquidates liquidator collateral user debtToCover)
    (notEngine : liquidator ≠ w.engineAddress) (notPool : liquidator ≠ w.engine.poolAddress) :
    w.Settled liquidator collateral user debtToCover
      (w.liquidated liquidator collateral user debtToCover) := by
  have may := mayLiquidate_of_liquidates orderly liquidates
  have apart : collateral ≠ w.engine.dsc := fun same =>
    orderly.dsc_not_collateral (same ▸ may.listed)
  obtain ⟨balances, lowered, allowances⟩ := liquidated_coin orderly liquidates apart.symm
  refine ⟨SameSetting.liquidated w liquidator collateral user debtToCover, ?_, ?_,
    liquidated_collateral orderly liquidates notEngine notPool apart, ?_, ?_, ?_, ?_, ?_⟩
  · intro account token
    rw [liquidated_deposited, Ledger.assign_apply]
  · intro account
    exact liquidated_debt
  · intro account
    rw [balances, Function.update_apply]
  · have circulating := Ledger.le_sum (w.tokens w.engine.dsc).balances liquidator
    rw [(orderly.sound w.engine.dsc).conserved] at circulating
    have coins := may.coins
    unfold supply at lowered ⊢
    omega
  · intro owner spender
    rw [allowances]
    unfold ERC20.spent
    by_cases limited : (w.tokens w.engine.dsc).allowances liquidator w.engineAddress ≠ uint256Max
    · simp only [limited, ERC20.approved, Ledger.assign_apply, ne_eq, not_false_eq_true,
        ↓reduceIte, and_true]
    · simp only [limited, ↓reduceIte, and_false]
  · rw [liquidated_tokens_of_ne apart]
    unfold World.swept
    rw [released_token]
    unfold World.paidOut
    rw [released_token]
    exact ⟨rfl, rfl⟩
  · intro token notCollateral notCoin
    rw [liquidated_tokens_of_ne notCoin, swept_tokens_of_ne notCollateral]

end World

/-- The complete specification of `liquidate`: it succeeds exactly under the conditions, and then
leaves exactly the settled state. -/
theorem liquidate_specified {w : World} {liquidator collateral user : Address} {debtToCover : Nat}
    (reachable : Reachable w) (feeds : w.GoodFeeds)
    (computes : w.LiquidationComputes liquidator collateral user debtToCover)
    (notEngine : liquidator ≠ w.engineAddress) (notPool : liquidator ≠ w.engine.poolAddress) :
    ((∃ after, DSCEngine.liquidate standard liquidator collateral user debtToCover w =
        .ok after) ↔ w.MayLiquidate liquidator collateral user debtToCover) ∧
      ∀ after, DSCEngine.liquidate standard liquidator collateral user debtToCover w =
        .ok after → w.Settled liquidator collateral user debtToCover after := by
  refine ⟨⟨?_, ?_⟩, ?_⟩
  · intro success
    obtain ⟨after, success⟩ := success
    obtain ⟨liquidates, _⟩ := DSCEngine.liquidate_eq_ok.mp success
    exact World.mayLiquidate_of_liquidates reachable.orderly liquidates
  · intro may
    exact ⟨_, DSCEngine.liquidate_eq_ok.mpr
      ⟨may.liquidates reachable feeds computes notEngine, rfl⟩⟩
  · intro after success
    obtain ⟨liquidates, rfl⟩ := DSCEngine.liquidate_eq_ok.mp success
    exact liquidates.settled reachable.orderly notEngine notPool

section Example

open HelperConfig

theorem repriced_computes {account : Address} (party : account = user ∨ account = liquidator) :
    (repriced (18 * 10 ^ 8)).Computes account := by
  rcases party with rfl | rfl <;>
    refine ⟨?_, ?_, by decide +kernel, by decide +kernel, by decide +kernel⟩ <;>
      apply forall_listed <;> decide +kernel

/-- The whole debt at 18 dollars for an ether: 6.11 of the 10 ether go to the liquidator. -/
theorem liquidate_specified_whole_debt :
    ∃ after, DSCEngine.liquidate standard liquidator weth user (100 * 10 ^ 18)
        (repriced (18 * 10 ^ 8)) = .ok after ∧
      (after.tokens weth).balances liquidator = 6111111111111111110 ∧
      after.supply + 100 * 10 ^ 18 = (repriced (18 * 10 ^ 8)).supply := by
  have computes : (repriced (18 * 10 ^ 8)).LiquidationComputes liquidator weth user
      (100 * 10 ^ 18) :=
    ⟨repriced_computes (Or.inl rfl), repriced_computes (Or.inr rfl), by decide +kernel,
      by decide +kernel, by decide +kernel⟩
  obtain ⟨allowed, settled⟩ := liquidate_specified (repriced_reachable (18 * 10 ^ 8))
    (repriced_goodFeeds (by decide +kernel)) computes (by decide +kernel) (by decide +kernel)
  have may : (repriced (18 * 10 ^ 8)).MayLiquidate liquidator weth user (100 * 10 ^ 18) := by
    refine ⟨by decide +kernel, ?_, by decide +kernel, by decide +kernel, by decide +kernel,
      by decide +kernel, by decide +kernel, by decide +kernel, by decide +kernel,
      by decide +kernel⟩
    have tokens : (repriced (18 * 10 ^ 8)).engine.collateralTokens = [weth, wbtc] :=
      anvil_tokens _
    rw [tokens]
    exact List.mem_cons_self
  obtain ⟨after, success⟩ := allowed.mpr may
  have left := settled after success
  refine ⟨after, success, ?_, left.supply⟩
  rw [left.balances]
  decide +kernel

end Example

end DscProtocol
