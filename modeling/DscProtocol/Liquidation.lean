import DscProtocol.Backing

set_option autoImplicit false

/- When a liquidation goes through. The sweep empties the deposit whatever part of the debt is
covered, so the improvement check only lets the whole debt through, and the payout with its
bonus has to fit the deposit. -/
namespace DscProtocol

namespace World

/-- Every listed feed is fresh and positive. -/
def GoodFeeds (w : World) : Prop :=
  ∀ token ∈ w.engine.collateralTokens, ∃ round,
    w.latestRoundData (w.engine.priceFeeds token) = .ok round ∧ w.Fresh round ∧
      0 < round.answer.toInt

/-- The products and the sum of an account's valuation stay within a word. -/
structure Fits (w : World) (user : Address) : Prop where
  product_fits : ∀ token ∈ w.engine.collateralTokens,
    w.price token * w.engine.collateralDeposited user token < wordLimit
  value_fits : w.value user < wordLimit

/-- An indebted user with deposits in one token only, and a liquidator without debt who holds
the coins to cover some of it and has approved the engine for them. -/
structure Facing (w : World) (liquidator collateral user : Address) (debtToCover : Nat) :
    Prop where
  indebted : w.engine.dscMinted user ≠ 0
  only : ∀ token, token ≠ collateral → w.engine.collateralDeposited user token = 0
  debtFree : w.engine.dscMinted liquidator = 0
  coins : debtToCover ≤ (w.tokens w.engine.dsc).balances liquidator
  approved : debtToCover ≤ (w.tokens w.engine.dsc).allowances liquidator w.engineAddress

variable {w : World} {liquidator collateral user : Address} {debtToCover : Nat}

theorem price_pos (feeds : w.GoodFeeds) (listed : collateral ∈ w.engine.collateralTokens) :
    DSCEngine.additionalFeedPrecision ≤ w.price collateral := by
  obtain ⟨round, read, _, positive⟩ := feeds collateral listed
  rw [price_of_round read]
  exact Nat.le_mul_of_pos_left _ (by omega)

/-- With the whole debt covered there is nothing left to judge. -/
theorem liquidated_clear (whole : debtToCover = w.engine.dscMinted user) :
    (w.liquidated liquidator collateral user debtToCover).health user = uint256Max := by
  change Pledge.ratio terms _ ((w.liquidated liquidator collateral user
    debtToCover).engine.dscMinted user) = uint256Max
  rw [liquidated_minted, Function.update_self, whole, Nat.sub_self]
  rfl

/-- The feeds that value one account value every account whose deposits fit. -/
theorem Valued.iff_fits (valued : w.Valued user) {other : Address} :
    w.Valued other ↔ w.Fits other :=
  ⟨fun ⟨_, products, bound⟩ => ⟨products, bound⟩,
    fun ⟨products, bound⟩ => ⟨valued.readable, products, bound⟩⟩

namespace Facing

theorem user_ne_liquidator (facing : w.Facing liquidator collateral user debtToCover) :
    liquidator ≠ user := by
  intro same
  subst same
  exact facing.indebted facing.debtFree

/-- Collateral that is worth something is listed, and is the whole value. -/
theorem listed (facing : w.Facing liquidator collateral user debtToCover)
    (worthy : 0 < w.value user) : collateral ∈ w.engine.collateralTokens := by
  by_contra absent
  have nothing : w.value user = 0 := Pledge.value_eq_zero (fun token member =>
    facing.only token (fun same => absent (same ▸ member)))
  omega

theorem value_eq (facing : w.Facing liquidator collateral user debtToCover) (orderly : w.Orderly)
    (listed : collateral ∈ w.engine.collateralTokens) :
    w.value user = Pledge.worth DSCEngine.precision (w.price collateral)
      (w.engine.collateralDeposited user collateral) :=
  Pledge.value_single orderly.distinct listed facing.only

/-- The engine neither liquidates nor approves itself. -/
theorem liquidator_ne_engine (facing : w.Facing liquidator collateral user debtToCover)
    (orderly : w.Orderly) (positive : 0 < debtToCover) : liquidator ≠ w.engineAddress := by
  intro same
  subst same
  have approved := facing.approved
  rw [orderly.engine_allows_nothing] at approved
  omega

theorem liquidator_ne_zero (facing : w.Facing liquidator collateral user debtToCover)
    (orderly : w.Orderly) (positive : 0 < debtToCover) : liquidator ≠ 0 := by
  intro same
  subst same
  have coins := facing.coins
  rw [orderly.zero_holds_no_dsc] at coins
  omega

/-- After the sweep the user has no collateral left, whatever was paid out, -/
theorem ends_empty (facing : w.Facing liquidator collateral user debtToCover) (token : Address) :
    (w.liquidated liquidator collateral user debtToCover).engine.collateralDeposited user token =
      0 := by
  rw [liquidated_deposited, Ledger.assign_apply]
  split
  · rfl
  · rename_i elsewhere
    exact facing.only token (fun same => elsewhere ⟨rfl, same⟩)

/-- and nothing of value. -/
theorem ends_worthless (facing : w.Facing liquidator collateral user debtToCover) :
    (w.liquidated liquidator collateral user debtToCover).value user = 0 :=
  Pledge.value_eq_zero (fun token _ => facing.ends_empty token)

/-- So a rest of debt leaves a health factor of zero, which is no improvement. -/
theorem whole_debt (facing : w.Facing liquidator collateral user debtToCover)
    (liquidates : w.Liquidates liquidator collateral user debtToCover) :
    debtToCover = w.engine.dscMinted user := by
  have owed : debtToCover ≤ w.engine.dscMinted user := liquidates.repays.owed
  by_contra partly
  have rest : w.engine.dscMinted user - debtToCover ≠ 0 := by omega
  have improved := liquidates.improved
  have ended : (w.liquidated liquidator collateral user debtToCover).health user = 0 := by
    change Pledge.ratio terms ((w.liquidated liquidator collateral user debtToCover).value user)
      ((w.liquidated liquidator collateral user debtToCover).engine.dscMinted user) = 0
    rw [facing.ends_worthless, liquidated_minted, Function.update_self]
    simp only [Pledge.ratio, rest, ↓reduceIte, Nat.zero_mul, Nat.zero_div]
  omega

/-- The user's valuation after the sweep: all zeros, on the same feeds. -/
theorem ends_valued (facing : w.Facing liquidator collateral user debtToCover)
    (valued : w.Valued user) :
    (w.liquidated liquidator collateral user debtToCover).Valued user := by
  have same := SameSetting.liquidated w liquidator collateral user debtToCover
  refine ⟨fun token listed => same.readable_iff.mpr (valued.readable token listed), ?_, ?_⟩
  · intro token listed
    rw [facing.ends_empty token, Nat.mul_zero]
    exact wordLimit_pos
  · rw [facing.ends_worthless]
    exact wordLimit_pos

/-- The liquidator is judged on deposits the liquidation leaves alone. -/
theorem liquidator_valued_iff (facing : w.Facing liquidator collateral user debtToCover) :
    (w.liquidated liquidator collateral user debtToCover).Valued liquidator ↔
      w.Valued liquidator :=
  (SameSetting.liquidated w liquidator collateral user debtToCover).valued_iff
    (liquidated_deposited_of_ne facing.user_ne_liquidator)

theorem liquidator_passes (facing : w.Facing liquidator collateral user debtToCover)
    (valued : w.Valued liquidator) :
    (w.liquidated liquidator collateral user debtToCover).Passes liquidator := by
  have clear : (w.liquidated liquidator collateral user debtToCover).engine.dscMinted
      liquidator = 0 :=
    (liquidated_minted_of_ne facing.user_ne_liquidator).trans facing.debtFree
  exact Passes.of_clear (facing.liquidator_valued_iff.mpr valued) clear

end Facing

theorem covered_le (priced : DSCEngine.additionalFeedPrecision ≤ w.price collateral) :
    w.covered collateral debtToCover ≤ debtToCover * 10 ^ 8 := by
  have unit : 0 < DSCEngine.additionalFeedPrecision := by decide
  have scaled := @Nat.div_le_div_left _ _ (debtToCover * DSCEngine.precision) priced unit
  unfold covered
  unfold DSCEngine.precision DSCEngine.additionalFeedPrecision at *
  omega

theorem payout_le (priced : DSCEngine.additionalFeedPrecision ≤ w.price collateral) :
    w.payout collateral debtToCover ≤ debtToCover * 10 ^ 9 := by
  have amount := @covered_le w collateral debtToCover priced
  unfold payout DSCEngine.liquidationBonus DSCEngine.liquidationPrecision
  omega

/-- The deposit covers the payout, bonus and both floors included. -/
theorem payout_le_iff (priced : 0 < w.price collateral) {amount : Nat} :
    w.payout collateral debtToCover ≤ amount ↔
      debtToCover * DSCEngine.precision < w.price collateral * ((10 * amount + 9) / 11 + 1) := by
  have whole : w.payout collateral debtToCover ≤ amount ↔
      w.covered collateral debtToCover < (10 * amount + 9) / 11 + 1 := by
    unfold payout DSCEngine.liquidationBonus DSCEngine.liquidationPrecision
    omega
  rw [whole, covered, Nat.div_lt_iff_lt_mul priced, Nat.mul_comm (w.price collateral)]

/-- Below the 200% line and with a debt that scales, the health factor is computed without
overflow. -/
theorem unhealthy_scales (orderly : w.Orderly)
    (unhealthy : w.value user < 2 * w.engine.dscMinted user) : w.Scales user := by
  intro _
  have scales := orderly.debt_scales user
  unfold DSCEngine.liquidationThreshold DSCEngine.liquidationPrecision
  unfold DSCEngine.precision at scales ⊢
  constructor
  · omega
  · have counted : w.value user * 50 / 100 ≤ w.engine.dscMinted user := by omega
    exact Nat.lt_of_le_of_lt (Nat.mul_le_mul_right _ counted) scales

/-- As soon as the deposit pays for the debt covered, the payout, the sweep of the rest and the
burn of the liquidator's coins all go through: the deposits of others are backed as well. -/
theorem liquidation_moves (reachable : Reachable w)
    (listed : collateral ∈ w.engine.collateralTokens) (notEngine : liquidator ≠ w.engineAddress)
    (notZero : liquidator ≠ 0)
    (enough : w.payout collateral debtToCover ≤ w.engine.collateralDeposited user collateral)
    (positive : 0 < debtToCover) (owed : debtToCover ≤ w.engine.dscMinted user)
    (coins : debtToCover ≤ (w.tokens w.engine.dsc).balances liquidator)
    (approved : debtToCover ≤ (w.tokens w.engine.dsc).allowances liquidator w.engineAddress) :
    w.Releases user liquidator collateral (w.payout collateral debtToCover) ∧
      (w.paidOut liquidator collateral user debtToCover).Releases user w.engine.poolAddress
        collateral ((w.paidOut liquidator collateral user
          debtToCover).engine.collateralDeposited user collateral) ∧
      (w.swept liquidator collateral user debtToCover).Repays user liquidator debtToCover := by
  have orderly := reachable.orderly
  have pays : w.Releases user liquidator collateral (w.payout collateral debtToCover) :=
    ⟨enough, orderly.engine_ne_zero, notZero,
      enough.trans (reachable.deposit_le_held user collateral)⟩
  have paid : (w.paidOut liquidator collateral user debtToCover).Orderly := orderly.released pays
  have sweeps : (w.paidOut liquidator collateral user debtToCover).Releases user
      w.engine.poolAddress collateral ((w.paidOut liquidator collateral user
        debtToCover).engine.collateralDeposited user collateral) := by
    refine ⟨Nat.le_refl _, orderly.engine_ne_zero, orderly.pool_ne_zero, ?_⟩
    have balanced : Balanced collateral w (w.paidOut liquidator collateral user debtToCover) :=
      released_balanced orderly notEngine pays
    have backed := reachable.backed collateral
    have part := Ledger.le_sum (fun account => (w.paidOut liquidator collateral user
      debtToCover).engine.collateralDeposited account collateral) user
    unfold Balanced at balanced
    exact part.trans (show (w.paidOut liquidator collateral user debtToCover).deposits
      collateral ≤ (w.paidOut liquidator collateral user debtToCover).held collateral by omega)
  have swept : (w.swept liquidator collateral user debtToCover).Orderly := paid.released sweeps
  have apart : w.engine.dsc ≠ collateral := fun same =>
    orderly.dsc_not_collateral (same ▸ listed)
  have pulls : ((w.swept liquidator collateral user debtToCover).tokens w.engine.dsc).Pulls
      w.engineAddress liquidator w.engineAddress debtToCover := by
    rw [swept_tokens_of_ne apart]
    exact ⟨Or.inr ⟨approved, notZero, orderly.engine_ne_zero⟩, notZero, orderly.engine_ne_zero,
      coins⟩
  exact ⟨pays, sweeps, owed, pulls, orderly.owned, positive, pulled_held swept pulls⟩

namespace Facing

/-- The whole debt of an unhealthy user can be covered as soon as its deposit pays for it and
the liquidator's own deposits can be valued. -/
theorem liquidates (reachable : Reachable w) (feeds : w.GoodFeeds)
    (facing : w.Facing liquidator collateral user (w.engine.dscMinted user))
    (valued : w.Valued user) (unhealthy : w.value user < 2 * w.engine.dscMinted user)
    (worthy : 0 < w.value user)
    (enough : w.payout collateral (w.engine.dscMinted user) ≤
      w.engine.collateralDeposited user collateral)
    (liquidatorValued : w.Valued liquidator) :
    w.Liquidates liquidator collateral user (w.engine.dscMinted user) := by
  have orderly := reachable.orderly
  have positive : 0 < w.engine.dscMinted user := Nat.pos_of_ne_zero facing.indebted
  have listed := facing.listed worthy
  have priced := price_pos feeds listed
  have scales := orderly.debt_scales user
  have notEngine := facing.liquidator_ne_engine orderly positive
  have notZero := facing.liquidator_ne_zero orderly positive
  have bonus := @covered_le w collateral (w.engine.dscMinted user) priced
  have total := @payout_le w collateral (w.engine.dscMinted user) priced
  have below := DSCEngine.health_lt_minHealthFactor.mpr unhealthy
  obtain ⟨pays, sweeps, repays⟩ := liquidation_moves reachable listed notEngine notZero enough
    positive (Nat.le_refl _) facing.coins facing.approved
  unfold DSCEngine.precision at scales
  refine ⟨positive, orderly.idle, valued, unhealthy_scales orderly unhealthy, below, ?_,
    (valued.readable collateral listed).choose_spec.2.2.2, orderly.debt_scales user, ?_, ?_, pays,
    sweeps, repays, facing.ends_valued valued, ?_, ?_, facing.liquidator_passes liquidatorValued⟩
  · obtain ⟨round, read, _, positive⟩ := feeds collateral listed
    exact ⟨round, read, positive⟩
  · unfold DSCEngine.liquidationBonus
    omega
  · omega
  · intro owed
    rw [liquidated_minted, Function.update_self, Nat.sub_self] at owed
    exact absurd rfl owed
  · rw [liquidated_clear rfl]
    exact Nat.lt_of_lt_of_le below (by decide)

/-- A deposit worth 1.2 times the debt pays for the debt and its bonus. -/
theorem payout_le_deposit (orderly : w.Orderly) (feeds : w.GoodFeeds)
    (facing : w.Facing liquidator collateral user debtToCover) (worthy : 0 < w.value user)
    (solvent : 12 * w.engine.dscMinted user ≤ 10 * w.value user) :
    w.payout collateral (w.engine.dscMinted user) ≤
      w.engine.collateralDeposited user collateral := by
  have listed := facing.listed worthy
  have priced := price_pos feeds listed
  rw [facing.value_eq orderly listed] at solvent
  have bought : 12 * w.covered collateral (w.engine.dscMinted user) ≤
      10 * w.engine.collateralDeposited user collateral :=
    Pledge.bought_le (Nat.lt_of_lt_of_le (by decide) priced) solvent
  unfold payout DSCEngine.liquidationBonus DSCEngine.liquidationPrecision
  omega

end Facing

end World

/-- A partial liquidation never goes through: of all amounts between a tenth and the whole of the
debt, on a deposit worth at least 1.2 times the debt, only the whole debt can be covered. -/
theorem partial_liquidation_iff {w : World} {liquidator collateral user : Address}
    {debtToCover factor : Nat} (reachable : Reachable w) (feeds : w.GoodFeeds)
    (judged : DSCEngine.healthFactor w user = .ok factor)
    (unhealthy : factor < DSCEngine.minHealthFactor)
    (facing : w.Facing liquidator collateral user debtToCover)
    (solvent : 12 * w.engine.dscMinted user ≤ 10 * w.value user)
    (least : w.engine.dscMinted user ≤ 10 * debtToCover)
    (most : debtToCover ≤ w.engine.dscMinted user) (sizeable : 10 ^ 18 ≤ w.engine.dscMinted user) :
    (∃ after, DSCEngine.liquidate standard liquidator collateral user debtToCover w = .ok after ∧
      after.engine.dscMinted user + debtToCover = w.engine.dscMinted user ∧
      ∃ later, DSCEngine.healthFactor after user = .ok later ∧ factor < later) ↔
    debtToCover = w.engine.dscMinted user ∧ w.Fits liquidator := by
  obtain ⟨valued, _, rfl⟩ := DSCEngine.healthFactor_eq_ok.mp judged
  constructor
  · rintro ⟨after, success, _⟩
    obtain ⟨liquidates, _⟩ := DSCEngine.liquidate_eq_ok.mp success
    exact ⟨facing.whole_debt liquidates,
      valued.iff_fits.mp (facing.liquidator_valued_iff.mp liquidates.passes.valued)⟩
  · rintro ⟨rfl, fits⟩
    have below := DSCEngine.health_lt_minHealthFactor.mp unhealthy
    have worthy : 0 < w.value user := by omega
    have liquidates := World.Facing.liquidates reachable feeds facing valued below worthy
      (facing.payout_le_deposit reachable.orderly feeds worthy solvent)
      (valued.iff_fits.mpr fits)
    refine ⟨_, DSCEngine.liquidate_eq_ok.mpr ⟨liquidates, rfl⟩, ?_, _,
      DSCEngine.healthFactor_eq_ok.mpr ⟨liquidates.ends_valued, liquidates.ends_scales, rfl⟩,
      liquidates.improved⟩
    rw [World.liquidated_minted, Function.update_self, Nat.sub_self, Nat.zero_add]

section Example

open HelperConfig

theorem repriced_facing (price : Nat) {debtToCover : Nat}
    (part : debtToCover ≤ 100 * 10 ^ 18) :
    (repriced price).Facing liquidator weth user debtToCover := by
  have orderly := (repriced_reachable price).orderly
  have owed : (Runs.run step anvil.start indebted).engine.dscMinted user ≠ 0 := by decide +kernel
  have clear : (Runs.run step anvil.start indebted).engine.dscMinted liquidator = 0 := by
    decide +kernel
  have unused : (repriced price).engine.collateralDeposited user wbtc = 0 := by
    rw [repriced_eq]
    change (Runs.run step anvil.start indebted).engine.collateralDeposited user wbtc = 0
    decide +kernel
  have coins : ((Runs.run step anvil.start indebted).tokens
      (Runs.run step anvil.start indebted).engine.dsc).balances liquidator = 100 * 10 ^ 18 := by
    decide +kernel
  have approved : ((Runs.run step anvil.start indebted).tokens
      (Runs.run step anvil.start indebted).engine.dsc).allowances liquidator
        (Runs.run step anvil.start indebted).engineAddress = 100 * 10 ^ 18 := by decide +kernel
  have elsewhere : ∀ token, token ≠ weth →
      (repriced price).engine.collateralDeposited user token = 0 :=
    fun _ other => only_ether_deposited _ orderly unused other
  rw [repriced_eq] at elsewhere ⊢
  exact ⟨owed, elsewhere, clear, part.trans (Nat.le_of_eq coins.symm),
    part.trans (Nat.le_of_eq approved.symm)⟩

theorem repriced_goodFeeds {price : Nat}
    (positive : 0 < (BitVec.ofNat 256 price).toInt) :
    (repriced price).GoodFeeds := by
  have now : (Runs.run step anvil.start indebted).timestamp = 1000000 := by decide +kernel
  have fresh : ∀ round : Round, round.updatedAt = 1000000 →
      (step (Runs.run step anvil.start indebted) (reprice price)).Fresh round := by
    intro round same
    change round.updatedAt ≤ (Runs.run step anvil.start indebted).timestamp ∧
      (Runs.run step anvil.start indebted).timestamp - round.updatedAt ≤ OracleLib.timeout
    rw [now, same]
    decide
  have ether : ∃ round, (repriced price).latestRoundData
      ((repriced price).engine.priceFeeds weth) = .ok round ∧ (repriced price).Fresh round ∧
        0 < round.answer.toInt := by
    rw [repriced_eq]
    exact ⟨_, rfl, fresh _ rfl, positive⟩
  have bitcoin : ∃ round, (repriced price).latestRoundData
      ((repriced price).engine.priceFeeds wbtc) = .ok round ∧ (repriced price).Fresh round ∧
        0 < round.answer.toInt := by
    rw [repriced_eq]
    exact ⟨MockV3Aggregator.deployed btcUsdPrice 1000000, rfl, fresh _ rfl, by decide +kernel⟩
  exact forall_listed (indebted ++ [reprice price]) ether bitcoin

theorem liquidator_fits (price : Nat) : (repriced price).Fits liquidator := by
  have nothing : ∀ token ∈ (repriced price).engine.collateralTokens,
      (repriced price).engine.collateralDeposited liquidator token = 0 := by
    have none :
        (Runs.run step anvil.start indebted).engine.collateralDeposited liquidator weth = 0 ∧
          (Runs.run step anvil.start indebted).engine.collateralDeposited liquidator wbtc = 0 := by
      decide +kernel
    rw [repriced_eq]
    exact forall_listed (indebted ++ [reprice price]) none.1 none.2
  refine ⟨fun token listed => ?_, ?_⟩
  · rw [nothing token listed, Nat.mul_zero]
    exact wordLimit_pos
  · rw [World.value, Pledge.value_eq_zero nothing]
    exact wordLimit_pos

/-- At 18 dollars for an ether, 180 of value against 100 of debt, the whole debt is covered. -/
theorem partial_liquidation_of_whole_debt :
    ∃ after, DSCEngine.liquidate standard liquidator weth user (100 * 10 ^ 18)
        (repriced (18 * 10 ^ 8)) = .ok after ∧
      after.engine.dscMinted user + 100 * 10 ^ 18 =
        (repriced (18 * 10 ^ 8)).engine.dscMinted user ∧
      ∃ later, DSCEngine.healthFactor after user = .ok later ∧ 9 * 10 ^ 17 < later := by
  have owed : (repriced (18 * 10 ^ 8)).engine.dscMinted user = 100 * 10 ^ 18 := by decide +kernel
  have judged : DSCEngine.healthFactor (repriced (18 * 10 ^ 8)) user = .ok (9 * 10 ^ 17) := by
    decide +kernel
  have fits : (repriced (18 * 10 ^ 8)).Fits liquidator :=
    liquidator_fits (18 * 10 ^ 8)
  exact (partial_liquidation_iff (repriced_reachable _) (repriced_goodFeeds (by decide +kernel))
    judged (by decide +kernel) (repriced_facing _ (Nat.le_refl _)) (by decide +kernel)
    (by decide +kernel) (by decide +kernel) (by decide +kernel)).mpr ⟨owed.symm, fits⟩

/-- Half of the same debt is refused. -/
theorem partial_liquidation_refused :
    Reachable (repriced (18 * 10 ^ 8)) ∧ (repriced (18 * 10 ^ 8)).GoodFeeds ∧
      DSCEngine.healthFactor (repriced (18 * 10 ^ 8)) user = .ok (9 * 10 ^ 17) ∧
      (repriced (18 * 10 ^ 8)).Facing liquidator weth user (50 * 10 ^ 18) ∧
      (repriced (18 * 10 ^ 8)).engine.dscMinted user = 100 * 10 ^ 18 ∧
      (repriced (18 * 10 ^ 8)).value user = 180 * 10 ^ 18 ∧
      ∀ after, DSCEngine.liquidate standard liquidator weth user (50 * 10 ^ 18)
        (repriced (18 * 10 ^ 8)) ≠ .ok after := by
  refine ⟨repriced_reachable _, repriced_goodFeeds (by decide +kernel), by decide +kernel,
    repriced_facing _ (by omega), by decide +kernel, by decide +kernel, ?_⟩
  have refused : (DSCEngine.liquidate standard liquidator weth user (50 * 10 ^ 18)
      (repriced (18 * 10 ^ 8))).toBool = false := by decide +kernel
  intro after success
  rw [success] at refused
  cases refused

end Example

/-- An unhealthy position worth more than its debt can be closed exactly when its deposit pays
for the debt with the bonus, and the liquidator's own deposits can be valued. -/
theorem full_liquidation_iff {w : World} {liquidator collateral user : Address}
    {collateralValue : Nat} (reachable : Reachable w) (feeds : w.GoodFeeds)
    (valuation : DSCEngine.getAccountCollateralValue w user = .ok collateralValue)
    (facing : w.Facing liquidator collateral user (w.engine.dscMinted user))
    (solvent : w.engine.dscMinted user < collateralValue)
    (unhealthy : collateralValue < 2 * w.engine.dscMinted user) :
    (∃ after, DSCEngine.liquidate standard liquidator collateral user (w.engine.dscMinted user) w =
        .ok after ∧ after.engine.dscMinted user = 0) ↔
    w.engine.dscMinted user * DSCEngine.precision < w.price collateral *
        ((10 * w.engine.collateralDeposited user collateral + 9) / 11 + 1) ∧
      w.Fits liquidator := by
  obtain ⟨valued, rfl⟩ := DSCEngine.getAccountCollateralValue_eq_ok.mp valuation
  have worthy : 0 < w.value user := by omega
  have priced : 0 < w.price collateral :=
    Nat.lt_of_lt_of_le (by decide) (World.price_pos feeds (facing.listed worthy))
  rw [← World.payout_le_iff priced, ← valued.iff_fits]
  constructor
  · rintro ⟨after, success, _⟩
    obtain ⟨liquidates, _⟩ := DSCEngine.liquidate_eq_ok.mp success
    exact ⟨liquidates.pays.deposited,
      facing.liquidator_valued_iff.mp liquidates.passes.valued⟩
  · rintro ⟨enough, liquidatorValued⟩
    have liquidates := World.Facing.liquidates reachable feeds facing valued unhealthy worthy enough
      liquidatorValued
    refine ⟨_, DSCEngine.liquidate_eq_ok.mpr ⟨liquidates, rfl⟩, ?_⟩
    rw [World.liquidated_minted, Function.update_self, Nat.sub_self]

section Example

open HelperConfig

/-- At 18 dollars for an ether the deposit pays for the debt and its bonus. -/
theorem full_liquidation_at_180_percent :
    ∃ after, DSCEngine.liquidate standard liquidator weth user
        ((repriced (18 * 10 ^ 8)).engine.dscMinted user) (repriced (18 * 10 ^ 8)) = .ok after ∧
      after.engine.dscMinted user = 0 := by
  have owed : (repriced (18 * 10 ^ 8)).engine.dscMinted user = 100 * 10 ^ 18 := by decide +kernel
  have worth : DSCEngine.getAccountCollateralValue (repriced (18 * 10 ^ 8)) user =
      .ok (180 * 10 ^ 18) := by decide +kernel
  have fits : (repriced (18 * 10 ^ 8)).Fits liquidator :=
    liquidator_fits (18 * 10 ^ 8)
  exact (full_liquidation_iff (repriced_reachable _) (repriced_goodFeeds (by decide +kernel))
    worth (repriced_facing _ (Nat.le_of_eq owed)) (by decide +kernel) (by decide +kernel)).mpr
      ⟨by decide +kernel, fits⟩

/-- At 10.50 dollars the position is worth 105 against a debt of 100, and cannot be closed. -/
theorem full_liquidation_refused_at_105_percent :
    Reachable (repriced (1050 * 10 ^ 6)) ∧ (repriced (1050 * 10 ^ 6)).GoodFeeds ∧
      DSCEngine.getAccountCollateralValue (repriced (1050 * 10 ^ 6)) user =
        .ok (105 * 10 ^ 18) ∧
      (repriced (1050 * 10 ^ 6)).Facing liquidator weth user (100 * 10 ^ 18) ∧
      (repriced (1050 * 10 ^ 6)).engine.dscMinted user = 100 * 10 ^ 18 ∧
      ∀ after, DSCEngine.liquidate standard liquidator weth user (100 * 10 ^ 18)
        (repriced (1050 * 10 ^ 6)) ≠ .ok after := by
  refine ⟨repriced_reachable _, repriced_goodFeeds (by decide +kernel), by decide +kernel,
    repriced_facing _ (Nat.le_refl _), by decide +kernel, ?_⟩
  have refused : (DSCEngine.liquidate standard liquidator weth user (100 * 10 ^ 18)
      (repriced (1050 * 10 ^ 6))).toBool = false := by decide +kernel
  intro after success
  rw [success] at refused
  cases refused

end Example

end DscProtocol
