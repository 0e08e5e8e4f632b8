import DscProtocol.EngineEffects
import DscProtocol.HelperConfig

set_option autoImplicit false

/- The two price conversions: how they round against each other, what the liquidator is paid,
on which rounds they agree and for which units they are right. -/
namespace DscProtocol

open DSCEngine

variable {w : World} {token collateral : Address} {round : Round} {amount usd debtToCover pay : Nat}

namespace DSCEngine

/-- The payout of `liquidate`, read off its code. -/
theorem liquidate_pays (code : TokenCode) (sender collateral user : Address) (debtToCover : Nat)
    (w : World) :
    liquidate code sender collateral user debtToCover w = (do
      moreThanZero debtToCover
      ReentrancyGuard.nonReentrant (fun w => do
        let startingUserHealthFactor ← healthFactor w user
        Checked.require (¬ minHealthFactor ≤ startingUserHealthFactor)
          (.engine .healthFactorIsFine)
        let totalCollateralToRedeem ← totalCollateralToRedeem w collateral debtToCover
        let w ← redeemCollateralInternal code user sender collateral totalCollateralToRedeem w
        let w ← sentAmountLeftToDscPool code user collateral w
        let w ← burnDscInternal user sender debtToCover w
        let endingUserHealthFactor ← healthFactor w user
        Checked.require (¬ endingUserHealthFactor ≤ startingUserHealthFactor)
          (.engine .healthFactoNotImproved)
        revertIfHealthFactorIsBroken w sender
        .ok w) w) := by
  simp only [liquidate, totalCollateralToRedeem, bind_assoc]

theorem totalCollateralToRedeem_eq_ok :
    totalCollateralToRedeem w collateral debtToCover = .ok pay ↔
      (∃ round, w.latestRoundData (w.engine.priceFeeds collateral) = .ok round ∧
        0 < round.answer.toInt) ∧
      w.price collateral < wordLimit ∧ debtToCover * precision < wordLimit ∧
      w.covered collateral debtToCover * liquidationBonus < wordLimit ∧
      w.payout collateral debtToCover < wordLimit ∧ pay = w.payout collateral debtToCover := by
  simp only [totalCollateralToRedeem, Checked.bind_eq_ok, getTokenAmountFromUsd_eq_ok,
    Checked.mul_eq_ok, Checked.div_eq_ok, Checked.add_eq_ok]
  constructor
  · intro returned
    obtain ⟨_, ⟨priced, scaled, fits, rfl⟩, _, ⟨bonus, rfl⟩, _, ⟨_, rfl⟩, total, same⟩ := returned
    exact ⟨priced, scaled, fits, bonus, total, same⟩
  · intro conditions
    obtain ⟨priced, scaled, fits, bonus, total, same⟩ := conditions
    exact ⟨_, ⟨priced, scaled, fits, rfl⟩, _, ⟨bonus, rfl⟩, _, ⟨by decide, rfl⟩, total, same⟩

end DSCEngine

namespace World

theorem payout_eq_withBonus :
    w.payout collateral debtToCover = Pledge.withBonus liquidationBonus liquidationPrecision
      (Pledge.bought precision (w.price collateral) debtToCover) := rfl

theorem price_pos_of_round (read : w.latestRoundData (w.engine.priceFeeds token) = .ok round)
    (positive : 0 < round.answer.toInt) : 0 < w.price token := by
  rw [price_of_round read]
  unfold additionalFeedPrecision
  omega

/-- The payout is worth at most 110% of the debt covered: both floors favour the user. -/
theorem payout_worth_le :
    10 * (w.price collateral * w.payout collateral debtToCover) ≤
      11 * (debtToCover * precision) := by
  have bonus := @Pledge.den_mul_withBonus_le liquidationBonus liquidationPrecision
    (w.covered collateral debtToCover)
  change 100 * w.payout collateral debtToCover ≤ 110 * w.covered collateral debtToCover at bonus
  have bought : w.price collateral * w.covered collateral debtToCover ≤ debtToCover * precision :=
    Pledge.price_mul_bought_le
  have scaled := Nat.mul_le_mul_left (w.price collateral)
    (show 10 * w.payout collateral debtToCover ≤ 11 * w.covered collateral debtToCover by omega)
  rw [Nat.mul_left_comm, Nat.mul_left_comm _ 11] at scaled
  omega

/-- It is short of that by less than two base units. -/
theorem lt_payout_worth (priced : 0 < w.price collateral) :
    11 * (debtToCover * precision) <
      10 * (w.price collateral * w.payout collateral debtToCover) + 20 * w.price collateral := by
  have bonus := @Pledge.lt_den_mul_withBonus liquidationBonus liquidationPrecision
    (w.covered collateral debtToCover) (by decide)
  change 110 * w.covered collateral debtToCover < 100 * w.payout collateral debtToCover + 100
    at bonus
  have bought : debtToCover * precision <
      w.price collateral * w.covered collateral debtToCover + w.price collateral :=
    Pledge.lt_price_mul_bought priced
  have scaled := Nat.mul_le_mul_left (w.price collateral)
    (show 11 * w.covered collateral debtToCover ≤ 10 * w.payout collateral debtToCover + 9 by
      omega)
  rw [Nat.mul_add, Nat.mul_left_comm, Nat.mul_left_comm _ 10] at scaled
  omega

/-- Covering a debt in two parts never pays more than covering it at once. -/
theorem payout_add_le (first second : Nat) :
    w.payout collateral first + w.payout collateral second ≤
      w.payout collateral (first + second) := by
  simp only [payout_eq_withBonus]
  apply Nat.le_trans (Pledge.withBonus_add_le _ _ _ _)
  apply Pledge.withBonus_mono
  exact Pledge.bought_add_le precision (w.price collateral) first second

end World

/-- Liquidation never overpays, at any positive answer and for any amount. What `liquidate` has
redeemed for its caller, whoever that is and whatever the token's code, is worth at most 110% of
what is burned, less than two base units short of it, and never more for being split. -/
theorem liquidation_never_overpays {w : World} {collateral : Address} {debtToCover pay : Nat}
    (paid : totalCollateralToRedeem w collateral debtToCover = .ok pay) :
    (∀ code sender user, liquidate code sender collateral user debtToCover w = (do
      moreThanZero debtToCover
      ReentrancyGuard.nonReentrant (fun w => do
        let startingUserHealthFactor ← healthFactor w user
        Checked.require (¬ minHealthFactor ≤ startingUserHealthFactor)
          (.engine .healthFactorIsFine)
        let w ← redeemCollateralInternal code user sender collateral pay w
        let w ← sentAmountLeftToDscPool code user collateral w
        let w ← burnDscInternal user sender debtToCover w
        let endingUserHealthFactor ← healthFactor w user
        Checked.require (¬ endingUserHealthFactor ≤ startingUserHealthFactor)
          (.engine .healthFactoNotImproved)
        revertIfHealthFactorIsBroken w sender
        .ok w) w)) ∧
    10 * (w.price collateral * pay) ≤ 11 * (debtToCover * precision) ∧
      11 * (debtToCover * precision) <
        10 * (w.price collateral * pay) + 20 * w.price collateral ∧
      ∀ more payMore payBoth, totalCollateralToRedeem w collateral more = .ok payMore →
        totalCollateralToRedeem w collateral (debtToCover + more) = .ok payBoth →
        pay + payMore ≤ payBoth := by
  have redeems : totalCollateralToRedeem (w.setStatus .entered) collateral debtToCover =
      .ok pay := paid
  constructor
  · intro code sender user
    rw [liquidate_pays]
    unfold ReentrancyGuard.nonReentrant ReentrancyGuard.nonReentrantBefore
    simp only [bind_assoc, Checked.ok_bind, redeems]
  · obtain ⟨⟨round, read, positive⟩, _, _, _, _, rfl⟩ := totalCollateralToRedeem_eq_ok.mp paid
    refine ⟨World.payout_worth_le, World.lt_payout_worth (World.price_pos_of_round read positive),
      ?_⟩
    intro more payMore payBoth paidMore paidBoth
    obtain ⟨_, _, _, _, _, rfl⟩ := totalCollateralToRedeem_eq_ok.mp paidMore
    obtain ⟨_, _, _, _, _, rfl⟩ := totalCollateralToRedeem_eq_ok.mp paidBoth
    exact World.payout_add_le debtToCover more

section Example

open HelperConfig

/-- A third of a dollar at 2000 dollars for an ether. -/
theorem liquidation_never_overpays_a_third :
    totalCollateralToRedeem anvil.start weth 333333333333333333 = .ok 183333333333332 ∧
      10 * (anvil.start.price weth * 183333333333332) ≤
        11 * (333333333333333333 * precision) := by
  have paid : totalCollateralToRedeem anvil.start weth 333333333333333333 =
      .ok 183333333333332 := by decide +kernel
  exact ⟨paid, (liquidation_never_overpays paid).2.1⟩

end Example

/-- The purpose of the two conversions: what one returns the other accepts and takes back, up to
the rounding of a single base unit. -/
def World.ConversionsAgree (w : World) (token : Address) (usd : Nat) : Prop :=
  ∀ amount, getTokenAmountFromUsd w token usd = .ok amount →
    (∃ round, OracleLib.stalePriceCheckLatestRoundData w (w.engine.priceFeeds token) =
      .ok round) ∧
    ∃ value, getUsdValue w token amount = .ok value ∧ value ≤ usd ∧
      usd * precision < (value + 1) * precision + w.price token

/-- They agree exactly on rounds that are neither stale nor from the future, and where the first
conversion returns nothing: the raw read of the feed is the only gap. -/
theorem conversions_agree_iff (w : World) (token : Address) (usd : Nat) :
    w.ConversionsAgree token usd ↔
      ∀ round, w.latestRoundData (w.engine.priceFeeds token) = .ok round →
        0 < round.answer.toInt → w.price token < wordLimit → usd * precision < wordLimit →
        w.Fresh round := by
  constructor
  · intro agree round read positive priced fits
    obtain ⟨⟨checked, accepted⟩, _⟩ := agree _
      (getTokenAmountFromUsd_eq_ok.mpr ⟨⟨round, read, positive⟩, priced, fits, rfl⟩)
    obtain ⟨same, fresh⟩ := OracleLib.stalePriceCheckLatestRoundData_eq_ok.mp accepted
    rw [read] at same
    cases same
    exact fresh
  · intro condition amount returned
    obtain ⟨⟨round, read, positive⟩, priced, fits, rfl⟩ :=
      getTokenAmountFromUsd_eq_ok.mp returned
    have fresh := condition round read positive priced fits
    have bought : w.price token * Pledge.bought precision (w.price token) usd ≤ usd * precision :=
      Pledge.price_mul_bought_le
    have readable : w.Readable token := ⟨round, read, fresh, Int.le_of_lt positive, priced⟩
    refine ⟨⟨round, OracleLib.stalePriceCheckLatestRoundData_eq_ok.mpr ⟨read, fresh⟩⟩, _,
      getUsdValue_eq_ok.mpr ⟨readable, Nat.lt_of_le_of_lt bought fits, rfl⟩, ?_, ?_⟩
    · exact Pledge.worth_bought_le (by decide)
    · exact Pledge.lt_worth_bought (by decide) (World.price_pos_of_round read positive)

section Example

open HelperConfig

/-- Four hours after the last answer 100 dollars still convert to 0.05 ether, which cannot be
converted back. -/
theorem stale_conversions_disagree :
    Reachable (Runs.run step anvil.start [.advance (4 * 3600)]) ∧
      getTokenAmountFromUsd (Runs.run step anvil.start [.advance (4 * 3600)]) weth
        (100 * 10 ^ 18) = .ok (5 * 10 ^ 16) ∧
      getUsdValue (Runs.run step anvil.start [.advance (4 * 3600)]) weth (5 * 10 ^ 16) =
        .error (.oracle .stalePrice) ∧
      ¬ (Runs.run step anvil.start [.advance (4 * 3600)]).ConversionsAgree weth
        (100 * 10 ^ 18) := by
  have returned : getTokenAmountFromUsd (Runs.run step anvil.start [.advance (4 * 3600)]) weth
      (100 * 10 ^ 18) = .ok (5 * 10 ^ 16) := by decide +kernel
  have refused : getUsdValue (Runs.run step anvil.start [.advance (4 * 3600)]) weth
      (5 * 10 ^ 16) = .error (.oracle .stalePrice) := by decide +kernel
  refine ⟨⟨anvil, anvil.start, _, anvil.run_ok, by decide +kernel, rfl⟩, returned, refused, ?_⟩
  intro agree
  obtain ⟨_, value, valued, _⟩ := agree _ returned
  rw [refused] at valued
  cases valued

end Example

/-- The purpose of the scaling for a token and a feed with so many decimals: amounts are valued
in 18-decimal dollars, and dollars converted to base units. -/
structure World.UnitsRespected (w : World) (token : Address) (answer decimals feedDecimals : Nat) :
    Prop where
  value : ∀ amount, w.price token * amount < wordLimit →
    getUsdValue w token amount =
      .ok (answer * amount * 10 ^ 18 / (10 ^ feedDecimals * 10 ^ decimals))
  amount : ∀ usd, usd * precision < wordLimit →
    getTokenAmountFromUsd w token usd =
      .ok (usd * (10 ^ feedDecimals * 10 ^ decimals) / (answer * 10 ^ 18))

/-- Two scalings by powers of ten give the same floor of a number that counts only if they are
the same. -/
theorem scaling_unique {scaled decimals : Nat} (counts : 10 ^ 8 ≤ scaled)
    (same : scaled * 10 ^ 10 / 10 ^ 18 = scaled * 10 ^ 18 / 10 ^ decimals) : decimals = 26 := by
  by_contra other
  rcases Nat.lt_or_gt_of_ne other with fewer | more
  · have least := @Nat.div_le_div_left _ _ (scaled * 10 ^ 18)
      (Nat.pow_le_pow_right (by decide : 0 < 10) (show decimals ≤ 25 by omega))
      (Nat.pow_pos (by decide))
    omega
  · have most := @Nat.div_le_div_left _ _ (scaled * 10 ^ 18)
      (Nat.pow_le_pow_right (by decide : 0 < 10) (show 27 ≤ decimals by omega))
      (by decide)
    omega

/-- At any answer some amount is worth something and does not overflow. -/
theorem counting_amount {answer : Nat} (answered : 0 < answer)
    (priced : answer * 10 ^ 10 < wordLimit) :
    ∃ amount, answer * 10 ^ 10 * amount < wordLimit ∧ 10 ^ 8 ≤ answer * amount := by
  by_cases small : answer * 10 ^ 10 * 10 ^ 8 < wordLimit
  · exact ⟨10 ^ 8, small, by omega⟩
  · refine ⟨1, by omega, ?_⟩
    unfold wordLimit at small
    omega

/-- At any positive answer the units are respected exactly where token and feed have 26 decimals
together, as with 18 and 8. -/
theorem units_respected_iff {w : World} {token : Address} {round : Round}
    {decimals feedDecimals : Nat}
    (read : w.latestRoundData (w.engine.priceFeeds token) = .ok round) (fresh : w.Fresh round)
    (positive : 0 < round.answer.toInt) (priced : w.price token < wordLimit) :
    w.UnitsRespected token round.answer.toInt.toNat decimals feedDecimals ↔
      decimals + feedDecimals = 26 := by
  have readable : w.Readable token := ⟨round, read, fresh, Int.le_of_lt positive, priced⟩
  have price : w.price token = round.answer.toInt.toNat * 10 ^ 10 := price_of_round read
  have answered : 0 < round.answer.toInt.toNat := by omega
  have valued : ∀ amount, w.price token * amount < wordLimit → getUsdValue w token amount =
      .ok (round.answer.toInt.toNat * amount * 10 ^ 10 / 10 ^ 18) := by
    intro amount fits
    apply getUsdValue_eq_ok.mpr
    refine ⟨readable, fits, ?_⟩
    rw [Pledge.worth, price, Nat.mul_right_comm]
    rfl
  rw [Nat.add_comm]
  constructor
  · intro respected
    obtain ⟨amount, fits, counts⟩ := counting_amount answered (price ▸ priced)
    rw [← price] at fits
    have both := respected.value amount fits
    rw [valued amount fits, ← Nat.pow_add] at both
    exact scaling_unique counts (Except.ok.inj both)
  · intro together
    refine ⟨?_, ?_⟩
    · intro amount fits
      rw [valued amount fits, ← Nat.pow_add, together]
      apply congrArg Except.ok
      omega
    · intro usd fits
      apply getTokenAmountFromUsd_eq_ok.mpr
      refine ⟨⟨round, read, positive⟩, priced, fits, ?_⟩
      rw [← Nat.pow_add, together, price]
      have widened : usd * 10 ^ 26 / (round.answer.toInt.toNat * 10 ^ 18) =
          usd * 10 ^ 18 * 10 ^ 8 / (round.answer.toInt.toNat * 10 ^ 10 * 10 ^ 8) := by
        simp only [Nat.mul_assoc, ← Nat.pow_add]
      rw [widened, Nat.mul_div_mul_right _ _ (by decide)]
      rfl

section Example

open HelperConfig

theorem units_respected_of_ether :
    anvil.start.UnitsRespected weth (2000 * 10 ^ 8) 18 8 :=
  (@units_respected_iff anvil.start weth (MockV3Aggregator.deployed ethUsdPrice 1000000) 18 8
    rfl (by decide +kernel) (by decide +kernel) (by decide +kernel)).mpr rfl

/-- On Sepolia one bitcoin, with 8 decimals on a feed with 8, counts as 2e12 instead of 2e22. -/
theorem units_of_bitcoin_ignored :
    getUsdValue sepolia.start getSepoliaEthConfig.wbtc (10 ^ 8) = .ok (2 * 10 ^ 12) ∧
      ¬ sepolia.start.UnitsRespected getSepoliaEthConfig.wbtc (20000 * 10 ^ 8) 8 8 := by
  have returned : getUsdValue sepolia.start getSepoliaEthConfig.wbtc (10 ^ 8) =
      .ok (2 * 10 ^ 12) := by decide +kernel
  refine ⟨returned, ?_⟩
  intro respected
  have value := respected.value (10 ^ 8) (by decide +kernel)
  rw [returned] at value
  have same := Except.ok.inj value
  omega

end Example

end DscProtocol
