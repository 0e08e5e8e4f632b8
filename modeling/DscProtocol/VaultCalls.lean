import DscProtocol.Exit
import DscProtocol.LiquidationSpec
import DscProtocol.Refinement

set_option autoImplicit false

/- The other half of the refinement: an engine call fails for no other reason than that the vault
forbids its moves, the tokens cannot be paid, or an account cannot be judged. -/
namespace DscProtocol

namespace World

/-- What a call needs of the tokens: what is pulled in is there and approved, and new coins fit
the supply. Nothing is needed to be paid out. -/
def Funded (w : World) (sender : Address) (call : EngineCall) : Prop :=
  match call with
  | .depositCollateral token amount =>
      w.engine.priceFeeds token ≠ 0 ∧
        (w.tokens token).Pulls w.engineAddress sender w.engineAddress amount
  | .depositCollateralAndMintDsc token amountCollateral amountDscToMint =>
      w.engine.priceFeeds token ≠ 0 ∧
        (w.tokens token).Pulls w.engineAddress sender w.engineAddress amountCollateral ∧
        w.supply + amountDscToMint < wordLimit
  | .mintDsc amount => sender ≠ 0 ∧ w.supply + amount < wordLimit
  | .burnDsc amount =>
      (w.tokens w.engine.dsc).Pulls w.engineAddress sender w.engineAddress amount
  | .redeemCollateral _ _ => True
  | .redeemCollateralForDsc _ _ amountDscToBurn =>
      (w.tokens w.engine.dsc).Pulls w.engineAddress sender w.engineAddress amountDscToBurn
  | .liquidate _ _ debtToCover =>
      (w.tokens w.engine.dsc).Pulls w.engineAddress sender w.engineAddress debtToCover

/-- The account can be judged: all listed feeds are good, and no step of its valuation and of its
health factor overflows. -/
structure Judged (w : World) (account : Address) : Prop where
  valued : w.Valued account
  scales : w.Scales account

/-- The accounts a call judges can be judged in the states in which it judges them. -/
def Judgeable (w : World) (sender : Address) (call : EngineCall) : Prop :=
  match call with
  | .depositCollateral _ _ => True
  | .depositCollateralAndMintDsc token amountCollateral amountDscToMint =>
      ((w.received sender token amountCollateral).issued sender amountDscToMint).Judged sender
  | .mintDsc amount => (w.issued sender amount).Judged sender
  | .burnDsc _ => True
  | .redeemCollateral token amount => (w.released sender sender token amount).Judged sender
  | .redeemCollateralForDsc token amountCollateral amountDscToBurn =>
      ((w.repaid sender sender amountDscToBurn).released sender sender token
        amountCollateral).Judged sender
  | .liquidate collateral user debtToCover =>
      w.Judged user ∧ (w.liquidated sender collateral user debtToCover).Judged user ∧
        (w.liquidated sender collateral user debtToCover).Judged sender

variable {w after : World} {sender token account user : Address} {amount : Nat}

namespace Moderate

theorem live (moderate : w.Moderate) : w.LiveFeeds := by
  intro token listed
  obtain ⟨round, read, fresh, nonneg, _⟩ := moderate.feeds token listed
  exact ⟨round, read, fresh, nonneg⟩

theorem computes (moderate : w.Moderate) (reachable : Reachable w) (account : Address) :
    w.Computes account := by
  have within := reachable.deposit_le_supply account
  have valued := @Moderate.valued w account moderate within
  have scales := @Moderate.scales w account moderate within
  refine ⟨?_, valued.product_fits, valued.value_fits, scales.1, scales.2⟩
  intro token listed
  obtain ⟨_, _, _, _, fits⟩ := valued.readable token listed
  exact fits

/-- After a call that takes nothing in every account can be judged. -/
theorem judged (moderate : w.Moderate) (reachable : Reachable w) (same : SameSetting w after)
    (less : ∀ token, after.engine.collateralDeposited account token ≤
      w.engine.collateralDeposited account token) : after.Judged account := by
  have computes := (moderate.computes reachable account).of_le same less
  exact ⟨computes.valued (moderate.live.of_same same), computes.scales⟩

end Moderate

/-- Tokens pulled from an account that is not the engine never overflow its deposit. -/
theorem receives_of_pulls (reachable : Reachable w) (user : sender ≠ w.engineAddress)
    (pulls : (w.tokens token).Pulls w.engineAddress sender w.engineAddress amount) :
    w.Receives sender token amount := by
  refine ⟨?_, pulls⟩
  have sound := reachable.orderly.sound token
  have recorded := reachable.deposit_le_held sender token
  have both := Ledger.add_le_sum (w.tokens token).balances user
  have enough := pulls.enough
  have bounded := sound.bounded
  rw [sound.conserved] at both
  unfold held at recorded
  omega

theorem deposit_iff (reachable : Reachable w) (user : sender ≠ w.engineAddress) :
    (∃ after, DSCEngine.depositCollateral standard sender token amount w = .ok after) ↔
      Vault.Allowed (vaultRules w.engine.collateralTokens) w.vault (.pledge sender token amount) ∧
        w.Funded sender (.depositCollateral token amount) := by
  constructor
  · intro returns
    obtain ⟨after, success⟩ := returns
    obtain ⟨positive, known, _, receives, _⟩ := DSCEngine.depositCollateral_eq_ok.mp success
    exact ⟨positive, known, receives.pulls⟩
  · intro may
    obtain ⟨positive, known, pulls⟩ := may
    exact ⟨_, DSCEngine.depositCollateral_eq_ok.mpr
      ⟨positive, known, reachable.orderly.idle, receives_of_pulls reachable user pulls, rfl⟩⟩

theorem mint_iff (reachable : Reachable w) :
    (∃ after, DSCEngine.mintDsc sender amount w = .ok after) ↔
      Vault.Allowed (vaultRules w.engine.collateralTokens) w.vault (.borrow sender amount) ∧
        w.Funded sender (.mintDsc amount) ∧ w.Judgeable sender (.mintDsc amount) := by
  constructor
  · intro returns
    obtain ⟨after, success⟩ := returns
    obtain ⟨_, issues, passes, _⟩ := DSCEngine.mintDsc_eq_ok.mp success
    exact ⟨(mint_allowed rfl success).1, ⟨issues.account_ne_zero, issues.supply_fits⟩,
      passes.valued, passes.scales⟩
  · intro may
    obtain ⟨⟨positive, line⟩, ⟨real, fits⟩, judged⟩ := may
    have healthy : DSCEngine.minHealthFactor ≤ (w.issued sender amount).health sender := by
      rw [← issued_vault,
        @vault_health (w.issued sender amount) w.engine.collateralTokens rfl] at line
      exact line
    have covered := DSCEngine.minHealthFactor_le_health.mp healthy
    have debt : (w.issued sender amount).engine.dscMinted sender =
        w.engine.dscMinted sender + amount := Function.update_self _ _ _
    have word := judged.valued.value_fits
    have issues : w.Issues sender amount :=
      ⟨by omega, reachable.orderly.owned, real, positive, fits⟩
    exact ⟨_, DSCEngine.mintDsc_eq_ok.mpr ⟨reachable.orderly.idle, issues,
      ⟨judged.valued, judged.scales, healthy⟩, rfl⟩⟩

theorem burn_iff (reachable : Reachable w) :
    (∃ after, DSCEngine.burnDsc sender amount w = .ok after) ↔
      Vault.Allowed (vaultRules w.engine.collateralTokens) w.vault (.repay sender amount) ∧
        w.Funded sender (.burnDsc amount) := by
  constructor
  · intro returns
    obtain ⟨after, success⟩ := returns
    obtain ⟨repays, _⟩ := DSCEngine.burnDsc_eq_ok.mp success
    exact ⟨⟨repays.positive, repays.owed⟩, repays.pulls⟩
  · intro may
    obtain ⟨⟨positive, owed⟩, pulls⟩ := may
    have repays : w.Repays sender sender amount :=
      ⟨owed, pulls, reachable.orderly.owned, positive, pulled_held reachable.orderly pulls⟩
    exact ⟨_, DSCEngine.burnDsc_eq_ok.mpr ⟨repays, rfl⟩⟩

theorem redeem_iff (reachable : Reachable w) :
    (∃ after, DSCEngine.redeemCollateral standard sender token amount w = .ok after) ↔
      Vault.Allowed (vaultRules w.engine.collateralTokens) w.vault (.take sender token amount) ∧
        w.Judgeable sender (.redeemCollateral token amount) := by
  constructor
  · intro returns
    obtain ⟨after, success⟩ := returns
    obtain ⟨_, _, _, passes, _⟩ := DSCEngine.redeemCollateral_eq_ok.mp success
    exact ⟨(redeem_allowed rfl success).1, passes.valued, passes.scales⟩
  · intro may
    obtain ⟨⟨positive, deposited, line⟩, judged⟩ := may
    have orderly := reachable.orderly
    have some : amount ≤ w.engine.collateralDeposited sender token := deposited
    have real := (orderly.deposit_real sender token (by omega)).1
    have releases : w.Releases sender sender token amount :=
      ⟨some, orderly.engine_ne_zero, real, some.trans (reachable.deposit_le_held sender token)⟩
    have healthy : DSCEngine.minHealthFactor ≤
        (w.released sender sender token amount).health sender := by
      rw [← @released_vault w sender sender token amount, @vault_health
        (w.released sender sender token amount) w.engine.collateralTokens rfl] at line
      exact line
    exact ⟨_, DSCEngine.redeemCollateral_eq_ok.mpr ⟨positive, orderly.idle, releases,
      ⟨judged.valued, judged.scales, healthy⟩, rfl⟩⟩

/-- A price that counts is that of a feed with a positive answer. -/
theorem priced_of_pos (counts : 0 < w.price token) :
    ∃ round, w.latestRoundData (w.engine.priceFeeds token) = .ok round ∧
      0 < round.answer.toInt := by
  unfold price at counts
  split at counts
  · rename_i round read
    refine ⟨round, read, ?_⟩
    by_contra low
    rw [Int.toNat_of_nonpos (by omega), Nat.zero_mul] at counts
    omega
  · omega

/-- What a covered debt buys is far from overflowing: a price is at least one unit of answer. -/
theorem payout_word (priced : 0 < w.price token)
    (scales : amount * DSCEngine.precision < wordLimit) :
    w.covered token amount * DSCEngine.liquidationBonus < wordLimit ∧
      w.payout token amount < wordLimit := by
  obtain ⟨round, read, positive⟩ := priced_of_pos priced
  have unit : DSCEngine.additionalFeedPrecision ≤ w.price token := by
    rw [price_of_round read]
    exact Nat.le_mul_of_pos_left _ (by omega)
  have bought : w.covered token amount * w.price token ≤ amount * DSCEngine.precision :=
    Nat.div_mul_le_self _ _
  have least := Nat.mul_le_mul_left (w.covered token amount) unit
  rw [payout_eq_tenth]
  unfold DSCEngine.additionalFeedPrecision at least
  unfold DSCEngine.liquidationBonus
  omega

theorem liquidate_iff (reachable : Reachable w) (notEngine : sender ≠ w.engineAddress) :
    (∃ after, DSCEngine.liquidate standard sender token user amount w = .ok after) ↔
      Vault.Allowed (vaultRules w.engine.collateralTokens) w.vault
          (.close sender user token amount) ∧
        w.Funded sender (.liquidate token user amount) ∧
        w.Judgeable sender (.liquidate token user amount) := by
  have orderly := reachable.orderly
  constructor
  · intro returns
    obtain ⟨after, success⟩ := returns
    have allowed := (liquidate_allowed rfl success).1
    obtain ⟨liquidates, _⟩ := DSCEngine.liquidate_eq_ok.mp success
    obtain ⟨round, read, _⟩ := liquidates.priced
    have apart : w.engine.dsc ≠ token :=
      (orderly.listed_ne_dsc (listed_of_read orderly read)).symm
    have pulls : ((w.swept sender token user amount).tokens w.engine.dsc).Pulls w.engineAddress
        sender w.engineAddress amount := liquidates.repays.pulls
    rw [swept_tokens_of_ne apart] at pulls
    exact ⟨allowed, pulls, ⟨liquidates.valued, liquidates.scales⟩,
      ⟨liquidates.ends_valued, liquidates.ends_scales⟩,
      ⟨liquidates.passes.valued, liquidates.passes.scales⟩⟩
  · intro may
    obtain ⟨⟨positive, unhealthy, counts, affordable, owed, improved, line⟩, pulls, before, ends,
      own⟩ := may
    have judged : ∀ account, (w.liquidated sender token user amount).vault.health
        (vaultRules w.engine.collateralTokens) account =
          (w.liquidated sender token user amount).health account := fun account =>
      @vault_health (w.liquidated sender token user amount) w.engine.collateralTokens rfl account
    rw [← liquidated_vault, judged] at improved line
    have debt : amount ≤ w.engine.dscMinted user := owed
    have scales : amount * DSCEngine.precision < wordLimit :=
      Nat.lt_of_le_of_lt (Nat.mul_le_mul_right _ debt) (orderly.debt_scales user)
    have approved : amount ≤ (w.tokens w.engine.dsc).allowances sender w.engineAddress := by
      rcases pulls.allowed with unlimited | ⟨within, _, _⟩
      · unfold DSCEngine.precision wordLimit at scales
        rw [unlimited, uint256Max, wordLimit]
        omega
      · exact within
    obtain ⟨round, read, answered⟩ := priced_of_pos counts
    have listed := listed_of_read orderly read
    obtain ⟨_, _, _, _, price_fits⟩ := before.valued.readable token listed
    obtain ⟨bonus_fits, payout_fits⟩ := payout_word counts scales
    obtain ⟨pays, sweeps, repays⟩ := liquidation_moves reachable listed notEngine
      pulls.source_ne_zero affordable positive debt pulls.enough approved
    have liquidates : w.Liquidates sender token user amount :=
      ⟨positive, orderly.idle, before.valued, before.scales, unhealthy, ⟨round, read, answered⟩,
        price_fits, scales, bonus_fits, payout_fits, pays, sweeps, repays, ends.valued,
        ends.scales, improved, own.valued, own.scales, line⟩
    exact ⟨_, DSCEngine.liquidate_eq_ok.mpr ⟨liquidates, rfl⟩⟩

/-- The combined calls, each through the state in between. -/
theorem depositAndMint_iff {amountDscToMint : Nat} (reachable : Reachable w)
    (user : sender ≠ w.engineAddress) :
    (∃ after, DSCEngine.depositCollateralAndMintDsc standard sender token amount amountDscToMint w =
        .ok after) ↔
      Runs.Along Vault.apply (Vault.Allowed (vaultRules w.engine.collateralTokens)) w.vault
          [.pledge sender token amount, .borrow sender amountDscToMint] ∧
        w.Funded sender (.depositCollateralAndMintDsc token amount amountDscToMint) ∧
        w.Judgeable sender (.depositCollateralAndMintDsc token amount amountDscToMint) := by
  have supply : (w.received sender token amount).supply = w.supply :=
    @supply_setToken (w.setDeposited sender token _) token _ ERC20.pulled_totalSupply
  constructor
  · intro returns
    obtain ⟨after, success⟩ := returns
    obtain ⟨middle, deposited, minted⟩ := DSCEngine.depositCollateralAndMintDsc_eq_ok.mp success
    have reached := @Reachable.returned w middle sender (.depositCollateral token amount)
      reachable user deposited
    obtain ⟨first, known, pulls⟩ := (deposit_iff reachable user).mp ⟨middle, deposited⟩
    obtain ⟨_, halfway, same⟩ := @deposit_allowed w middle sender token amount [] deposited
    have second := (mint_allowed same.collateralTokens minted).1
    rw [← halfway] at second
    obtain ⟨_, ⟨_, fits⟩, judged⟩ := (mint_iff reached).mp ⟨after, minted⟩
    obtain ⟨_, _, _, _, rfl⟩ := DSCEngine.depositCollateral_eq_ok.mp deposited
    rw [supply] at fits
    exact ⟨⟨first, second, trivial⟩, ⟨known, pulls, fits⟩, judged⟩
  · intro may
    obtain ⟨⟨first, second, _⟩, ⟨known, pulls, fits⟩, judged⟩ := may
    obtain ⟨middle, deposited⟩ := (deposit_iff reachable user).mpr ⟨first, known, pulls⟩
    have reached := @Reachable.returned w middle sender (.depositCollateral token amount)
      reachable user deposited
    obtain ⟨_, halfway, same⟩ := @deposit_allowed w middle sender token amount [] deposited
    rw [halfway, ← same.collateralTokens] at second
    obtain ⟨_, _, _, _, rfl⟩ := DSCEngine.depositCollateral_eq_ok.mp deposited
    rw [← supply] at fits
    obtain ⟨after, minted⟩ :=
      (mint_iff reached).mpr ⟨second, ⟨pulls.source_ne_zero, fits⟩, judged⟩
    exact ⟨after, DSCEngine.depositCollateralAndMintDsc_eq_ok.mpr ⟨_, deposited, minted⟩⟩

theorem burnAndRedeem_iff {amountDscToBurn : Nat} (reachable : Reachable w)
    (user : sender ≠ w.engineAddress) :
    (∃ after, DSCEngine.redeemCollateralForDsc standard sender token amount amountDscToBurn w =
        .ok after) ↔
      Runs.Along Vault.apply (Vault.Allowed (vaultRules w.engine.collateralTokens)) w.vault
          [.repay sender amountDscToBurn, .take sender token amount] ∧
        w.Funded sender (.redeemCollateralForDsc token amount amountDscToBurn) ∧
        w.Judgeable sender (.redeemCollateralForDsc token amount amountDscToBurn) := by
  constructor
  · intro returns
    obtain ⟨after, success⟩ := returns
    obtain ⟨middle, burned, redeemed⟩ := DSCEngine.redeemCollateralForDsc_eq_ok.mp success
    have reached := @Reachable.returned w middle sender (.burnDsc amountDscToBurn) reachable user
      burned
    obtain ⟨first, pulls⟩ := (burn_iff reachable).mp ⟨middle, burned⟩
    obtain ⟨_, halfway, same⟩ := @burn_allowed w middle sender amountDscToBurn [] burned
    have second := (redeem_allowed same.collateralTokens redeemed).1
    rw [← halfway] at second
    have judged := ((redeem_iff reached).mp ⟨after, redeemed⟩).2
    obtain ⟨_, rfl⟩ := DSCEngine.burnDsc_eq_ok.mp burned
    exact ⟨⟨first, second, trivial⟩, pulls, judged⟩
  · intro may
    obtain ⟨⟨first, second, _⟩, pulls, judged⟩ := may
    obtain ⟨middle, burned⟩ := (burn_iff reachable).mpr ⟨first, pulls⟩
    have reached := @Reachable.returned w middle sender (.burnDsc amountDscToBurn) reachable user
      burned
    obtain ⟨_, halfway, same⟩ := @burn_allowed w middle sender amountDscToBurn [] burned
    rw [halfway, ← same.collateralTokens] at second
    obtain ⟨_, rfl⟩ := DSCEngine.burnDsc_eq_ok.mp burned
    obtain ⟨after, redeemed⟩ := (redeem_iff reached).mpr ⟨second, judged⟩
    exact ⟨after, DSCEngine.redeemCollateralForDsc_eq_ok.mpr ⟨_, burned, redeemed⟩⟩

end World

/-- In every reachable state a call of a user succeeds exactly when the vault allows its moves, what
it pulls in is there and approved, and the accounts it judges can be judged; taking collateral out
needs no funds at all. -/
theorem call_succeeds_iff {w : World} {sender : Address} {call : EngineCall}
    (reachable : Reachable w) (user : sender ≠ w.engineAddress) :
    (∃ after, call.exec standard sender w = .ok after) ↔
      Runs.Along Vault.apply (Vault.Allowed (vaultRules w.engine.collateralTokens)) w.vault
          (call.moves sender) ∧
        w.Funded sender call ∧ w.Judgeable sender call := by
  cases call with
  | depositCollateral token amount =>
      simp only [EngineCall.moves, Runs.Along, World.Judgeable, and_true]
      exact World.deposit_iff reachable user
  | depositCollateralAndMintDsc token amountCollateral amountDscToMint =>
      exact World.depositAndMint_iff reachable user
  | mintDsc amount =>
      simp only [EngineCall.moves, Runs.Along, and_true]
      exact World.mint_iff reachable
  | burnDsc amount =>
      simp only [EngineCall.moves, Runs.Along, World.Judgeable, and_true]
      exact World.burn_iff reachable
  | redeemCollateral token amount =>
      simp only [EngineCall.moves, Runs.Along, World.Funded, and_true, true_and]
      exact World.redeem_iff reachable
  | redeemCollateralForDsc token amountCollateral amountDscToBurn =>
      exact World.burnAndRedeem_iff reachable user
  | liquidate collateral user' debtToCover =>
      simp only [EngineCall.moves, Runs.Along, and_true]
      exact World.liquidate_iff reachable user

section Example

open HelperConfig

/-- The deployer of the exit example takes out its 5 ether: the vault allows it, so the call
goes through. -/
theorem call_succeeds_occupied :
    ∃ after, EngineCall.exec standard deployer (.redeemCollateral weth (5 * 10 ^ 18)) occupied =
      .ok after := by
  apply (call_succeeds_iff occupied_reachable (by decide +kernel)).mpr
  have judged := @World.Moderate.judged occupied _ deployer occupied_moderate occupied_reachable
    (World.SameSetting.released occupied deployer deployer weth (5 * 10 ^ 18))
    (@Ledger.assign_le _ _ _ _ occupied.engine.collateralDeposited deployer weth
      (occupied.engine.collateralDeposited deployer weth - 5 * 10 ^ 18) (Nat.sub_le _ _) deployer)
  refine ⟨⟨⟨by decide, by decide +kernel, ?_⟩, trivial⟩, trivial, judged⟩
  have tokens : occupied.engine.collateralTokens = [weth, wbtc] := anvil_tokens _
  rw [tokens]
  decide +kernel

end Example

end DscProtocol
