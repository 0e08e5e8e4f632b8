import DscProtocol.TokenLedger
import DscProtocol.Valuation

set_option autoImplicit false

/- Each entry point of the engine on standard tokens: exactly when it succeeds, and the state
it leaves written out as an update of the state it found. -/
namespace DscProtocol

namespace World

/-- `depositCollateral`: the deposit is credited and the tokens are pulled in. -/
def received (w : World) (sender token : Address) (amount : Nat) : World :=
  (w.setDeposited sender token (w.engine.collateralDeposited sender token + amount)).setToken token
    ((w.tokens token).pulled w.engineAddress sender w.engineAddress amount)

/-- `_redeemCollateral`: the deposit is debited and the tokens are paid out. -/
def released (w : World) (source target token : Address) (amount : Nat) : World :=
  (w.setDeposited source token (w.engine.collateralDeposited source token - amount)).setToken token
    ((w.tokens token).moved w.engineAddress target amount)

/-- `mintDsc`: debt and coins grow together. -/
def issued (w : World) (account : Address) (amount : Nat) : World :=
  (w.setMinted account (w.engine.dscMinted account + amount)).setToken w.engine.dsc
    ((w.tokens w.engine.dsc).minted account amount)

/-- `_burnDsc`: one account's debt falls, coins pulled from a possibly different account are
burned from the engine's own balance. -/
def repaid (w : World) (onBehalfOf dscFrom : Address) (amount : Nat) : World :=
  (w.setMinted onBehalfOf (w.engine.dscMinted onBehalfOf - amount)).setToken w.engine.dsc
    (((w.tokens w.engine.dsc).pulled w.engineAddress dscFrom w.engineAddress amount).burned
      w.engineAddress amount)

structure Receives (w : World) (sender token : Address) (amount : Nat) : Prop where
  fits : w.engine.collateralDeposited sender token + amount < wordLimit
  pulls : (w.tokens token).Pulls w.engineAddress sender w.engineAddress amount

structure Releases (w : World) (source target token : Address) (amount : Nat) : Prop where
  deposited : amount ≤ w.engine.collateralDeposited source token
  engine_ne_zero : w.engineAddress ≠ 0
  target_ne_zero : target ≠ 0
  enough : amount ≤ (w.tokens token).balances w.engineAddress

structure Issues (w : World) (account : Address) (amount : Nat) : Prop where
  debt_fits : w.engine.dscMinted account + amount < wordLimit
  owned : w.dscOwner = w.engineAddress
  account_ne_zero : account ≠ 0
  positive : 0 < amount
  supply_fits : (w.tokens w.engine.dsc).totalSupply + amount < wordLimit

structure Repays (w : World) (onBehalfOf dscFrom : Address) (amount : Nat) : Prop where
  owed : amount ≤ w.engine.dscMinted onBehalfOf
  pulls : (w.tokens w.engine.dsc).Pulls w.engineAddress dscFrom w.engineAddress amount
  owned : w.dscOwner = w.engineAddress
  positive : 0 < amount
  held : amount ≤ ((w.tokens w.engine.dsc).pulled w.engineAddress dscFrom w.engineAddress
    amount).balances w.engineAddress

/-- The collateral worth of the debt covered, and what the liquidator gets with the bonus. -/
def covered (w : World) (collateral : Address) (debtToCover : Nat) : Nat :=
  debtToCover * DSCEngine.precision / w.price collateral

def payout (w : World) (collateral : Address) (debtToCover : Nat) : Nat :=
  w.covered collateral debtToCover +
    w.covered collateral debtToCover * DSCEngine.liquidationBonus / DSCEngine.liquidationPrecision

/-- The state after the payout. -/
def paidOut (w : World) (sender collateral user : Address) (debtToCover : Nat) : World :=
  w.released user sender collateral (w.payout collateral debtToCover)

/-- The state after the rest of the deposit went to the pool. -/
def swept (w : World) (sender collateral user : Address) (debtToCover : Nat) : World :=
  (w.paidOut sender collateral user debtToCover).released user w.engine.poolAddress collateral
    ((w.paidOut sender collateral user debtToCover).engine.collateralDeposited user collateral)

/-- `liquidate`: payout, sweep, debt burn. -/
def liquidated (w : World) (sender collateral user : Address) (debtToCover : Nat) : World :=
  (w.swept sender collateral user debtToCover).repaid user sender debtToCover

structure Liquidates (w : World) (sender collateral user : Address) (debtToCover : Nat) : Prop where
  positive : 0 < debtToCover
  idle : w.engine.status = .notEntered
  valued : w.Valued user
  scales : w.Scales user
  unhealthy : w.health user < DSCEngine.minHealthFactor
  priced : ∃ round, w.latestRoundData (w.engine.priceFeeds collateral) = .ok round ∧
    0 < round.answer.toInt
  price_fits : w.price collateral < wordLimit
  amount_fits : debtToCover * DSCEngine.precision < wordLimit
  bonus_fits : w.covered collateral debtToCover * DSCEngine.liquidationBonus < wordLimit
  payout_fits : w.payout collateral debtToCover < wordLimit
  pays : w.Releases user sender collateral (w.payout collateral debtToCover)
  sweeps : (w.paidOut sender collateral user debtToCover).Releases user w.engine.poolAddress
    collateral
    ((w.paidOut sender collateral user debtToCover).engine.collateralDeposited user collateral)
  repays : (w.swept sender collateral user debtToCover).Repays user sender debtToCover
  ends_valued : (w.liquidated sender collateral user debtToCover).Valued user
  ends_scales : (w.liquidated sender collateral user debtToCover).Scales user
  improved : w.health user < (w.liquidated sender collateral user debtToCover).health user
  passes : (w.liquidated sender collateral user debtToCover).Passes sender

variable (w : World) (sender source target token account user : Address) (amount : Nat)
  (status : ReentrancyStatus)

theorem setStatus_self (same : w.engine.status = status) : w.setStatus status = w := by
  subst same
  rfl

@[simp] theorem released_setStatus :
    (w.setStatus status).released source target token amount =
      (w.released source target token amount).setStatus status := rfl

theorem releases_setStatus :
    (w.setStatus status).Releases source target token amount ↔
      w.Releases source target token amount :=
  ⟨fun ⟨deposited, real, receiver, enough⟩ => ⟨deposited, real, receiver, enough⟩,
    fun ⟨deposited, real, receiver, enough⟩ => ⟨deposited, real, receiver, enough⟩⟩

theorem repays_setStatus :
    (w.setStatus status).Repays account source amount ↔ w.Repays account source amount :=
  ⟨fun ⟨owed, pulls, owned, positive, held⟩ => ⟨owed, pulls, owned, positive, held⟩,
    fun ⟨owed, pulls, owned, positive, held⟩ => ⟨owed, pulls, owned, positive, held⟩⟩

theorem valued_setStatus : (w.setStatus status).Valued user ↔ w.Valued user :=
  ⟨fun ⟨readable, fits, bound⟩ => ⟨readable, fits, bound⟩,
    fun ⟨readable, fits, bound⟩ => ⟨readable, fits, bound⟩⟩

theorem passes_setStatus : (w.setStatus status).Passes user ↔ w.Passes user :=
  ⟨fun ⟨valued, scales, healthy⟩ => ⟨(valued_setStatus w user status).mp valued, scales, healthy⟩,
    fun ⟨valued, scales, healthy⟩ => ⟨(valued_setStatus w user status).mpr valued, scales, healthy⟩⟩

theorem valued_setToken (contract : ERC20) :
    (w.setToken token contract).Valued user ↔ w.Valued user :=
  ⟨fun ⟨readable, fits, bound⟩ => ⟨readable, fits, bound⟩,
    fun ⟨readable, fits, bound⟩ => ⟨readable, fits, bound⟩⟩

theorem passes_setToken (contract : ERC20) :
    (w.setToken token contract).Passes user ↔ w.Passes user :=
  ⟨fun ⟨valued, scales, healthy⟩ =>
      ⟨(valued_setToken w token user contract).mp valued, scales, healthy⟩,
    fun ⟨valued, scales, healthy⟩ =>
      ⟨(valued_setToken w token user contract).mpr valued, scales, healthy⟩⟩

theorem setCoin_eq (contract : ERC20) :
    w.setCoin { w.coin with toERC20 := contract } = w.setToken w.engine.dsc contract := rfl

end World

namespace ReentrancyGuard

theorem nonReentrant_eq_ok {body : World → Except Revert World} {w after : World} :
    nonReentrant body w = .ok after ↔
      w.engine.status = .notEntered ∧
        ∃ inside, body (w.setStatus .entered) = .ok inside ∧
          after = inside.setStatus .notEntered := by
  have idle : w.engine.status ≠ .entered ↔ w.engine.status = .notEntered := by
    cases w.engine.status <;> decide
  simp only [nonReentrant, nonReentrantBefore, nonReentrantAfter, Checked.bind_eq_ok,
    Checked.require_eq_ok, Except.ok.injEq, exists_const, idle]
  constructor
  · rintro ⟨_, ⟨free, rfl⟩, inside, returned, rfl⟩
    exact ⟨free, inside, returned, rfl⟩
  · rintro ⟨free, inside, returned, rfl⟩
    exact ⟨_, ⟨free, rfl⟩, inside, returned, rfl⟩

end ReentrancyGuard

namespace DSCEngine

open ReentrancyGuard

variable {w after : World} {sender source target token collateral user onBehalfOf dscFrom : Address}
  {amount debtToCover : Nat}

theorem moreThanZero_eq_ok {done : Unit} : moreThanZero amount = .ok done ↔ 0 < amount := by
  rw [moreThanZero, Checked.require_eq_ok, Nat.not_le]

theorem redeemCollateralInternal_eq_ok :
    redeemCollateralInternal standard source target token amount w = .ok after ↔
      w.Releases source target token amount ∧ after = w.released source target token amount := by
  simp only [redeemCollateralInternal, Checked.bind_eq_ok, Checked.sub_eq_ok,
    Checked.require_eq_ok, Except.ok.injEq, exists_const, Prod.exists, standard_transfer_eq_ok]
  constructor
  · rintro ⟨_, ⟨deposited, rfl⟩, _, _, ⟨_, real, receiver, enough, rfl⟩, _, rfl⟩
    exact ⟨⟨deposited, real, receiver, enough⟩, rfl⟩
  · rintro ⟨⟨deposited, real, receiver, enough⟩, rfl⟩
    exact ⟨_, ⟨deposited, rfl⟩, true, _, ⟨rfl, real, receiver, enough, rfl⟩, rfl, rfl⟩

theorem burnDscInternal_eq_ok :
    burnDscInternal onBehalfOf dscFrom amount w = .ok after ↔
      w.Repays onBehalfOf dscFrom amount ∧ after = w.repaid onBehalfOf dscFrom amount := by
  simp only [burnDscInternal, Checked.bind_eq_ok, Checked.sub_eq_ok, Checked.require_eq_ok,
    Except.ok.injEq, exists_const, Prod.exists, DecentralisedStableCoin.transferFrom_eq_ok,
    DecentralisedStableCoin.burn_eq_ok]
  constructor
  · rintro ⟨_, ⟨owed, rfl⟩, _, _, ⟨rfl, pulls, rfl⟩, _, _, ⟨owned, positive, held, _, rfl⟩, rfl⟩
    rw [World.setCoin_eq] at held ⊢
    refine ⟨⟨owed, pulls, owned, positive, ?_⟩, ?_⟩
    · simpa only [World.coin, World.setToken, World.setMinted, Function.update_self] using held
    · simp only [World.coin, World.setToken, World.setCoin, World.setMinted, World.repaid,
        Function.update_self, Function.update_idem]
  · rintro ⟨⟨owed, pulls, owned, positive, held⟩, rfl⟩
    refine ⟨_, ⟨owed, rfl⟩, true, _, ⟨rfl, pulls, rfl⟩, rfl, _,
      ⟨owned, positive, ?_, pulls.target_ne_zero, rfl⟩, ?_⟩
    · rw [World.setCoin_eq]
      simpa only [World.coin, World.setToken, World.setMinted, Function.update_self] using held
    · rw [World.setCoin_eq]
      simp only [World.coin, World.setToken, World.setCoin, World.setMinted, World.repaid,
        Function.update_self, Function.update_idem]

theorem depositCollateral_eq_ok :
    depositCollateral standard sender token amount w = .ok after ↔
      0 < amount ∧ w.engine.priceFeeds token ≠ 0 ∧ w.engine.status = .notEntered ∧
        w.Receives sender token amount ∧ after = w.received sender token amount := by
  simp only [depositCollateral, isAllowedToken, Checked.bind_eq_ok, moreThanZero_eq_ok,
    Checked.require_eq_ok, exists_const, nonReentrant_eq_ok, Checked.add_eq_ok, Except.ok.injEq,
    Prod.exists, standard_transferFrom_eq_ok]
  constructor
  · rintro ⟨positive, listed, idle, _, ⟨_, ⟨fits, rfl⟩, _, _, ⟨_, pulls, rfl⟩, _, rfl⟩, rfl⟩
    refine ⟨positive, listed, idle, ⟨fits, pulls⟩, ?_⟩
    exact (w.received sender token amount).setStatus_self .notEntered idle
  · rintro ⟨positive, listed, idle, ⟨fits, pulls⟩, rfl⟩
    refine ⟨positive, listed, idle, _,
      ⟨_, ⟨fits, rfl⟩, true, _, ⟨rfl, pulls, rfl⟩, rfl, rfl⟩, ?_⟩
    exact ((w.received sender token amount).setStatus_self .notEntered idle).symm

theorem redeemCollateral_eq_ok :
    redeemCollateral standard sender token amount w = .ok after ↔
      0 < amount ∧ w.engine.status = .notEntered ∧ w.Releases sender sender token amount ∧
        (w.released sender sender token amount).Passes sender ∧
        after = w.released sender sender token amount := by
  simp only [redeemCollateral, Checked.bind_eq_ok, moreThanZero_eq_ok, exists_const,
    nonReentrant_eq_ok, redeemCollateralInternal_eq_ok, revertIfHealthFactorIsBroken_eq_ok,
    Except.ok.injEq, World.releases_setStatus, World.released_setStatus]
  constructor
  · rintro ⟨positive, idle, _, ⟨_, ⟨releases, rfl⟩, passes, rfl⟩, rfl⟩
    rw [World.passes_setStatus] at passes
    refine ⟨positive, idle, releases, passes, ?_⟩
    exact (w.released sender sender token amount).setStatus_self .notEntered idle
  · rintro ⟨positive, idle, releases, passes, rfl⟩
    refine ⟨positive, idle, _, ⟨_, ⟨releases, rfl⟩, ?_, rfl⟩, ?_⟩
    · rw [World.passes_setStatus]
      exact passes
    · exact ((w.released sender sender token amount).setStatus_self .notEntered idle).symm

theorem mintDsc_eq_ok :
    mintDsc sender amount w = .ok after ↔
      w.engine.status = .notEntered ∧ w.Issues sender amount ∧
        (w.issued sender amount).Passes sender ∧ after = w.issued sender amount := by
  simp only [mintDsc, Checked.bind_eq_ok, moreThanZero_eq_ok, exists_const, nonReentrant_eq_ok,
    Checked.add_eq_ok, Checked.require_eq_ok, revertIfHealthFactorIsBroken_eq_ok,
    DecentralisedStableCoin.mint_eq_ok, Except.ok.injEq, Prod.exists]
  constructor
  · rintro ⟨positive, idle, _, ⟨_, ⟨debt, rfl⟩, passes, _, _, ⟨rfl, owned, real, _, supply, rfl⟩,
      _, rfl⟩, rfl⟩
    refine ⟨idle, ⟨debt, owned, real, positive, supply⟩, ?_, ?_⟩
    · rw [World.issued, World.passes_setToken]
      exact (World.passes_setStatus _ sender .entered).mp passes
    · exact (w.issued sender amount).setStatus_self .notEntered idle
  · rintro ⟨idle, ⟨debt, owned, real, positive, supply⟩, passes, rfl⟩
    refine ⟨positive, idle, _, ⟨_, ⟨debt, rfl⟩, ?_, true, _,
      ⟨rfl, owned, real, positive, supply, rfl⟩, rfl, rfl⟩, ?_⟩
    · rw [World.issued, World.passes_setToken] at passes
      exact (World.passes_setStatus _ sender .entered).mpr passes
    · exact ((w.issued sender amount).setStatus_self .notEntered idle).symm

theorem burnDsc_eq_ok :
    burnDsc sender amount w = .ok after ↔
      w.Repays sender sender amount ∧ after = w.repaid sender sender amount := by
  simp only [burnDsc, Checked.bind_eq_ok, moreThanZero_eq_ok, exists_const, burnDscInternal_eq_ok]
  constructor
  · rintro ⟨_, repays, rfl⟩
    exact ⟨repays, rfl⟩
  · rintro ⟨repays, rfl⟩
    exact ⟨repays.positive, repays, rfl⟩

/-- Everything a liquidation needs, and the one state it leaves. -/
theorem liquidate_eq_ok :
    liquidate standard sender collateral user debtToCover w = .ok after ↔
      w.Liquidates sender collateral user debtToCover ∧
        after = w.liquidated sender collateral user debtToCover := by
  simp only [liquidate, sentAmountLeftToDscPool, Checked.bind_eq_ok, moreThanZero_eq_ok,
    exists_const, nonReentrant_eq_ok, healthFactor_eq_ok, getTokenAmountFromUsd_eq_ok,
    Checked.mul_eq_ok, Checked.div_eq_ok, Checked.add_eq_ok, Checked.require_eq_ok,
    redeemCollateralInternal_eq_ok, burnDscInternal_eq_ok, revertIfHealthFactorIsBroken_eq_ok,
    Except.ok.injEq, Nat.not_le, World.releases_setStatus, World.released_setStatus]
  constructor
  · rintro ⟨positive, idle, _, ⟨_, ⟨valued, scales, rfl⟩, unhealthy, _,
      ⟨priced, price_fits, amount_fits, rfl⟩, _, ⟨bonus_fits, rfl⟩, _, ⟨_, rfl⟩, _,
      ⟨payout_fits, rfl⟩, _, ⟨pays, rfl⟩, _, ⟨sweeps, rfl⟩, _, ⟨repays, rfl⟩, _,
      ⟨ends_valued, ends_scales, rfl⟩, improved, passes, rfl⟩, rfl⟩
    refine ⟨⟨positive, idle, (w.valued_setStatus user .entered).mp valued, scales, unhealthy,
      priced, price_fits, amount_fits, bonus_fits, payout_fits, pays, ?_, ?_, ?_, ends_scales,
      improved, ?_⟩, ?_⟩
    · exact ((w.paidOut sender collateral user debtToCover).releases_setStatus _ _ _ _
        .entered).mp sweeps
    · exact ((w.swept sender collateral user debtToCover).repays_setStatus _ _ _ .entered).mp repays
    · exact ((w.liquidated sender collateral user debtToCover).valued_setStatus _
        .entered).mp ends_valued
    · exact ((w.liquidated sender collateral user debtToCover).passes_setStatus _
        .entered).mp passes
    · exact (w.liquidated sender collateral user debtToCover).setStatus_self .notEntered idle
  · rintro ⟨liquidates, rfl⟩
    refine ⟨liquidates.positive, liquidates.idle, _, ⟨_,
      ⟨(w.valued_setStatus user .entered).mpr liquidates.valued, liquidates.scales, rfl⟩,
      liquidates.unhealthy, _,
      ⟨liquidates.priced, liquidates.price_fits, liquidates.amount_fits, rfl⟩, _,
      ⟨liquidates.bonus_fits, rfl⟩, _, ⟨by decide, rfl⟩, _, ⟨liquidates.payout_fits, rfl⟩, _,
      ⟨liquidates.pays, rfl⟩, _, ⟨?_, rfl⟩, _, ⟨?_, rfl⟩, _, ⟨?_, liquidates.ends_scales, rfl⟩,
      liquidates.improved, ?_, rfl⟩, ?_⟩
    · exact ((w.paidOut sender collateral user debtToCover).releases_setStatus _ _ _ _
        .entered).mpr liquidates.sweeps
    · exact ((w.swept sender collateral user debtToCover).repays_setStatus _ _ _
        .entered).mpr liquidates.repays
    · exact ((w.liquidated sender collateral user debtToCover).valued_setStatus _
        .entered).mpr liquidates.ends_valued
    · exact ((w.liquidated sender collateral user debtToCover).passes_setStatus _
        .entered).mpr liquidates.passes
    · exact ((w.liquidated sender collateral user debtToCover).setStatus_self .notEntered
        liquidates.idle).symm

theorem depositCollateralAndMintDsc_eq_ok {amountDscToMint : Nat} :
    depositCollateralAndMintDsc standard sender token amount amountDscToMint w = .ok after ↔
      ∃ middle, depositCollateral standard sender token amount w = .ok middle ∧
        mintDsc sender amountDscToMint middle = .ok after :=
  Checked.bind_eq_ok

theorem redeemCollateralForDsc_eq_ok {amountDscToBurn : Nat} :
    redeemCollateralForDsc standard sender token amount amountDscToBurn w = .ok after ↔
      ∃ middle, burnDsc sender amountDscToBurn w = .ok middle ∧
        redeemCollateral standard sender token amount middle = .ok after :=
  Checked.bind_eq_ok

end DSCEngine

/-- The call is a liquidation of this account. -/
def EngineCall.Liquidating (call : EngineCall) (user : Address) : Prop :=
  ∃ collateral debtToCover, call = .liquidate collateral user debtToCover

/-- Every engine call is a sequence of the four effects: what each of them preserves, each
call preserves. Coins come from the caller; deposits and debts touched are the caller's or
those of the account being liquidated, and only then may the pool be paid. -/
theorem EngineCall.exec_preserves {sender : Address} {call : EngineCall} (holds : World → Prop)
    (receive : ∀ w token amount, holds w → w.engine.priceFeeds token ≠ 0 →
      w.Receives sender token amount → holds (w.received sender token amount))
    (release : ∀ w source target token amount, holds w →
      (source = sender ∧ target = sender) ∨
        (call.Liquidating source ∧ (target = sender ∨ target = w.engine.poolAddress)) →
      w.Releases source target token amount → holds (w.released source target token amount))
    (issue : ∀ w amount, holds w → w.Issues sender amount →
      (w.issued sender amount).Passes sender → holds (w.issued sender amount))
    (repay : ∀ w onBehalfOf amount, holds w → onBehalfOf = sender ∨ call.Liquidating onBehalfOf →
      w.Repays onBehalfOf sender amount → holds (w.repaid onBehalfOf sender amount))
    {w after : World} (start : holds w)
    (success : call.exec standard sender w = .ok after) : holds after := by
  have deposit : ∀ {w after : World} {token : Address} {amount : Nat}, holds w →
      DSCEngine.depositCollateral standard sender token amount w = .ok after → holds after := by
    intro w after token amount start success
    obtain ⟨_, listed, _, receives, rfl⟩ := DSCEngine.depositCollateral_eq_ok.mp success
    exact receive w token amount start listed receives
  have mint : ∀ {w after : World} {amount : Nat}, holds w →
      DSCEngine.mintDsc sender amount w = .ok after → holds after := by
    intro w after amount start success
    obtain ⟨_, issues, passes, rfl⟩ := DSCEngine.mintDsc_eq_ok.mp success
    exact issue w amount start issues passes
  have burn : ∀ {w after : World} {amount : Nat}, holds w →
      DSCEngine.burnDsc sender amount w = .ok after → holds after := by
    intro w after amount start success
    obtain ⟨repays, rfl⟩ := DSCEngine.burnDsc_eq_ok.mp success
    exact repay w sender amount start (Or.inl rfl) repays
  have redeem : ∀ {w after : World} {token : Address} {amount : Nat}, holds w →
      DSCEngine.redeemCollateral standard sender token amount w = .ok after → holds after := by
    intro w after token amount start success
    obtain ⟨_, _, releases, _, rfl⟩ := DSCEngine.redeemCollateral_eq_ok.mp success
    exact release w sender sender token amount start (Or.inl ⟨rfl, rfl⟩) releases
  cases call with
  | depositCollateral token amount => exact deposit start success
  | depositCollateralAndMintDsc token amountCollateral amountDscToMint =>
      obtain ⟨_, deposited, minted⟩ := DSCEngine.depositCollateralAndMintDsc_eq_ok.mp success
      exact mint (deposit start deposited) minted
  | mintDsc amount => exact mint start success
  | burnDsc amount => exact burn start success
  | redeemCollateral token amount => exact redeem start success
  | redeemCollateralForDsc token amountCollateral amountDscToBurn =>
      obtain ⟨_, burned, redeemed⟩ := DSCEngine.redeemCollateralForDsc_eq_ok.mp success
      exact redeem (burn start burned) redeemed
  | liquidate collateral user debtToCover =>
      obtain ⟨liquidates, rfl⟩ := DSCEngine.liquidate_eq_ok.mp success
      have liquidating : (EngineCall.liquidate collateral user debtToCover).Liquidating user :=
        ⟨collateral, debtToCover, rfl⟩
      have paid := release w user sender collateral _ start
        (Or.inr ⟨liquidating, Or.inl rfl⟩) liquidates.pays
      have swept := release _ user w.engine.poolAddress collateral _ paid
        (Or.inr ⟨liquidating, Or.inr rfl⟩) liquidates.sweeps
      exact repay _ user debtToCover swept (Or.inr liquidating) liquidates.repays

end DscProtocol
