import DscProtocol.Judging
import DscProtocol.VaultCalls

set_option autoImplicit false

/- Why a call is refused. Each engine call is a list of conditions on the state it finds, in the
order in which they are tested, and what it leaves if they all hold; what is tested besides these
can never fail. -/
namespace DscProtocol

open Refusal ReentrancyGuard

namespace ERC20

variable {token : ERC20} {sender source target owner spender : Address} {amount : Nat}

def transferChecks (token : ERC20) (source target : Address) (amount : Nat) :
    List (Check Revert) :=
  [check (source ≠ 0) (.require "ERC20: transfer from the zero address"),
    check (target ≠ 0) (.require "ERC20: transfer to the zero address"),
    check (amount ≤ token.balances source) (.require "ERC20: transfer amount exceeds balance")]

def spendChecks (token : ERC20) (owner spender : Address) (amount : Nat) : List (Check Revert) :=
  if token.allowances owner spender = uint256Max then []
  else
    [check (amount ≤ token.allowances owner spender) (.require "ERC20: insufficient allowance"),
      check (owner ≠ 0) (.require "ERC20: approve from the zero address"),
      check (spender ≠ 0) (.require "ERC20: approve to the zero address")]

def pullChecks (token : ERC20) (sender source target : Address) (amount : Nat) :
    List (Check Revert) :=
  token.spendChecks source sender amount ++ token.transferChecks source target amount

theorem transferInternal_settles :
    token.transferInternal source target amount =
      settle (token.transferChecks source target amount) (token.moved source target amount) := by
  apply require_bind Iff.rfl
  intro _
  apply require_bind Iff.rfl
  intro _
  apply require_bind Iff.rfl
  intro _
  rfl

theorem spendAllowance_settles :
    token.spendAllowance owner spender amount =
      settle (token.spendChecks owner spender amount) (token.spent owner spender amount) := by
  unfold spendAllowance spendChecks spent
  by_cases unlimited : token.allowances owner spender = uint256Max
  · simp only [unlimited, ne_eq, not_true_eq_false, ↓reduceIte, settle]
  · simp only [unlimited, ne_eq, not_false_eq_true, ↓reduceIte]
    apply require_bind Iff.rfl
    intro _
    apply require_bind Iff.rfl
    intro _
    apply require_bind Iff.rfl
    intro _
    rfl

theorem transferFrom_settles :
    token.transferFrom sender source target amount =
      settle (token.pullChecks sender source target amount)
        (true, token.pulled sender source target amount) := by
  apply settle_bind spendAllowance_settles
  intro _
  have moves := @transferInternal_settles (token.spent source sender amount) source target amount
  have same : (token.spent source sender amount).transferChecks source target amount =
      token.transferChecks source target amount := by
    unfold transferChecks
    rw [spent_balances]
  rw [same] at moves
  rw [moves]
  exact settle_map fun moved => (true, moved)

/-- The conditions of a pull are those of `Pulls`. -/
theorem pulls_of_allHold (held : AllHold (token.pullChecks sender source target amount)) :
    token.Pulls sender source target amount := by
  have pulled : token.transferFrom sender source target amount =
      .ok (true, token.pulled sender source target amount) := by
    rw [transferFrom_settles]
    exact settle_eq_ok.mpr ⟨held, rfl⟩
  exact (transferFrom_eq_ok.mp pulled).2.1

end ERC20

namespace World

def depositChecks (w : World) (sender token : Address) (amount : Nat) : List (Check Revert) :=
  [check (0 < amount) (.engine .needMoreThanZero),
    check (w.engine.priceFeeds token ≠ 0) (.engine .notAllowedToken),
    check (w.engine.collateralDeposited sender token + amount < wordLimit) (.panic .arithmetic)] ++
    (w.tokens token).pullChecks w.engineAddress sender w.engineAddress amount

def mintChecks (w : World) (sender : Address) (amount : Nat) : List (Check Revert) :=
  [check (0 < amount) (.engine .needMoreThanZero),
    check (w.engine.dscMinted sender + amount < wordLimit) (.panic .arithmetic)] ++
    ((w.issued sender amount).lineChecks sender ++
    [check (sender ≠ 0) (.coin .notZeroAddress),
      check (w.supply + amount < wordLimit) (.panic .arithmetic)])

def burnChecks (w : World) (sender : Address) (amount : Nat) : List (Check Revert) :=
  [check (0 < amount) (.engine .needMoreThanZero),
    check (amount ≤ w.engine.dscMinted sender) (.panic .arithmetic)] ++
    (w.tokens w.engine.dsc).pullChecks w.engineAddress sender w.engineAddress amount

def redeemChecks (w : World) (sender token : Address) (amount : Nat) : List (Check Revert) :=
  [check (0 < amount) (.engine .needMoreThanZero),
    check (amount ≤ w.engine.collateralDeposited sender token) (.panic .arithmetic)] ++
    (w.released sender sender token amount).lineChecks sender

def liquidateChecks (w : World) (sender collateral user : Address) (debtToCover : Nat) :
    List (Check Revert) :=
  check (0 < debtToCover) (.engine .needMoreThanZero) ::
    (w.judgeChecks user ++
    check (w.health user < DSCEngine.minHealthFactor) (.engine .healthFactorIsFine) ::
    (w.buyChecks collateral debtToCover ++
    ([check (w.payout collateral debtToCover ≤ w.engine.collateralDeposited user collateral)
        (.panic .arithmetic),
      check (sender ≠ 0) (.require "ERC20: transfer to the zero address")] ++
    (check (debtToCover ≤ w.engine.dscMinted user) (.panic .arithmetic) ::
      (w.tokens w.engine.dsc).pullChecks w.engineAddress sender w.engineAddress debtToCover ++
    ((w.liquidated sender collateral user debtToCover).judgeChecks user ++
    check (w.health user < (w.liquidated sender collateral user debtToCover).health user)
        (.engine .healthFactoNotImproved) ::
      (w.liquidated sender collateral user debtToCover).lineChecks sender)))))

end World

/-- Everything a call can be refused for, in order. -/
def EngineCall.checks (sender : Address) (w : World) (call : EngineCall) : List (Check Revert) :=
  match call with
  | depositCollateral token amount => w.depositChecks sender token amount
  | depositCollateralAndMintDsc token amountCollateral amountDscToMint =>
      w.depositChecks sender token amountCollateral ++
        (w.received sender token amountCollateral).mintChecks sender amountDscToMint
  | mintDsc amount => w.mintChecks sender amount
  | burnDsc amount => w.burnChecks sender amount
  | redeemCollateral token amount => w.redeemChecks sender token amount
  | redeemCollateralForDsc token amountCollateral amountDscToBurn =>
      w.burnChecks sender amountDscToBurn ++
        (w.repaid sender sender amountDscToBurn).redeemChecks sender token amountCollateral
  | liquidate collateral user debtToCover => w.liquidateChecks sender collateral user debtToCover

/-- What a call leaves when nothing speaks against it. -/
def EngineCall.outcome (sender : Address) (w : World) (call : EngineCall) : World :=
  match call with
  | depositCollateral token amount => w.received sender token amount
  | depositCollateralAndMintDsc token amountCollateral amountDscToMint =>
      (w.received sender token amountCollateral).issued sender amountDscToMint
  | mintDsc amount => w.issued sender amount
  | burnDsc amount => w.repaid sender sender amount
  | redeemCollateral token amount => w.released sender sender token amount
  | redeemCollateralForDsc token amountCollateral amountDscToBurn =>
      (w.repaid sender sender amountDscToBurn).released sender sender token amountCollateral
  | liquidate collateral user debtToCover => w.liquidated sender collateral user debtToCover

section Settles

variable {w after : World} {sender source target token collateral user account onBehalfOf
  dscFrom : Address} {amount debtToCover : Nat} {checks : List (Check Revert)}

theorem standard_transferFrom_settles :
    standard.transferFrom token sender source target amount w =
      settle ((w.tokens token).pullChecks sender source target amount)
        (true, w.setToken token ((w.tokens token).pulled sender source target amount)) := by
  apply settle_bind_ok ERC20.transferFrom_settles
  intro _
  rfl

/-- The guard tests nothing in a state between calls. -/
theorem nonReentrant_settles {body : World → Except Revert World}
    (idle : w.engine.status = .notEntered) (leaves : after.engine.status = .notEntered)
    (inside : body (w.setStatus .entered) = settle checks (after.setStatus .entered)) :
    nonReentrant body w = settle checks after := by
  have enters : nonReentrantBefore w = .ok (w.setStatus .entered) := by
    unfold nonReentrantBefore
    rw [idle]
    rfl
  apply settle_ok_bind enters
  apply settle_bind_ok inside
  intro _
  exact congrArg Except.ok (after.setStatus_self .notEntered leaves)

namespace DSCEngine

theorem depositCollateral_settles (idle : w.engine.status = .notEntered) :
    depositCollateral standard sender token amount w =
      settle (w.depositChecks sender token amount) (w.received sender token amount) := by
  apply require_bind Nat.not_le
  intro _
  apply require_bind Iff.rfl
  intro _
  apply nonReentrant_settles idle
  · exact idle
  apply add_bind
  intro _
  apply settle_bind_ok standard_transferFrom_settles
  intro _
  rfl

/-- Coins that could be pulled can be burned. -/
theorem burnDscInternal_settles (orderly : w.Orderly) (positive : 0 < amount)
    (status : ReentrancyStatus) :
    burnDscInternal onBehalfOf dscFrom amount (w.setStatus status) =
      settle (check (amount ≤ w.engine.dscMinted onBehalfOf) (.panic .arithmetic) ::
        (w.tokens w.engine.dsc).pullChecks w.engineAddress dscFrom w.engineAddress amount)
        ((w.repaid onBehalfOf dscFrom amount).setStatus status) := by
  apply sub_bind
  intro owed
  have pulled : w.coin.transferFrom w.engineAddress dscFrom w.engineAddress amount =
      settle ((w.tokens w.engine.dsc).pullChecks w.engineAddress dscFrom w.engineAddress amount)
        (true, { w.coin with toERC20 :=
          (w.tokens w.engine.dsc).pulled w.engineAddress dscFrom w.engineAddress amount }) := by
    apply settle_bind_ok ERC20.transferFrom_settles
    intro _
    rfl
  apply settle_bind_ok pulled
  intro held
  have pulls := ERC20.pulls_of_allHold held
  have repays : (w.setStatus status).Repays onBehalfOf dscFrom amount :=
    (w.repays_setStatus dscFrom onBehalfOf amount status).mpr
      ⟨owed, pulls, orderly.owned, positive, World.pulled_held orderly pulls⟩
  -- what follows the pull is the end of a run that is known to return
  obtain ⟨debt, lowered, rest⟩ := Checked.bind_eq_ok.mp (burnDscInternal_eq_ok.mpr ⟨repays, rfl⟩)
  rw [(Checked.sub_eq_ok.mp lowered).2] at rest
  obtain ⟨answer, answered, ends⟩ := Checked.bind_eq_ok.mp rest
  have same : answer = _ :=
    Except.ok.inj (answered.symm.trans (pulled.trans (settle_eq_ok.mpr ⟨held, rfl⟩)))
  rw [same] at ends
  exact ends

theorem burnDsc_settles (orderly : w.Orderly) :
    burnDsc sender amount w =
      settle (w.burnChecks sender amount) (w.repaid sender sender amount) := by
  apply require_bind Nat.not_le
  intro positive
  have burned := @burnDscInternal_settles w sender sender amount orderly positive .notEntered
  rw [w.setStatus_self .notEntered orderly.idle,
    (w.repaid sender sender amount).setStatus_self .notEntered orderly.idle] at burned
  exact burned

/-- Backed deposits can be paid out to any real account. -/
theorem redeemCollateralInternal_settles (real : w.engineAddress ≠ 0)
    (backed : w.engine.collateralDeposited source token ≤ w.held token) :
    redeemCollateralInternal standard source target token amount w =
      settle [check (amount ≤ w.engine.collateralDeposited source token) (.panic .arithmetic),
        check (target ≠ 0) (.require "ERC20: transfer to the zero address")]
        (w.released source target token amount) := by
  apply sub_bind
  intro enough
  have moved : standard.transfer token w.engineAddress target amount
      (w.setDeposited source token (w.engine.collateralDeposited source token - amount)) =
        settle [check (target ≠ 0) (.require "ERC20: transfer to the zero address")]
          (true, w.released source target token amount) := by
    have settled : (w.tokens token).transferInternal w.engineAddress target amount =
        settle [check (target ≠ 0) (.require "ERC20: transfer to the zero address")]
          ((w.tokens token).moved w.engineAddress target amount) := by
      rw [ERC20.transferInternal_settles]
      unfold ERC20.transferChecks
      rw [settle_of_holds real]
      by_cases receiver : target ≠ 0
      · rw [settle_of_holds receiver, settle_of_holds receiver]
        exact settle_of_holds (enough.trans backed)
      · rw [settle_of_fails receiver, settle_of_fails receiver]
    apply settle_bind_ok
    · apply settle_bind_ok settled
      intro _
      rfl
    · intro _
      rfl
  apply settle_bind_ok moved
  intro _
  rfl

theorem redeemCollateral_settles (reachable : Reachable w) :
    redeemCollateral standard sender token amount w =
      settle (w.redeemChecks sender token amount) (w.released sender sender token amount) := by
  have orderly := reachable.orderly
  apply require_bind Nat.not_le
  intro positive
  -- who has a deposit is a real account, so the transfer has a receiver
  have released : redeemCollateralInternal standard sender sender token amount
      (w.setStatus .entered) =
        settle [check (amount ≤ w.engine.collateralDeposited sender token) (.panic .arithmetic)]
          ((w.released sender sender token amount).setStatus .entered) := by
    have backed := reachable.deposit_le_held sender token
    rw [@redeemCollateralInternal_settles (w.setStatus .entered) sender sender token amount
      orderly.engine_ne_zero backed]
    by_cases enough : amount ≤ w.engine.collateralDeposited sender token
    · have real := (orderly.deposit_real sender token (by omega)).1
      exact (settle_of_holds enough).trans ((settle_of_holds real).trans
        (settle_of_holds enough).symm)
    · exact (settle_of_fails enough).trans (settle_of_fails enough).symm
  have line : revertIfHealthFactorIsBroken
      ((w.released sender sender token amount).setStatus .entered) sender =
        settle ((w.released sender sender token amount).lineChecks sender) () :=
    revertIfHealthFactorIsBroken_settles
  apply nonReentrant_settles orderly.idle
  · exact orderly.idle
  apply settle_bind released
  intro _
  apply settle_bind_ok line
  intro _
  rfl

theorem mintDsc_settles (orderly : w.Orderly) :
    mintDsc sender amount w = settle (w.mintChecks sender amount) (w.issued sender amount) := by
  apply require_bind Nat.not_le
  intro positive
  apply nonReentrant_settles orderly.idle
  · exact orderly.idle
  apply add_bind
  intro fits
  have line : revertIfHealthFactorIsBroken ((w.setStatus .entered).setMinted sender
      (w.engine.dscMinted sender + amount)) sender =
        settle ((w.issued sender amount).lineChecks sender) () :=
    revertIfHealthFactorIsBroken_settles
  have minted : w.coin.mint w.engineAddress sender amount =
      settle [check (sender ≠ 0) (.coin .notZeroAddress),
        check (w.supply + amount < wordLimit) (.panic .arithmetic)]
        (true, { w.coin with toERC20 := (w.tokens w.engine.dsc).minted sender amount }) := by
    have owned : w.coin.onlyOwner w.engineAddress = .ok () :=
      Checked.require_eq_ok.mpr orderly.owned
    apply settle_ok_bind owned
    apply require_bind Iff.rfl
    intro real
    have some : Checked.require (¬ amount ≤ 0)
        (Revert.coin .mustBeMoreThanZero) = .ok () :=
      Checked.require_eq_ok.mpr (Nat.not_le.mpr positive)
    apply settle_ok_bind some
    have raised : (w.tokens w.engine.dsc).mintInternal sender amount =
        settle [check (w.supply + amount < wordLimit) (.panic .arithmetic)]
          ((w.tokens w.engine.dsc).minted sender amount) := by
      have passes : Checked.require (sender ≠ 0)
          (Revert.require "ERC20: mint to the zero address") = .ok () :=
        Checked.require_eq_ok.mpr real
      apply settle_ok_bind passes
      apply add_bind
      intro _
      rfl
    apply settle_bind_ok raised
    intro _
    rfl
  apply settle_bind line
  intro _
  apply settle_bind_ok minted
  intro _
  rfl

/-- Once the liquidator is paid, the rest of the deposit can go to the pool. -/
theorem sweep_returns (reachable : Reachable w) (notEngine : sender ≠ w.engineAddress)
    (pays : w.Releases user sender collateral (w.payout collateral debtToCover)) :
    (w.paidOut sender collateral user debtToCover).Releases user w.engine.poolAddress collateral
      ((w.paidOut sender collateral user debtToCover).engine.collateralDeposited user
        collateral) := by
  have orderly := reachable.orderly
  have balanced : World.Balanced collateral w (w.paidOut sender collateral user debtToCover) :=
    World.released_balanced orderly notEngine pays
  have backed := reachable.backed collateral
  have part := Ledger.le_sum (fun account => (w.paidOut sender collateral user
    debtToCover).engine.collateralDeposited account collateral) user
  unfold World.Balanced at balanced
  refine ⟨Nat.le_refl _, orderly.engine_ne_zero, orderly.pool_ne_zero, part.trans ?_⟩
  change (w.paidOut sender collateral user debtToCover).deposits collateral ≤
    (w.paidOut sender collateral user debtToCover).held collateral
  omega

theorem liquidate_settles (reachable : Reachable w) (notEngine : sender ≠ w.engineAddress) :
    liquidate standard sender collateral user debtToCover w =
      settle (w.liquidateChecks sender collateral user debtToCover)
        (w.liquidated sender collateral user debtToCover) := by
  have orderly := reachable.orderly
  apply require_bind Nat.not_le
  intro positive
  apply nonReentrant_settles orderly.idle
  · exact orderly.idle
  have begins : healthFactor (w.setStatus .entered) user =
      settle (w.judgeChecks user) (w.health user) := healthFactor_settles
  apply settle_bind begins
  intro _
  apply require_bind Nat.not_le
  intro unhealthy
  have buys : getTokenAmountFromUsd (w.setStatus .entered) collateral debtToCover =
      settle (w.buyChecks collateral debtToCover) (w.covered collateral debtToCover) :=
    getTokenAmountFromUsd_settles
  apply settle_bind buys
  intro bought
  simp only [World.buyChecks, allHold_cons, check_holds] at bought
  obtain ⟨_, scaled, _, priced, _⟩ := bought
  obtain ⟨round, read, _⟩ := World.priced_of_pos priced
  -- with a price the payout cannot overflow
  obtain ⟨bonus_fits, payout_fits⟩ := World.payout_word priced scaled
  apply settle_ok_bind (Checked.mul_eq_ok.mpr ⟨bonus_fits, rfl⟩)
  apply settle_ok_bind (Checked.div_eq_ok.mpr ⟨by decide, rfl⟩)
  apply settle_ok_bind (Checked.add_eq_ok.mpr ⟨payout_fits, rfl⟩)
  have paid := @redeemCollateralInternal_settles (w.setStatus .entered) user sender collateral
    (w.payout collateral debtToCover) orderly.engine_ne_zero
    (reachable.deposit_le_held user collateral)
  apply settle_bind paid
  intro held
  simp only [allHold_cons, check_holds] at held
  obtain ⟨enough, real, _⟩ := held
  have pays : w.Releases user sender collateral (w.payout collateral debtToCover) :=
    ⟨enough, orderly.engine_ne_zero, real, enough.trans (reachable.deposit_le_held user collateral)⟩
  have sweeps := sweep_returns reachable notEngine pays
  have returns : sentAmountLeftToDscPool standard user collateral
      ((w.paidOut sender collateral user debtToCover).setStatus .entered) =
        .ok ((w.swept sender collateral user debtToCover).setStatus .entered) :=
    redeemCollateralInternal_eq_ok.mpr ⟨((w.paidOut sender collateral user
      debtToCover).releases_setStatus _ _ _ _ .entered).mpr sweeps, rfl⟩
  apply settle_ok_bind returns
  have apart : w.engine.dsc ≠ collateral :=
    (orderly.listed_ne_dsc (World.listed_of_read orderly read)).symm
  have coins : (w.swept sender collateral user debtToCover).tokens w.engine.dsc =
      w.tokens w.engine.dsc := World.swept_tokens_of_ne apart
  have burned : burnDscInternal user sender debtToCover
      ((w.swept sender collateral user debtToCover).setStatus .entered) =
        settle (check (debtToCover ≤ w.engine.dscMinted user) (.panic .arithmetic) ::
          (w.tokens w.engine.dsc).pullChecks w.engineAddress sender w.engineAddress debtToCover)
          ((w.liquidated sender collateral user debtToCover).setStatus .entered) := by
    rw [← coins]
    exact burnDscInternal_settles ((orderly.released pays).released sweeps) positive .entered
  apply settle_bind burned
  intro _
  have ends : healthFactor ((w.liquidated sender collateral user debtToCover).setStatus
      .entered) user = settle ((w.liquidated sender collateral user debtToCover).judgeChecks user)
        ((w.liquidated sender collateral user debtToCover).health user) := healthFactor_settles
  apply settle_bind ends
  intro _
  apply require_bind Nat.not_le
  intro _
  have line : revertIfHealthFactorIsBroken ((w.liquidated sender collateral user
      debtToCover).setStatus .entered) sender =
        settle ((w.liquidated sender collateral user debtToCover).lineChecks sender) () :=
    revertIfHealthFactorIsBroken_settles
  apply settle_bind_ok line
  intro _
  rfl

end DSCEngine

end Settles

/-- In every reachable state a call of anyone but the engine is refused for the first of its
conditions that does not hold, stale and missing feeds and overflows among them, and otherwise
leaves its outcome. -/
theorem call_settles {w : World} {sender : Address} (reachable : Reachable w)
    (user : sender ≠ w.engineAddress) (call : EngineCall) :
    call.exec standard sender w = settle (call.checks sender w) (call.outcome sender w) := by
  have orderly := reachable.orderly
  cases call with
  | depositCollateral token amount => exact DSCEngine.depositCollateral_settles orderly.idle
  | depositCollateralAndMintDsc token amountCollateral amountDscToMint =>
      have first := @DSCEngine.depositCollateral_settles w sender token amountCollateral
        orderly.idle
      apply settle_bind first
      intro held
      have reached := @Reachable.returned w _ sender (.depositCollateral token amountCollateral)
        reachable user (first.trans (settle_eq_ok.mpr ⟨held, rfl⟩))
      exact DSCEngine.mintDsc_settles reached.orderly
  | mintDsc amount => exact DSCEngine.mintDsc_settles orderly
  | burnDsc amount => exact DSCEngine.burnDsc_settles orderly
  | redeemCollateral token amount => exact DSCEngine.redeemCollateral_settles reachable
  | redeemCollateralForDsc token amountCollateral amountDscToBurn =>
      have first := @DSCEngine.burnDsc_settles w sender amountDscToBurn orderly
      apply settle_bind first
      intro held
      have reached := @Reachable.returned w _ sender (.burnDsc amountDscToBurn) reachable user
        (first.trans (settle_eq_ok.mpr ⟨held, rfl⟩))
      exact DSCEngine.redeemCollateral_settles reached
  | liquidate collateral user' debtToCover => exact DSCEngine.liquidate_settles reachable user

section Example

open HelperConfig

/-- Taking out all 10 ether while 100 coins are owed is refused at the health check, with a health
factor of zero. -/
theorem call_settles_underwater :
    EngineCall.exec standard user (.redeemCollateral weth (10 * 10 ^ 18)) occupied =
      .error (.engine (.breaksHealthFactor 0)) := by
  have apart : user ≠ occupied.engineAddress := by decide +kernel
  have deposited : 10 * 10 ^ 18 ≤ occupied.engine.collateralDeposited user weth := by
    decide +kernel
  have underwater : (occupied.released user user weth (10 * 10 ^ 18)).health user = 0 := by
    decide +kernel
  rw [call_settles occupied_reachable apart]
  have below : ¬ DSCEngine.minHealthFactor ≤
      (occupied.released user user weth (10 * 10 ^ 18)).health user := by
    rw [underwater]
    decide
  have same := World.SameSetting.released occupied user user weth (10 * 10 ^ 18)
  have less : ∀ token, (occupied.released user user weth
      (10 * 10 ^ 18)).engine.collateralDeposited user token ≤
        occupied.engine.collateralDeposited user token :=
    @Ledger.assign_le _ _ _ _ occupied.engine.collateralDeposited user weth
      (occupied.engine.collateralDeposited user weth - 10 * 10 ^ 18) (Nat.sub_le _ _) user
  have judged := occupied_moderate.judged occupied_reachable same less
  have judgeable := DSCEngine.judgeChecks_hold_iff.mpr ⟨judged.valued, judged.scales⟩
  have refused : settle (occupied.redeemChecks user weth (10 * 10 ^ 18))
      (occupied.released user user weth (10 * 10 ^ 18)) = .error (.engine (.breaksHealthFactor
        ((occupied.released user user weth (10 * 10 ^ 18)).health user))) :=
    calc settle (occupied.redeemChecks user weth (10 * 10 ^ 18)) _
      _ = settle ((occupied.released user user weth (10 * 10 ^ 18)).lineChecks user) _ :=
          (settle_of_holds (by decide)).trans (settle_of_holds deposited)
      _ = settle [check _ (.engine (.breaksHealthFactor _))] _ := settle_append judgeable
      _ = _ := settle_of_fails below
  rw [underwater] at refused
  exact refused

end Example

end DscProtocol
