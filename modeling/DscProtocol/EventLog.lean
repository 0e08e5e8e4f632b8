import DscProtocol.Events
import DscProtocol.LedgerEffects
import DscProtocol.Reachability

set_option autoImplicit false

/- What the events are worth: an observer who reads nothing else knows every balance, allowance,
supply, deposit and debt. -/
namespace DscProtocol

open Journal (Records)

namespace ERC20

/-- A finite allowance is written back when it is used. -/
def spentEvents (address : Address) (token : ERC20) (owner spender : Address) (amount : Nat) :
    List Event :=
  if token.allowances owner spender ≠ uint256Max then
    [.approval address owner spender (token.allowances owner spender - amount)]
  else []

def pulledEvents (address : Address) (token : ERC20) (sender source target : Address)
    (amount : Nat) : List Event :=
  token.spentEvents address source sender amount ++ [.transfer address source target amount]

namespace Emitting

variable {address : Address} {token : ERC20} {sender source target owner spender account : Address}
  {amount : Nat}

theorem transferInternal_records :
    Records (transferInternal address token source target amount)
      (token.transferInternal source target amount) [.transfer address source target amount] :=
  Journal.records_announced _ _

theorem mintInternal_records :
    Records (mintInternal address token account amount) (token.mintInternal account amount)
      [.transfer address 0 account amount] :=
  Journal.records_announced _ _

theorem burnInternal_records :
    Records (burnInternal address token account amount) (token.burnInternal account amount)
      [.transfer address account 0 amount] :=
  Journal.records_announced _ _

theorem approveInternal_records :
    Records (approveInternal address token owner spender amount)
      (token.approveInternal owner spender amount) [.approval address owner spender amount] :=
  Journal.records_announced _ _

theorem spendAllowance_records :
    Records (spendAllowance address token owner spender amount)
      (token.spendAllowance owner spender amount)
      (token.spentEvents address owner spender amount) := by
  unfold spendAllowance ERC20.spendAllowance spentEvents
  by_cases finite : token.allowances owner spender ≠ uint256Max
  · simp only [finite, ne_eq, not_false_eq_true, ↓reduceIte]
    exact Records.lift_bind (fun _ _ => approveInternal_records)
  · simp only [finite, ↓reduceIte]
    exact Journal.records_pure token

theorem transfer_records :
    Records (transfer address token sender target amount) (token.transfer sender target amount)
      [.transfer address sender target amount] :=
  transferInternal_records.map _

theorem approve_records :
    Records (approve address token sender spender amount) (token.approve sender spender amount)
      [.approval address sender spender amount] :=
  approveInternal_records.map _

theorem transferFrom_records :
    Records (transferFrom address token sender source target amount)
      (token.transferFrom sender source target amount)
      (token.pulledEvents address sender source target amount) :=
  spendAllowance_records.bind (fun _ _ => transferInternal_records.map _)

theorem increaseAllowance_records :
    Records (increaseAllowance address token sender spender amount)
      (token.increaseAllowance sender spender amount)
      [.approval address sender spender (token.allowances sender spender + amount)] := by
  apply Records.lift_bind
  intro allowance added
  obtain ⟨_, rfl⟩ := Checked.add_eq_ok.mp added
  exact approveInternal_records.map _

theorem decreaseAllowance_records :
    Records (decreaseAllowance address token sender spender amount)
      (token.decreaseAllowance sender spender amount)
      [.approval address sender spender (token.allowances sender spender - amount)] :=
  Records.lift_bind (fun _ _ => approveInternal_records.map _)

theorem burnFrom_records :
    Records (burnFrom address token sender account amount) (token.burnFrom sender account amount)
      (token.spentEvents address account sender amount ++
        [.transfer address account 0 amount]) :=
  spendAllowance_records.bind (fun _ _ => burnInternal_records)

end Emitting

end ERC20

namespace DecentralisedStableCoin.Emitting

variable {address : Address} {coin : DecentralisedStableCoin}
  {sender source target account newOwner : Address} {amount : Nat}

theorem burn_records :
    Records (burn address coin sender amount) (coin.burn sender amount)
      [.transfer address sender 0 amount] :=
  Records.lift_bind (fun _ _ => Records.lift_bind (fun _ _ => Records.lift_bind (fun _ _ =>
    ERC20.Emitting.burnInternal_records.map _)))

theorem mint_records :
    Records (mint address coin sender target amount) (coin.mint sender target amount)
      [.transfer address 0 target amount] :=
  Records.lift_bind (fun _ _ => Records.lift_bind (fun _ _ => Records.lift_bind (fun _ _ =>
    ERC20.Emitting.mintInternal_records.map _)))

theorem burnFrom_records :
    Records (burnFrom address coin sender account amount) (coin.burnFrom sender account amount)
      (coin.spentEvents address account sender amount ++ [.transfer address account 0 amount]) :=
  ERC20.Emitting.burnFrom_records.map _

theorem transferFrom_records :
    Records (transferFrom address coin sender source target amount)
      (coin.transferFrom sender source target amount)
      (coin.pulledEvents address sender source target amount) :=
  ERC20.Emitting.transferFrom_records.map _

theorem transferOwnership_records :
    Records (transferOwnership coin sender newOwner) (coin.transferOwnership sender newOwner)
      [.ownershipTransferred coin.owner newOwner] :=
  Records.lift_bind (fun _ _ => Records.lift_bind (fun _ _ =>
    Records.tell_bind (Journal.records_pure _)))

theorem renounceOwnership_records :
    Records (renounceOwnership coin sender) (coin.renounceOwnership sender)
      [.ownershipTransferred coin.owner 0] :=
  Records.lift_bind (fun _ _ => Records.tell_bind (Journal.records_pure _))

end DecentralisedStableCoin.Emitting

namespace World

variable (w : World) (sender source target token account onBehalfOf dscFrom : Address)
  (amount : Nat)

/- The events of the four effects -/

def receivedEvents : List Event :=
  .collateralDeposited sender token amount ::
    (w.tokens token).pulledEvents token w.engineAddress sender w.engineAddress amount

def releasedEvents : List Event :=
  [.collateralRedeemed source target token amount, .transfer token w.engineAddress target amount]

def issuedEvents : List Event := [.transfer w.engine.dsc 0 account amount]

def repaidEvents : List Event :=
  .dscBurned onBehalfOf amount ::
    ((w.tokens w.engine.dsc).pulledEvents w.engine.dsc w.engineAddress dscFrom w.engineAddress
      amount ++ [.transfer w.engine.dsc w.engineAddress 0 amount])

/-- What a liquidation announces: the payout, the sweep into the pool, the repayment. -/
def liquidatedEvents (sender collateral user : Address) (debtToCover : Nat) : List Event :=
  w.releasedEvents user sender collateral (w.payout collateral debtToCover) ++
    (w.releasedEvents user w.engine.poolAddress collateral
        (w.engine.collateralDeposited user collateral - w.payout collateral debtToCover) ++
      w.repaidEvents user sender debtToCover)

variable {w : World}

/-- Moving collateral leaves every allowance alone, that of the coin included. -/
theorem released_allowances (other : Address) :
    ((w.released source target token amount).tokens other).allowances =
      (w.tokens other).allowances := by
  by_cases same : other = token
  · rw [same, released_token]
    rfl
  · rw [released_tokens_of_ne same]

theorem repaidEvents_released {payer debtor : Address} {debt : Nat} :
    (w.released source target token amount).repaidEvents debtor payer debt =
      w.repaidEvents debtor payer debt := by
  have same := @released_allowances source target token amount w w.engine.dsc
  have address : (w.released source target token amount).engine.dsc = w.engine.dsc := rfl
  have engine : (w.released source target token amount).engineAddress = w.engineAddress := rfl
  simp only [repaidEvents, ERC20.pulledEvents, ERC20.spentEvents, address, engine, same]

end World

namespace DSCEngine.Emitting

open ReentrancyGuard

variable {w : World} {sender source target token collateral user onBehalfOf dscFrom : Address}
  {amount : Nat}

theorem nonReentrant_records {body : World → Emits World} {plain : World → Except Revert World}
    {entries : List Event}
    (inside : Records (body (w.setStatus .entered)) (plain (w.setStatus .entered)) entries) :
    Records (nonReentrant body w) (ReentrancyGuard.nonReentrant plain w) entries := by
  apply Records.lift_bind
  intro entered guarded
  simp only [nonReentrantBefore, Checked.bind_eq_ok, Checked.require_eq_ok, exists_const,
    Except.ok.injEq] at guarded
  obtain ⟨_, rfl⟩ := guarded
  exact inside.map _

theorem redeemCollateralInternal_records :
    Records (redeemCollateralInternal source target token amount w)
      (DSCEngine.redeemCollateralInternal standard source target token amount w)
      (w.releasedEvents source target token amount) := by
  apply Records.lift_bind
  intro deposited _
  have transferred : Records (standardTransfer token w.engineAddress target amount
      (w.setDeposited source token deposited)) (standard.transfer token w.engineAddress target
        amount (w.setDeposited source token deposited))
      [.transfer token w.engineAddress target amount] :=
    ERC20.Emitting.transfer_records.map _
  exact Records.tell_bind (transferred.bind_quiet (fun _ _ =>
    Records.lift_bind (fun _ _ => Journal.records_pure _)))

theorem burnDscInternal_records :
    Records (burnDscInternal onBehalfOf dscFrom amount w)
      (DSCEngine.burnDscInternal onBehalfOf dscFrom amount w)
      (w.repaidEvents onBehalfOf dscFrom amount) := by
  apply Records.lift_bind
  intro minted _
  have pulled : Records (DecentralisedStableCoin.Emitting.transferFrom w.engine.dsc
      (w.setMinted onBehalfOf minted).coin w.engineAddress dscFrom w.engineAddress amount)
      ((w.setMinted onBehalfOf minted).coin.transferFrom w.engineAddress dscFrom w.engineAddress
        amount) ((w.tokens w.engine.dsc).pulledEvents w.engine.dsc w.engineAddress dscFrom
          w.engineAddress amount) :=
    DecentralisedStableCoin.Emitting.transferFrom_records
  exact Records.tell_bind (pulled.bind (fun _ _ => Records.lift_bind (fun _ _ =>
    DecentralisedStableCoin.Emitting.burn_records.map _)))

theorem depositCollateral_records :
    Records (depositCollateral sender token amount w)
      (DSCEngine.depositCollateral standard sender token amount w)
      (w.receivedEvents sender token amount) := by
  apply Records.lift_bind
  intro _ _
  apply Records.lift_bind
  intro _ _
  apply nonReentrant_records
  apply Records.lift_bind
  intro deposited _
  have pulled : Records (standardTransferFrom token w.engineAddress sender w.engineAddress amount
      ((w.setStatus .entered).setDeposited sender token deposited))
      (standard.transferFrom token w.engineAddress sender w.engineAddress amount
        ((w.setStatus .entered).setDeposited sender token deposited))
      ((w.tokens token).pulledEvents token w.engineAddress sender w.engineAddress amount) :=
    ERC20.Emitting.transferFrom_records.map _
  exact Records.tell_bind (pulled.bind_quiet (fun _ _ =>
    Records.lift_bind (fun _ _ => Journal.records_pure _)))

theorem mintDsc_records :
    Records (mintDsc sender amount w) (DSCEngine.mintDsc sender amount w)
      (w.issuedEvents sender amount) := by
  apply Records.lift_bind
  intro _ _
  apply nonReentrant_records
  apply Records.lift_bind
  intro _ _
  apply Records.lift_bind
  intro _ _
  exact DecentralisedStableCoin.Emitting.mint_records.bind_quiet (fun _ _ =>
    Records.lift_bind (fun _ _ => Journal.records_pure _))

theorem burnDsc_records :
    Records (burnDsc sender amount w) (DSCEngine.burnDsc sender amount w)
      (w.repaidEvents sender sender amount) :=
  Records.lift_bind (fun _ _ => burnDscInternal_records)

theorem redeemCollateral_records :
    Records (redeemCollateral sender token amount w)
      (DSCEngine.redeemCollateral standard sender token amount w)
      (w.releasedEvents sender sender token amount) := by
  apply Records.lift_bind
  intro _ _
  apply nonReentrant_records
  exact redeemCollateralInternal_records.bind_quiet (fun _ _ =>
    Records.lift_bind (fun _ _ => Journal.records_pure _))

theorem totalCollateralToRedeem_eq {covered bonus bonusCollateral total : Nat}
    (bought : getTokenAmountFromUsd w collateral amount = .ok covered)
    (scaled : checkedMul covered liquidationBonus = .ok bonus)
    (shared : checkedDiv bonus liquidationPrecision = .ok bonusCollateral)
    (summed : checkedAdd covered bonusCollateral = .ok total) :
    total = w.payout collateral amount := by
  obtain ⟨_, _, _, rfl⟩ := getTokenAmountFromUsd_eq_ok.mp bought
  obtain ⟨_, rfl⟩ := Checked.mul_eq_ok.mp scaled
  obtain ⟨_, rfl⟩ := Checked.div_eq_ok.mp shared
  obtain ⟨_, rfl⟩ := Checked.add_eq_ok.mp summed
  rfl

theorem liquidate_records :
    Records (liquidate sender collateral user amount w)
      (DSCEngine.liquidate standard sender collateral user amount w)
      (w.liquidatedEvents sender collateral user amount) := by
  apply Records.lift_bind
  intro _ _
  apply nonReentrant_records
  apply Records.lift_bind
  intro starting _
  apply Records.lift_bind
  intro _ _
  apply Records.lift_bind
  intro covered bought
  apply Records.lift_bind
  intro bonus scaled
  apply Records.lift_bind
  intro bonusCollateral shared
  apply Records.lift_bind
  intro total summed
  obtain rfl := totalCollateralToRedeem_eq bought scaled shared summed
  apply Records.bind redeemCollateralInternal_records
  intro paid payment
  obtain ⟨_, rfl⟩ := redeemCollateralInternal_eq_ok.mp payment
  have rest : ((w.setStatus .entered).released user sender collateral
      (w.payout collateral amount)).engine.collateralDeposited user collateral =
        w.engine.collateralDeposited user collateral - w.payout collateral amount :=
    Ledger.assign_self _ _ _ _
  have sweeps : Records (sentAmountLeftToDscPool user collateral ((w.setStatus .entered).released
      user sender collateral (w.payout collateral amount)))
      (DSCEngine.sentAmountLeftToDscPool standard user collateral
        ((w.setStatus .entered).released user sender collateral (w.payout collateral amount)))
      (w.releasedEvents user w.engine.poolAddress collateral
        (w.engine.collateralDeposited user collateral - w.payout collateral amount)) := by
    rw [← rest]
    exact redeemCollateralInternal_records
  apply sweeps.bind
  intro swept sweep
  obtain ⟨_, rfl⟩ := redeemCollateralInternal_eq_ok.mp sweep
  have burns := @burnDscInternal_records (((w.setStatus .entered).released user sender collateral
    (w.payout collateral amount)).released user w.engine.poolAddress collateral
      (((w.setStatus .entered).released user sender collateral
        (w.payout collateral amount)).engine.collateralDeposited user collateral)) user sender
          amount
  rw [World.repaidEvents_released, World.repaidEvents_released] at burns
  exact burns.bind_quiet (fun _ _ => Records.lift_bind (fun _ _ => Records.lift_bind (fun _ _ =>
    Records.lift_bind (fun _ _ => Journal.records_pure _))))

end DSCEngine.Emitting

theorem DSCPool.Emitting.withdraw_records {w : World} {sender collateral : Address} {amount : Nat} :
    Records (withdraw sender collateral amount w)
      (DSCPool.withdraw standard sender collateral amount w)
      [.transfer collateral w.engine.poolAddress sender amount] := by
  have transferred : Records (standardTransfer collateral w.engine.poolAddress sender amount w)
      (standard.transfer collateral w.engine.poolAddress sender amount w)
      [.transfer collateral w.engine.poolAddress sender amount] :=
    ERC20.Emitting.transfer_records.map _
  exact Records.lift_bind (fun _ _ => Records.lift_bind (fun _ _ => transferred.bind_quiet
    (fun _ _ => Records.lift_bind (fun _ _ => Journal.records_pure _))))

/- What each transaction announces -/

def EngineCall.announces (w : World) (sender : Address) (call : EngineCall) : List Event :=
  match call with
  | depositCollateral token amount => w.receivedEvents sender token amount
  | depositCollateralAndMintDsc token amountCollateral amountDscToMint =>
      w.receivedEvents sender token amountCollateral ++ w.issuedEvents sender amountDscToMint
  | mintDsc amount => w.issuedEvents sender amount
  | burnDsc amount => w.repaidEvents sender sender amount
  | redeemCollateral token amount => w.releasedEvents sender sender token amount
  | redeemCollateralForDsc token amountCollateral amountDscToBurn =>
      w.repaidEvents sender sender amountDscToBurn ++
        w.releasedEvents sender sender token amountCollateral
  | liquidate collateral user debtToCover => w.liquidatedEvents sender collateral user debtToCover

def TokenCall.announces (address sender : Address) (call : TokenCall) (token : ERC20) :
    List Event :=
  match call with
  | transfer target amount => [.transfer address sender target amount]
  | transferFrom source target amount => token.pulledEvents address sender source target amount
  | approve spender amount => [.approval address sender spender amount]
  | increaseAllowance spender addedValue =>
      [.approval address sender spender (token.allowances sender spender + addedValue)]
  | decreaseAllowance spender subtractedValue =>
      [.approval address sender spender (token.allowances sender spender - subtractedValue)]

def CoinCall.announces (address sender : Address) (call : CoinCall)
    (coin : DecentralisedStableCoin) : List Event :=
  match call with
  | mint target amount => [.transfer address 0 target amount]
  | burn amount => [.transfer address sender 0 amount]
  | burnFrom account amount =>
      coin.spentEvents address account sender amount ++ [.transfer address account 0 amount]
  | transferOwnership newOwner => [.ownershipTransferred coin.owner newOwner]
  | renounceOwnership => [.ownershipTransferred coin.owner 0]

def Action.announces (w : World) (action : Action) : List Event :=
  match action with
  | callEngine sender call => call.announces w sender
  | callToken sender address call => call.announces address sender (w.tokens address)
  | callCoin sender call => call.announces w.engine.dsc sender w.coin
  | withdraw sender collateral amount =>
      [.transfer collateral w.engine.poolAddress sender amount]
  | issue address target amount => [.transfer address 0 target amount]
  | updateFeed _ _ => []
  | advance _ => []

variable {w after : World} {sender : Address} {action : Action}

theorem EngineCall.emit_records (call : EngineCall) :
    Records (call.emit sender w) (call.exec standard sender w) (call.announces w sender) := by
  cases call with
  | depositCollateral token amount => exact DSCEngine.Emitting.depositCollateral_records
  | depositCollateralAndMintDsc token amountCollateral amountDscToMint =>
      apply DSCEngine.Emitting.depositCollateral_records.bind
      intro middle deposited
      obtain ⟨_, _, _, _, rfl⟩ := DSCEngine.depositCollateral_eq_ok.mp deposited
      exact DSCEngine.Emitting.mintDsc_records
  | mintDsc amount => exact DSCEngine.Emitting.mintDsc_records
  | burnDsc amount => exact DSCEngine.Emitting.burnDsc_records
  | redeemCollateral token amount => exact DSCEngine.Emitting.redeemCollateral_records
  | redeemCollateralForDsc token amountCollateral amountDscToBurn =>
      apply DSCEngine.Emitting.burnDsc_records.bind
      intro middle burned
      obtain ⟨_, rfl⟩ := DSCEngine.burnDsc_eq_ok.mp burned
      exact DSCEngine.Emitting.redeemCollateral_records
  | liquidate collateral user debtToCover => exact DSCEngine.Emitting.liquidate_records

theorem TokenCall.emit_records {address : Address} {token : ERC20} (call : TokenCall) :
    Records (call.emit address sender token) (call.exec sender token)
      (call.announces address sender token) := by
  cases call with
  | transfer target amount => exact ERC20.Emitting.transfer_records
  | transferFrom source target amount => exact ERC20.Emitting.transferFrom_records
  | approve spender amount => exact ERC20.Emitting.approve_records
  | increaseAllowance spender addedValue => exact ERC20.Emitting.increaseAllowance_records
  | decreaseAllowance spender subtractedValue => exact ERC20.Emitting.decreaseAllowance_records

theorem CoinCall.emit_records {address : Address} {coin : DecentralisedStableCoin}
    (call : CoinCall) :
    Records (call.emit address sender coin) (call.exec sender coin)
      (call.announces address sender coin) := by
  cases call with
  | mint target amount => exact DecentralisedStableCoin.Emitting.mint_records.map _
  | burn amount => exact DecentralisedStableCoin.Emitting.burn_records
  | burnFrom account amount => exact DecentralisedStableCoin.Emitting.burnFrom_records
  | transferOwnership newOwner => exact DecentralisedStableCoin.Emitting.transferOwnership_records
  | renounceOwnership => exact DecentralisedStableCoin.Emitting.renounceOwnership_records

/-- Emitting changes nothing else: without its events a transaction is the one of the model. -/
theorem Action.emit_records (w : World) (action : Action) :
    Records (action.emit w) (action.exec w) (action.announces w) := by
  cases action with
  | callEngine sender call => exact call.emit_records
  | callToken sender address call => exact call.emit_records.map _
  | callCoin sender call => exact call.emit_records.map _
  | withdraw sender collateral amount => exact DSCPool.Emitting.withdraw_records
  | issue address target amount => exact ERC20.Emitting.mintInternal_records.map _
  | updateFeed priceFeed round => exact Journal.records_pure _
  | advance seconds => exact Journal.records_pure _

theorem Action.events_of_ok (success : action.exec w = .ok after) :
    action.events w = action.announces w := by
  unfold Action.events
  rw [(Action.emit_records w action).run_of_ok success]

end DscProtocol
