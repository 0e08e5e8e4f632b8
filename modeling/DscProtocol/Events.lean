import DscProtocol.Lib.Journal
import DscProtocol.Protocol

set_option autoImplicit false

/- The same contracts with the events they emit, each `emit` where the source has it. A reverted
call leaves no event. -/
namespace DscProtocol

/-- The events of the three contracts and of the tokens; those of a token name its address, those
of ownership are the stable coin's. `DSCPool` declares `Received` and never emits it. -/
inductive Event where
  | transfer (token source target : Address) (value : Nat)
  | approval (token owner spender : Address) (value : Nat)
  | ownershipTransferred (previousOwner newOwner : Address)
  | collateralDeposited (sender tokenAddress : Address) (amountDeposited : Nat)
  | collateralRedeemed (redeemedFrom redeemedTo token : Address) (amount : Nat)
  | dscBurned (sender : Address) (amount : Nat)
  deriving DecidableEq

abbrev Emits : Type → Type := Journal.Writes Revert Event

namespace ERC20.Emitting

def transferInternal (address : Address) (token : ERC20) (source target : Address) (amount : Nat) :
    Emits ERC20 := do
  let token ← token.transferInternal source target amount
  tell [.transfer address source target amount]
  return token

def mintInternal (address : Address) (token : ERC20) (account : Address) (amount : Nat) :
    Emits ERC20 := do
  let token ← token.mintInternal account amount
  tell [.transfer address 0 account amount]
  return token

def burnInternal (address : Address) (token : ERC20) (account : Address) (amount : Nat) :
    Emits ERC20 := do
  let token ← token.burnInternal account amount
  tell [.transfer address account 0 amount]
  return token

def approveInternal (address : Address) (token : ERC20) (owner spender : Address) (amount : Nat) :
    Emits ERC20 := do
  let token ← token.approveInternal owner spender amount
  tell [.approval address owner spender amount]
  return token

/-- An unlimited allowance is not written, so it leaves no event. -/
def spendAllowance (address : Address) (token : ERC20) (owner spender : Address) (amount : Nat) :
    Emits ERC20 := do
  let currentAllowance := token.allowances owner spender
  if currentAllowance ≠ uint256Max then
    Checked.require (amount ≤ currentAllowance) (Revert.require "ERC20: insufficient allowance")
    approveInternal address token owner spender (currentAllowance - amount)
  else
    return token

def transfer (address : Address) (token : ERC20) (sender target : Address) (amount : Nat) :
    Emits (Bool × ERC20) := do
  let token ← transferInternal address token sender target amount
  return (true, token)

def approve (address : Address) (token : ERC20) (sender spender : Address) (amount : Nat) :
    Emits (Bool × ERC20) := do
  let token ← approveInternal address token sender spender amount
  return (true, token)

def transferFrom (address : Address) (token : ERC20) (sender source target : Address)
    (amount : Nat) : Emits (Bool × ERC20) := do
  let token ← spendAllowance address token source sender amount
  let token ← transferInternal address token source target amount
  return (true, token)

def increaseAllowance (address : Address) (token : ERC20) (sender spender : Address)
    (addedValue : Nat) : Emits (Bool × ERC20) := do
  let allowance ← checkedAdd (token.allowances sender spender) addedValue
  let token ← approveInternal address token sender spender allowance
  return (true, token)

def decreaseAllowance (address : Address) (token : ERC20) (sender spender : Address)
    (subtractedValue : Nat) : Emits (Bool × ERC20) := do
  let currentAllowance := token.allowances sender spender
  Checked.require (subtractedValue ≤ currentAllowance)
    (Revert.require "ERC20: decreased allowance below zero")
  let token ← approveInternal address token sender spender (currentAllowance - subtractedValue)
  return (true, token)

def burn (address : Address) (token : ERC20) (sender : Address) (amount : Nat) : Emits ERC20 :=
  burnInternal address token sender amount

def burnFrom (address : Address) (token : ERC20) (sender account : Address) (amount : Nat) :
    Emits ERC20 := do
  let token ← spendAllowance address token account sender amount
  burnInternal address token account amount

end ERC20.Emitting

namespace DecentralisedStableCoin.Emitting

def burn (address : Address) (coin : DecentralisedStableCoin) (sender : Address) (amount : Nat) :
    Emits DecentralisedStableCoin := do
  coin.onlyOwner sender
  let balance := coin.balances sender
  Checked.require (¬ amount ≤ 0) (Revert.coin .mustBeMoreThanZero)
  Checked.require (¬ balance < amount) (Revert.coin .burnAmountExceedBalance)
  let token ← ERC20.Emitting.burn address coin.toERC20 sender amount
  return { coin with toERC20 := token }

def mint (address : Address) (coin : DecentralisedStableCoin) (sender target : Address)
    (amount : Nat) : Emits (Bool × DecentralisedStableCoin) := do
  coin.onlyOwner sender
  Checked.require (target ≠ 0) (Revert.coin .notZeroAddress)
  Checked.require (¬ amount ≤ 0) (Revert.coin .mustBeMoreThanZero)
  let token ← ERC20.Emitting.mintInternal address coin.toERC20 target amount
  return (true, { coin with toERC20 := token })

def burnFrom (address : Address) (coin : DecentralisedStableCoin) (sender account : Address)
    (amount : Nat) : Emits DecentralisedStableCoin := do
  let token ← ERC20.Emitting.burnFrom address coin.toERC20 sender account amount
  return { coin with toERC20 := token }

def transferFrom (address : Address) (coin : DecentralisedStableCoin)
    (sender source target : Address) (amount : Nat) :
    Emits (Bool × DecentralisedStableCoin) := do
  let (success, token) ←
    ERC20.Emitting.transferFrom address coin.toERC20 sender source target amount
  return (success, { coin with toERC20 := token })

/-- `Ownable._transferOwnership`. -/
def transferOwnershipInternal (coin : DecentralisedStableCoin) (newOwner : Address) :
    Emits DecentralisedStableCoin := do
  let oldOwner := coin.owner
  tell [.ownershipTransferred oldOwner newOwner]
  return { coin with owner := newOwner }

def transferOwnership (coin : DecentralisedStableCoin) (sender newOwner : Address) :
    Emits DecentralisedStableCoin := do
  coin.onlyOwner sender
  Checked.require (newOwner ≠ 0) (Revert.require "Ownable: new owner is the zero address")
  transferOwnershipInternal coin newOwner

def renounceOwnership (coin : DecentralisedStableCoin) (sender : Address) :
    Emits DecentralisedStableCoin := do
  coin.onlyOwner sender
  transferOwnershipInternal coin 0

end DecentralisedStableCoin.Emitting

/-- The calls of the engine and the pool on a standard token. -/
def standardTransfer (address sender target : Address) (amount : Nat) (w : World) :
    Emits (Bool × World) := do
  let (success, token) ← ERC20.Emitting.transfer address (w.tokens address) sender target amount
  return (success, w.setToken address token)

def standardTransferFrom (address sender source target : Address) (amount : Nat) (w : World) :
    Emits (Bool × World) := do
  let (success, token) ←
    ERC20.Emitting.transferFrom address (w.tokens address) sender source target amount
  return (success, w.setToken address token)

namespace DSCEngine.Emitting

open ReentrancyGuard

def nonReentrant (body : World → Emits World) (w : World) : Emits World := do
  let w ← nonReentrantBefore w
  let w ← body w
  return nonReentrantAfter w

def redeemCollateralInternal (source target tokenCollateralAddress : Address)
    (amountCollateral : Nat) (w : World) : Emits World := do
  let deposited ← checkedSub (w.engine.collateralDeposited source tokenCollateralAddress)
    amountCollateral
  let w := w.setDeposited source tokenCollateralAddress deposited
  tell [.collateralRedeemed source target tokenCollateralAddress amountCollateral]
  let (success, w) ←
    standardTransfer tokenCollateralAddress w.engineAddress target amountCollateral w
  Checked.require success (Revert.engine .transferFailed)
  return w

def burnDscInternal (onBehalfOf dscFrom : Address) (amountDscToBurn : Nat) (w : World) :
    Emits World := do
  let minted ← checkedSub (w.engine.dscMinted onBehalfOf) amountDscToBurn
  let w := w.setMinted onBehalfOf minted
  tell [.dscBurned onBehalfOf amountDscToBurn]
  let (success, coin) ← DecentralisedStableCoin.Emitting.transferFrom w.engine.dsc w.coin
    w.engineAddress dscFrom w.engineAddress amountDscToBurn
  let w := w.setCoin coin
  Checked.require success (Revert.engine .transferFailed)
  let coin ← DecentralisedStableCoin.Emitting.burn w.engine.dsc w.coin w.engineAddress
    amountDscToBurn
  return w.setCoin coin

def sentAmountLeftToDscPool (liquidatedUser tokenCollateral : Address) (w : World) :
    Emits World :=
  let amountCollateral := w.engine.collateralDeposited liquidatedUser tokenCollateral
  redeemCollateralInternal liquidatedUser w.engine.poolAddress tokenCollateral amountCollateral w

def depositCollateral (sender tokenCollateralAddress : Address) (amountCollateral : Nat)
    (w : World) : Emits World := do
  moreThanZero amountCollateral
  isAllowedToken w tokenCollateralAddress
  nonReentrant (fun w => do
    let deposited ← checkedAdd (w.engine.collateralDeposited sender tokenCollateralAddress)
      amountCollateral
    let w := w.setDeposited sender tokenCollateralAddress deposited
    tell [.collateralDeposited sender tokenCollateralAddress amountCollateral]
    let (success, w) ← standardTransferFrom tokenCollateralAddress w.engineAddress sender
      w.engineAddress amountCollateral w
    Checked.require success (Revert.engine .transferFailed)
    return w) w

def mintDsc (sender : Address) (amountDscToMint : Nat) (w : World) : Emits World := do
  moreThanZero amountDscToMint
  nonReentrant (fun w => do
    let minted ← checkedAdd (w.engine.dscMinted sender) amountDscToMint
    let w := w.setMinted sender minted
    revertIfHealthFactorIsBroken w sender
    let (minted, coin) ← DecentralisedStableCoin.Emitting.mint w.engine.dsc w.coin w.engineAddress
      sender amountDscToMint
    let w := w.setCoin coin
    Checked.require minted (Revert.engine .mintFailed)
    return w) w

def burnDsc (sender : Address) (amount : Nat) (w : World) : Emits World := do
  moreThanZero amount
  burnDscInternal sender sender amount w

def redeemCollateral (sender tokenCollateralAddress : Address) (amountCollateral : Nat)
    (w : World) : Emits World := do
  moreThanZero amountCollateral
  nonReentrant (fun w => do
    let w ← redeemCollateralInternal sender sender tokenCollateralAddress amountCollateral w
    revertIfHealthFactorIsBroken w sender
    return w) w

def depositCollateralAndMintDsc (sender tokenCollateralAddress : Address)
    (amountCollateral amountDscToMint : Nat) (w : World) : Emits World := do
  let w ← depositCollateral sender tokenCollateralAddress amountCollateral w
  mintDsc sender amountDscToMint w

def redeemCollateralForDsc (sender tokenCollateralAddress : Address)
    (amountCollateral amountDscToBurn : Nat) (w : World) : Emits World := do
  let w ← burnDsc sender amountDscToBurn w
  redeemCollateral sender tokenCollateralAddress amountCollateral w

def liquidate (sender collateral user : Address) (debtToCover : Nat) (w : World) :
    Emits World := do
  moreThanZero debtToCover
  nonReentrant (fun w => do
    let startingUserHealthFactor ← healthFactor w user
    Checked.require (¬ minHealthFactor ≤ startingUserHealthFactor)
      (Revert.engine .healthFactorIsFine)
    let tokenAmountFromDebtCovered ← getTokenAmountFromUsd w collateral debtToCover
    let bonus ← checkedMul tokenAmountFromDebtCovered liquidationBonus
    let bonusCollateral ← checkedDiv bonus liquidationPrecision
    let totalCollateralToRedeem ← checkedAdd tokenAmountFromDebtCovered bonusCollateral
    let w ← redeemCollateralInternal user sender collateral totalCollateralToRedeem w
    let w ← sentAmountLeftToDscPool user collateral w
    let w ← burnDscInternal user sender debtToCover w
    let endingUserHealthFactor ← healthFactor w user
    Checked.require (¬ endingUserHealthFactor ≤ startingUserHealthFactor)
      (Revert.engine .healthFactoNotImproved)
    revertIfHealthFactorIsBroken w sender
    return w) w

end DSCEngine.Emitting

def DSCPool.Emitting.withdraw (sender collateral : Address) (amount : Nat) (w : World) :
    Emits World := do
  onlyOwner w sender
  poolHasBalance w amount
  let (success, w) ← standardTransfer collateral w.engine.poolAddress sender amount w
  Checked.require success (Revert.pool .transferFailed)
  return w

def EngineCall.emit (sender : Address) (call : EngineCall) (w : World) : Emits World :=
  match call with
  | depositCollateral token amount => DSCEngine.Emitting.depositCollateral sender token amount w
  | depositCollateralAndMintDsc token amountCollateral amountDscToMint =>
      DSCEngine.Emitting.depositCollateralAndMintDsc sender token amountCollateral amountDscToMint w
  | mintDsc amount => DSCEngine.Emitting.mintDsc sender amount w
  | burnDsc amount => DSCEngine.Emitting.burnDsc sender amount w
  | redeemCollateral token amount => DSCEngine.Emitting.redeemCollateral sender token amount w
  | redeemCollateralForDsc token amountCollateral amountDscToBurn =>
      DSCEngine.Emitting.redeemCollateralForDsc sender token amountCollateral amountDscToBurn w
  | liquidate collateral user debtToCover =>
      DSCEngine.Emitting.liquidate sender collateral user debtToCover w

def TokenCall.emit (address sender : Address) (call : TokenCall) (token : ERC20) :
    Emits (Bool × ERC20) :=
  match call with
  | transfer target amount => ERC20.Emitting.transfer address token sender target amount
  | transferFrom source target amount =>
      ERC20.Emitting.transferFrom address token sender source target amount
  | approve spender amount => ERC20.Emitting.approve address token sender spender amount
  | increaseAllowance spender addedValue =>
      ERC20.Emitting.increaseAllowance address token sender spender addedValue
  | decreaseAllowance spender subtractedValue =>
      ERC20.Emitting.decreaseAllowance address token sender spender subtractedValue

def CoinCall.emit (address sender : Address) (call : CoinCall) (coin : DecentralisedStableCoin) :
    Emits DecentralisedStableCoin :=
  match call with
  | mint target amount => do
      let (_, coin) ← DecentralisedStableCoin.Emitting.mint address coin sender target amount
      return coin
  | burn amount => DecentralisedStableCoin.Emitting.burn address coin sender amount
  | burnFrom account amount =>
      DecentralisedStableCoin.Emitting.burnFrom address coin sender account amount
  | transferOwnership newOwner =>
      DecentralisedStableCoin.Emitting.transferOwnership coin sender newOwner
  | renounceOwnership => DecentralisedStableCoin.Emitting.renounceOwnership coin sender

/-- A transaction with its events; feeds and clock emit nothing here. -/
def Action.emit (w : World) (action : Action) : Emits World :=
  match action with
  | callEngine sender call => call.emit sender w
  | callToken sender address call => do
      let (_, token) ← call.emit address sender (w.tokens address)
      return w.setToken address token
  | callCoin sender call => do
      let coin ← call.emit w.engine.dsc sender w.coin
      return w.setCoin coin
  | withdraw sender collateral amount => DSCPool.Emitting.withdraw sender collateral amount w
  | issue address target amount => do
      let token ← ERC20.Emitting.mintInternal address (w.tokens address) target amount
      return w.setToken address token
  | updateFeed priceFeed round =>
      return { w with feeds := Function.update w.feeds priceFeed (some round) }
  | advance seconds => return { w with timestamp := w.timestamp + seconds }

/-- The events an action leaves on the chain. -/
def Action.events (w : World) (action : Action) : List Event :=
  match (action.emit w).run with
  | .ok (_, events) => events
  | .error _ => []

end DscProtocol
