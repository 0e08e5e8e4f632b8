import DscProtocol.World

set_option autoImplicit false

/- `DSCEngine.sol` with the oracle library it uses (`OracleLibs.sol`) and the reentrancy
guard, function by function. Events are left out: no function reads them. -/
namespace DscProtocol

namespace OracleLib

/-- 3 hours, in seconds. -/
def timeout : Nat := 3 * 3600

def stalePriceCheckLatestRoundData (w : World) (priceFeed : Address) : Except Revert Round := do
  let round ← w.latestRoundData priceFeed
  let secondsSince ← checkedSub w.timestamp round.updatedAt
  Checked.require (¬ timeout < secondsSince) (.oracle .stalePrice)
  .ok round

end OracleLib

namespace ReentrancyGuard

def nonReentrantBefore (w : World) : Except Revert World := do
  Checked.require (w.engine.status ≠ .entered) (.require "ReentrancyGuard: reentrant call")
  .ok (w.setStatus .entered)

def nonReentrantAfter (w : World) : World := w.setStatus .notEntered

def nonReentrant (body : World → Except Revert World) (w : World) : Except Revert World := do
  let w ← nonReentrantBefore w
  let w ← body w
  .ok (nonReentrantAfter w)

end ReentrancyGuard

namespace DSCEngine

open ReentrancyGuard

def additionalFeedPrecision : Nat := 10 ^ 10

def precision : Nat := 10 ^ 18

def liquidationThreshold : Nat := 50

def liquidationPrecision : Nat := 100

def liquidationBonus : Nat := 10

def minHealthFactor : Nat := 10 ^ 18

def moreThanZero (amount : Nat) : Except Revert Unit :=
  Checked.require (¬ amount ≤ 0) (.engine .needMoreThanZero)

def isAllowedToken (w : World) (token : Address) : Except Revert Unit :=
  Checked.require (w.engine.priceFeeds token ≠ 0) (.engine .notAllowedToken)

/-- One round of the constructor's loop. -/
def register (engine : DSCEngine) (entry : Address × Address) : DSCEngine :=
  { engine with
    priceFeeds := Function.update engine.priceFeeds entry.1 entry.2
    collateralTokens := engine.collateralTokens ++ [entry.1] }

def construct (tokenAddresses priceFeedAddresses : List Address)
    (dscAddress dscPoolAddress : Address) : Except Revert DSCEngine := do
  Checked.require (tokenAddresses.length = priceFeedAddresses.length)
    (.engine .tokenAddressesAndPriceFeedAddressesMustBeSameLength)
  let engine : DSCEngine :=
    { status := .notEntered
      priceFeeds := fun _ => 0
      collateralDeposited := fun _ _ => 0
      dscMinted := fun _ => 0
      collateralTokens := []
      dsc := dscAddress
      poolAddress := dscPoolAddress }
  .ok ((tokenAddresses.zip priceFeedAddresses).foldl register engine)

/- Reading prices and positions -/

def getUsdValue (w : World) (token : Address) (amount : Nat) : Except Revert Nat := do
  let round ← OracleLib.stalePriceCheckLatestRoundData w (w.engine.priceFeeds token)
  let price ← checkedMul round.answer.toNat additionalFeedPrecision
  let product ← checkedMul price amount
  checkedDiv product precision

/-- Unlike `getUsdValue` this reads the feed itself, without the staleness check. -/
def getTokenAmountFromUsd (w : World) (token : Address) (usdAmountInWei : Nat) :
    Except Revert Nat := do
  let round ← w.latestRoundData (w.engine.priceFeeds token)
  let product ← checkedMul usdAmountInWei precision
  let price ← checkedMul round.answer.toNat additionalFeedPrecision
  checkedDiv product price

def getAccountCollateralValue (w : World) (user : Address) : Except Revert Nat :=
  w.engine.collateralTokens.foldlM (fun collateralValueInUsd token => do
    let amount := w.engine.collateralDeposited user token
    let usd ← getUsdValue w token amount
    checkedAdd collateralValueInUsd usd) 0

def getAccountInformation (w : World) (user : Address) : Except Revert (Nat × Nat) := do
  let totalDscMinted := w.engine.dscMinted user
  let collateralValueInUsd ← getAccountCollateralValue w user
  .ok (totalDscMinted, collateralValueInUsd)

def calculateHealthFactor (totalDscMinted collateralValueInUsd : Nat) : Except Revert Nat := do
  let weighted ← checkedMul collateralValueInUsd liquidationThreshold
  let collateralAdjustedForThreshold ← checkedDiv weighted liquidationPrecision
  let scaled ← checkedMul collateralAdjustedForThreshold precision
  checkedDiv scaled totalDscMinted

def healthFactor (w : World) (user : Address) : Except Revert Nat := do
  let (totalDscMinted, collateralValueInUsd) ← getAccountInformation w user
  if totalDscMinted = 0 then
    .ok uint256Max
  else
    calculateHealthFactor totalDscMinted collateralValueInUsd

def getHealthFactor (w : World) (sender : Address) : Except Revert Nat := healthFactor w sender

def revertIfHealthFactorIsBroken (w : World) (user : Address) : Except Revert Unit := do
  let userHealthFactor ← healthFactor w user
  Checked.require (¬ userHealthFactor < minHealthFactor)
    (.engine (.breaksHealthFactor userHealthFactor))

def getCollateralDeposited (w : World) (token user : Address) : Nat :=
  w.engine.collateralDeposited user token

def getDscMinted (w : World) (user : Address) : Nat := w.engine.dscMinted user

/- Moving collateral and debt -/

def redeemCollateralInternal (code : TokenCode) (source target tokenCollateralAddress : Address)
    (amountCollateral : Nat) (w : World) : Except Revert World := do
  let deposited ← checkedSub (w.engine.collateralDeposited source tokenCollateralAddress)
    amountCollateral
  let w := w.setDeposited source tokenCollateralAddress deposited
  let (success, w) ←
    code.transfer tokenCollateralAddress w.engineAddress target amountCollateral w
  Checked.require success (.engine .transferFailed)
  .ok w

def burnDscInternal (onBehalfOf dscFrom : Address) (amountDscToBurn : Nat) (w : World) :
    Except Revert World := do
  let minted ← checkedSub (w.engine.dscMinted onBehalfOf) amountDscToBurn
  let w := w.setMinted onBehalfOf minted
  let (success, coin) ←
    w.coin.transferFrom w.engineAddress dscFrom w.engineAddress amountDscToBurn
  let w := w.setCoin coin
  Checked.require success (.engine .transferFailed)
  let coin ← w.coin.burn w.engineAddress amountDscToBurn
  .ok (w.setCoin coin)

/-- Whatever the user still has deposited of this token goes to the pool. -/
def sentAmountLeftToDscPool (code : TokenCode) (liquidatedUser tokenCollateral : Address)
    (w : World) : Except Revert World :=
  let amountCollateral := w.engine.collateralDeposited liquidatedUser tokenCollateral
  redeemCollateralInternal code liquidatedUser w.engine.poolAddress tokenCollateral
    amountCollateral w

/- Entry points; `sender` is `msg.sender` -/

def depositCollateral (code : TokenCode) (sender tokenCollateralAddress : Address)
    (amountCollateral : Nat) (w : World) : Except Revert World := do
  moreThanZero amountCollateral
  isAllowedToken w tokenCollateralAddress
  nonReentrant (fun w => do
    let deposited ← checkedAdd (w.engine.collateralDeposited sender tokenCollateralAddress)
      amountCollateral
    let w := w.setDeposited sender tokenCollateralAddress deposited
    let (success, w) ← code.transferFrom tokenCollateralAddress w.engineAddress sender
      w.engineAddress amountCollateral w
    Checked.require success (.engine .transferFailed)
    .ok w) w

def mintDsc (sender : Address) (amountDscToMint : Nat) (w : World) : Except Revert World := do
  moreThanZero amountDscToMint
  nonReentrant (fun w => do
    let minted ← checkedAdd (w.engine.dscMinted sender) amountDscToMint
    let w := w.setMinted sender minted
    revertIfHealthFactorIsBroken w sender
    let (minted, coin) ← w.coin.mint w.engineAddress sender amountDscToMint
    let w := w.setCoin coin
    Checked.require minted (.engine .mintFailed)
    .ok w) w

def burnDsc (sender : Address) (amount : Nat) (w : World) : Except Revert World := do
  moreThanZero amount
  burnDscInternal sender sender amount w

def redeemCollateral (code : TokenCode) (sender tokenCollateralAddress : Address)
    (amountCollateral : Nat) (w : World) : Except Revert World := do
  moreThanZero amountCollateral
  nonReentrant (fun w => do
    let w ← redeemCollateralInternal code sender sender tokenCollateralAddress amountCollateral w
    revertIfHealthFactorIsBroken w sender
    .ok w) w

def depositCollateralAndMintDsc (code : TokenCode) (sender tokenCollateralAddress : Address)
    (amountCollateral amountDscToMint : Nat) (w : World) : Except Revert World := do
  let w ← depositCollateral code sender tokenCollateralAddress amountCollateral w
  mintDsc sender amountDscToMint w

def redeemCollateralForDsc (code : TokenCode) (sender tokenCollateralAddress : Address)
    (amountCollateral amountDscToBurn : Nat) (w : World) : Except Revert World := do
  let w ← burnDsc sender amountDscToBurn w
  redeemCollateral code sender tokenCollateralAddress amountCollateral w

/-- What `liquidate` pays for the debt it covers, with the bonus. -/
def totalCollateralToRedeem (w : World) (collateral : Address) (debtToCover : Nat) :
    Except Revert Nat := do
  let tokenAmountFromDebtCovered ← getTokenAmountFromUsd w collateral debtToCover
  let bonus ← checkedMul tokenAmountFromDebtCovered liquidationBonus
  let bonusCollateral ← checkedDiv bonus liquidationPrecision
  checkedAdd tokenAmountFromDebtCovered bonusCollateral

def liquidate (code : TokenCode) (sender collateral user : Address) (debtToCover : Nat)
    (w : World) : Except Revert World := do
  moreThanZero debtToCover
  nonReentrant (fun w => do
    let startingUserHealthFactor ← healthFactor w user
    Checked.require (¬ minHealthFactor ≤ startingUserHealthFactor) (.engine .healthFactorIsFine)
    let tokenAmountFromDebtCovered ← getTokenAmountFromUsd w collateral debtToCover
    let bonus ← checkedMul tokenAmountFromDebtCovered liquidationBonus
    let bonusCollateral ← checkedDiv bonus liquidationPrecision
    let totalCollateralToRedeem ← checkedAdd tokenAmountFromDebtCovered bonusCollateral
    let w ← redeemCollateralInternal code user sender collateral totalCollateralToRedeem w
    let w ← sentAmountLeftToDscPool code user collateral w
    let w ← burnDscInternal user sender debtToCover w
    let endingUserHealthFactor ← healthFactor w user
    Checked.require (¬ endingUserHealthFactor ≤ startingUserHealthFactor)
      (.engine .healthFactoNotImproved)
    revertIfHealthFactorIsBroken w sender
    .ok w) w

end DSCEngine

end DscProtocol
