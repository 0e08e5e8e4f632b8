import DscProtocol.DSCEngine
import DscProtocol.Lib.Runs

set_option autoImplicit false

/- `DSCPool.sol`, the deployment script and everything anyone can do afterwards: the whole
system as one machine whose actions are transactions. -/
namespace DscProtocol

namespace DSCPool

def onlyOwner (w : World) (sender : Address) : Except Revert Unit :=
  Checked.require (sender = w.pool.owner) (.pool .notOwner)

/-- The guard compares with the pool's ether, `address(this).balance`. -/
def poolHasBalance (w : World) (amount : Nat) : Except Revert Unit :=
  Checked.require (¬ w.etherBalance w.engine.poolAddress < amount) (.pool .doesNotHaveTheAmount)

/-- Here every `collateral` is a token contract, one nobody holds anything of where the chain has no
code. There the source's call reverts; this one pays out 0 at most. -/
def withdraw (code : TokenCode) (sender collateral : Address) (amount : Nat) (w : World) :
    Except Revert World := do
  onlyOwner w sender
  poolHasBalance w amount
  let (success, w) ← code.transfer collateral w.engine.poolAddress sender amount w
  Checked.require success (.pool .transferFailed)
  .ok w

/-- 0 where the chain has no code and the source's call reverts. -/
def getBalance (w : World) (collateral : Address) : Nat :=
  (w.tokens collateral).balances w.engine.poolAddress

end DSCPool

/-- A token ledger whose supply is the sum of its balances. -/
structure ERC20.Sound (token : ERC20) : Prop where
  conserved : ∑ account, token.balances account = token.totalSupply
  bounded : token.totalSupply < wordLimit

/-- What `DeployDSC.s.sol` finds on the chain and the addresses it gets. The script registers
two tokens; here they are any number. -/
structure Deployment where
  deployer : Address
  dscAddress : Address
  poolAddress : Address
  engineAddress : Address
  tokenAddresses : List Address
  priceFeedAddresses : List Address
  tokens : Address → ERC20
  feeds : Address → Option Round
  etherBalance : Address → Nat
  timestamp : Nat
  deployer_ne_zero : deployer ≠ 0
  pool_ne_zero : poolAddress ≠ 0
  engine_ne_zero : engineAddress ≠ 0
  deployer_ne_engine : deployer ≠ engineAddress
  deployer_ne_pool : deployer ≠ poolAddress
  pool_ne_engine : poolAddress ≠ engineAddress
  same_length : tokenAddresses.length = priceFeedAddresses.length
  distinct : tokenAddresses.Nodup
  dsc_not_collateral : dscAddress ∉ tokenAddresses
  sound : ∀ address, (tokens address).Sound
  engine_holds_nothing : ∀ address, (tokens address).balances engineAddress = 0
  engine_allows_nothing : ∀ address spender, (tokens address).allowances engineAddress spender = 0
  pool_has_no_ether : etherBalance poolAddress = 0

namespace Deployment

/-- `DeployDSC.run`: the coin, the pool and the engine are created, then the coin is handed to
the engine. -/
def run (d : Deployment) : Except Revert World := do
  let dsc := DecentralisedStableCoin.deployed d.deployer
  let pool : DSCPool := { owner := d.deployer }
  let engine ←
    DSCEngine.construct d.tokenAddresses d.priceFeedAddresses d.dscAddress d.poolAddress
  let dsc ← dsc.transferOwnership d.deployer d.engineAddress
  .ok { engineAddress := d.engineAddress
        engine := engine
        pool := pool
        tokens := Function.update d.tokens d.dscAddress dsc.toERC20
        dscOwner := dsc.owner
        feeds := d.feeds
        etherBalance := d.etherBalance
        timestamp := d.timestamp }

/-- The deployed state. -/
def start (d : Deployment) : World where
  engineAddress := d.engineAddress
  engine := (d.tokenAddresses.zip d.priceFeedAddresses).foldl DSCEngine.register
    { status := .notEntered
      priceFeeds := fun _ => 0
      collateralDeposited := fun _ _ => 0
      dscMinted := fun _ => 0
      collateralTokens := []
      dsc := d.dscAddress
      poolAddress := d.poolAddress }
  pool := { owner := d.deployer }
  tokens := Function.update d.tokens d.dscAddress ERC20.empty
  dscOwner := d.engineAddress
  feeds := d.feeds
  etherBalance := d.etherBalance
  timestamp := d.timestamp

/-- The script never fails. -/
theorem run_ok (d : Deployment) : d.run = .ok d.start := by
  simp only [run, DSCEngine.construct, d.same_length, DecentralisedStableCoin.transferOwnership,
    DecentralisedStableCoin.onlyOwner, DecentralisedStableCoin.deployed, Checked.require,
    d.engine_ne_zero, ne_eq, not_false_eq_true, ↓reduceIte, Checked.ok_bind]
  rfl

end Deployment

inductive EngineCall where
  | depositCollateral (token : Address) (amount : Nat)
  | depositCollateralAndMintDsc (token : Address) (amountCollateral amountDscToMint : Nat)
  | mintDsc (amount : Nat)
  | burnDsc (amount : Nat)
  | redeemCollateral (token : Address) (amount : Nat)
  | redeemCollateralForDsc (token : Address) (amountCollateral amountDscToBurn : Nat)
  | liquidate (collateral user : Address) (debtToCover : Nat)
  deriving DecidableEq

/-- The ERC20 interface, on a collateral token as on the stable coin. -/
inductive TokenCall where
  | transfer (target : Address) (amount : Nat)
  | transferFrom (source target : Address) (amount : Nat)
  | approve (spender : Address) (amount : Nat)
  | increaseAllowance (spender : Address) (addedValue : Nat)
  | decreaseAllowance (spender : Address) (subtractedValue : Nat)
  deriving DecidableEq

/-- What the stable coin has beyond the ERC20 interface. -/
inductive CoinCall where
  | mint (target : Address) (amount : Nat)
  | burn (amount : Nat)
  | burnFrom (account : Address) (amount : Nat)
  | transferOwnership (newOwner : Address)
  | renounceOwnership
  deriving DecidableEq

/-- One transaction, or one move of the chain: a collateral token is issued, a feed reports,
time passes. -/
inductive Action where
  | callEngine (sender : Address) (call : EngineCall)
  | callToken (sender token : Address) (call : TokenCall)
  | callCoin (sender : Address) (call : CoinCall)
  | withdraw (sender collateral : Address) (amount : Nat)
  | issue (token target : Address) (amount : Nat)
  | updateFeed (priceFeed : Address) (round : Round)
  | advance (seconds : Nat)

def EngineCall.exec (code : TokenCode) (sender : Address) (call : EngineCall) (w : World) :
    Except Revert World :=
  match call with
  | depositCollateral token amount => DSCEngine.depositCollateral code sender token amount w
  | depositCollateralAndMintDsc token amountCollateral amountDscToMint =>
      DSCEngine.depositCollateralAndMintDsc code sender token amountCollateral amountDscToMint w
  | mintDsc amount => DSCEngine.mintDsc sender amount w
  | burnDsc amount => DSCEngine.burnDsc sender amount w
  | redeemCollateral token amount => DSCEngine.redeemCollateral code sender token amount w
  | redeemCollateralForDsc token amountCollateral amountDscToBurn =>
      DSCEngine.redeemCollateralForDsc code sender token amountCollateral amountDscToBurn w
  | liquidate collateral user debtToCover =>
      DSCEngine.liquidate code sender collateral user debtToCover w

def TokenCall.exec (sender : Address) (call : TokenCall) (token : ERC20) :
    Except Revert (Bool × ERC20) :=
  match call with
  | transfer target amount => token.transfer sender target amount
  | transferFrom source target amount => token.transferFrom sender source target amount
  | approve spender amount => token.approve sender spender amount
  | increaseAllowance spender addedValue => token.increaseAllowance sender spender addedValue
  | decreaseAllowance spender subtractedValue =>
      token.decreaseAllowance sender spender subtractedValue

def CoinCall.exec (sender : Address) (call : CoinCall) (coin : DecentralisedStableCoin) :
    Except Revert DecentralisedStableCoin :=
  match call with
  | mint target amount => do
      let (_, coin) ← coin.mint sender target amount
      .ok coin
  | burn amount => coin.burn sender amount
  | burnFrom account amount => coin.burnFrom sender account amount
  | transferOwnership newOwner => coin.transferOwnership sender newOwner
  | renounceOwnership => coin.renounceOwnership sender

def Action.exec (w : World) (action : Action) : Except Revert World :=
  match action with
  | callEngine sender call => call.exec standard sender w
  | callToken sender address call => do
      let (_, token) ← call.exec sender (w.tokens address)
      .ok (w.setToken address token)
  | callCoin sender call => do
      let coin ← call.exec sender w.coin
      .ok (w.setCoin coin)
  | withdraw sender collateral amount => DSCPool.withdraw standard sender collateral amount w
  | issue address target amount => do
      let token ← (w.tokens address).mintInternal target amount
      .ok (w.setToken address token)
  | updateFeed priceFeed round =>
      .ok { w with feeds := Function.update w.feeds priceFeed (some round) }
  | advance seconds => .ok { w with timestamp := w.timestamp + seconds }

/-- A reverting transaction changes nothing. -/
def step : World → Action → World := Runs.commit Action.exec

/-- The account that signs an action, where one does. -/
def Action.sender? : Action → Option Address
  | callEngine sender _ => some sender
  | callToken sender _ _ => some sender
  | callCoin sender _ => some sender
  | withdraw sender _ _ => some sender
  | issue _ _ _ => none
  | updateFeed _ _ => none
  | advance _ => none

/-- Anyone but the engine acts; what a collateral token issues is not the stable coin and does
not go to the engine; an approved amount is a word. -/
def Permitted (w : World) (action : Action) : Prop :=
  action.sender? ≠ some w.engineAddress ∧
  (match action with
    | .issue address target _ => address ≠ w.engine.dsc ∧ target ≠ w.engineAddress
    | .callToken _ _ (.approve _ amount) => amount < wordLimit
    | _ => True)

instance (w : World) : (action : Action) → Decidable (Permitted w action)
  | .issue address target _ =>
      inferInstanceAs (Decidable (_ ∧ address ≠ w.engine.dsc ∧ target ≠ w.engineAddress))
  | .callToken _ _ (.approve _ amount) => inferInstanceAs (Decidable (_ ∧ amount < wordLimit))
  | .callToken _ _ (.transfer _ _) => inferInstanceAs (Decidable (_ ∧ True))
  | .callToken _ _ (.transferFrom _ _ _) => inferInstanceAs (Decidable (_ ∧ True))
  | .callToken _ _ (.increaseAllowance _ _) => inferInstanceAs (Decidable (_ ∧ True))
  | .callToken _ _ (.decreaseAllowance _ _) => inferInstanceAs (Decidable (_ ∧ True))
  | .callEngine _ _ => inferInstanceAs (Decidable (_ ∧ True))
  | .callCoin _ _ => inferInstanceAs (Decidable (_ ∧ True))
  | .withdraw _ _ _ => inferInstanceAs (Decidable (_ ∧ True))
  | .updateFeed _ _ => inferInstanceAs (Decidable (_ ∧ True))
  | .advance _ => inferInstanceAs (Decidable (_ ∧ True))

/-- A state some run of permitted actions reaches from a deployment. -/
def Reachable (w : World) : Prop :=
  ∃ (d : Deployment) (start : World) (actions : List Action),
    d.run = .ok start ∧ Runs.Along step Permitted start actions ∧ w = Runs.run step start actions

end DscProtocol
