import DscProtocol.TokenLedger

set_option autoImplicit false

/- `HelperConfig.s.sol`: the networks the script deploys on. On the local one it creates mock feeds
and mock tokens, on Sepolia it finds them. -/
namespace DscProtocol

/-- `MockV3Aggregator` after its constructor's `updateAnswer`. -/
def MockV3Aggregator.deployed (initialAnswer : BitVec 256) (timestamp : Nat) : Round where
  roundId := 1
  answer := initialAnswer
  startedAt := timestamp
  updatedAt := timestamp
  answeredInRound := 1

/-- `MockV3Aggregator.updateAnswer`. -/
def MockV3Aggregator.updateAnswer (round : Round) (answer : BitVec 256) (timestamp : Nat) :
    Round where
  roundId := round.roundId + 1
  answer := answer
  startedAt := timestamp
  updatedAt := timestamp
  answeredInRound := round.roundId + 1

/-- `ERC20Mock` after its constructor's mint. -/
def ERC20Mock.deployed (initialAccount : Address) (initialBalance : Nat) : ERC20 :=
  ERC20.empty.minted initialAccount initialBalance

theorem ERC20Mock.deployed_sound {initialAccount : Address} {initialBalance : Nat}
    (bounded : initialBalance < wordLimit) : (deployed initialAccount initialBalance).Sound :=
  ERC20.Sound.empty.minted (by
    change 0 + initialBalance < wordLimit
    omega)

namespace HelperConfig

def ethUsdPrice : BitVec 256 := BitVec.ofNat 256 (2000 * 10 ^ 8)

def btcUsdPrice : BitVec 256 := BitVec.ofNat 256 (20000 * 10 ^ 8)

def initialEthBalance : Nat := 10 * 10 ^ 18

def initialBtcBalance : Nat := 1000 * 10 ^ 18

def weth : Address := 0x101

def wbtc : Address := 0x102

def wethUsdPriceFeed : Address := 0x201

def wbtcUsdPriceFeed : Address := 0x202

def deployer : Address := 0xd0

/-- The `DeployDSC` contract: it creates the `HelperConfig`, whose constructor has the mocks mint
to `msg.sender`. -/
def script : Address := 0xd1

/-- `getOrCreateAnvilEthConfig`, then the script. The addresses the chain hands out are fixed
here. -/
def anvil : Deployment where
  deployer := deployer
  dscAddress := 0x100
  poolAddress := 0x300
  engineAddress := 0x400
  tokenAddresses := [weth, wbtc]
  priceFeedAddresses := [wethUsdPriceFeed, wbtcUsdPriceFeed]
  tokens := fun address =>
    if address = weth then ERC20Mock.deployed script initialEthBalance
    else if address = wbtc then ERC20Mock.deployed script initialBtcBalance
    else ERC20.empty
  feeds := fun address =>
    if address = wethUsdPriceFeed then some (MockV3Aggregator.deployed ethUsdPrice 1000000)
    else if address = wbtcUsdPriceFeed then some (MockV3Aggregator.deployed btcUsdPrice 1000000)
    else none
  etherBalance := fun _ => 0
  timestamp := 1000000
  deployer_ne_zero := by decide
  pool_ne_zero := by decide
  engine_ne_zero := by decide
  deployer_ne_engine := by decide
  deployer_ne_pool := by decide
  pool_ne_engine := by decide
  same_length := rfl
  distinct := by decide
  dsc_not_collateral := by decide
  sound := by
    intro address
    split
    · exact ERC20Mock.deployed_sound (by decide)
    · split
      · exact ERC20Mock.deployed_sound (by decide)
      · exact ERC20.Sound.empty
  engine_holds_nothing := by
    intro address
    split
    · exact ERC20.minted_balances_of_ne (by decide)
    · split
      · exact ERC20.minted_balances_of_ne (by decide)
      · rfl
  engine_allows_nothing := by
    intro address spender
    split
    · rfl
    · split <;> rfl
  pool_has_no_ether := rfl

/-- What the script takes from a `NetworkConfig`. -/
structure NetworkConfig where
  wethUsdPriceFeed : Address
  wbtcUsdPriceFeed : Address
  weth : Address
  wbtc : Address

def getSepoliaEthConfig : NetworkConfig where
  wethUsdPriceFeed := 0x694AA1769357215DE4FAC081bf1f309aDC325306
  wbtcUsdPriceFeed := 0x1b44F3514812d835EB1BDB0acB33d3fA3351Ee43
  weth := 0xdd13E55209Fd76AfE204dBda4007C227904f0a81
  wbtc := 0x8f3Cf7ad23Cd3CaDbD9735AFf958023239c6A063

/-- A deployment from `getSepoliaEthConfig`, the two feeds reporting the same prices with their 8
decimals. The tokens are the ones on that network: a bitcoin is `10 ^ 8` units of its `wbtc`, and
one account has all 21 million. -/
def sepolia : Deployment where
  deployer := deployer
  dscAddress := 0x100
  poolAddress := 0x300
  engineAddress := 0x400
  tokenAddresses := [getSepoliaEthConfig.weth, getSepoliaEthConfig.wbtc]
  priceFeedAddresses := [getSepoliaEthConfig.wethUsdPriceFeed, getSepoliaEthConfig.wbtcUsdPriceFeed]
  tokens := fun address =>
    if address = getSepoliaEthConfig.wbtc then
      ERC20.empty.minted 0x8bc (21 * 10 ^ 6 * 10 ^ 8)
    else ERC20.empty
  feeds := fun address =>
    if address = getSepoliaEthConfig.wethUsdPriceFeed then
      some (MockV3Aggregator.deployed ethUsdPrice 1000000)
    else if address = getSepoliaEthConfig.wbtcUsdPriceFeed then
      some (MockV3Aggregator.deployed btcUsdPrice 1000000)
    else none
  etherBalance := fun _ => 0
  timestamp := 1000000
  deployer_ne_zero := by decide
  pool_ne_zero := by decide
  engine_ne_zero := by decide
  deployer_ne_engine := by decide
  deployer_ne_pool := by decide
  pool_ne_engine := by decide
  same_length := rfl
  distinct := by decide
  dsc_not_collateral := by decide
  sound := by
    intro address
    split
    · exact ERC20.Sound.empty.minted (by decide)
    · exact ERC20.Sound.empty
  engine_holds_nothing := by
    intro address
    split
    · exact ERC20.minted_balances_of_ne (by decide)
    · rfl
  engine_allows_nothing := by
    intro address spender
    split <;> rfl
  pool_has_no_ether := rfl

def user : Address := 0x501

def liquidator : Address := 0x502

/-- The situation of the liquidation tests: an open position, its coins in the hands of a
liquidator without debt. -/
def indebted : List Action :=
  [.issue weth user (100 * 10 ^ 18),
    .callToken user weth (.approve anvil.engineAddress (10 * 10 ^ 18)),
    .callEngine user (.depositCollateralAndMintDsc weth (10 * 10 ^ 18) (100 * 10 ^ 18)),
    .callToken user anvil.dscAddress (.transfer liquidator (100 * 10 ^ 18)),
    .callToken liquidator anvil.dscAddress (.approve anvil.engineAddress (100 * 10 ^ 18))]

/-- Ether gets a new price. -/
def reprice (price : Nat) : Action :=
  .updateFeed wethUsdPriceFeed (MockV3Aggregator.updateAnswer
    (MockV3Aggregator.deployed ethUsdPrice 1000000) (BitVec.ofNat 256 price) 1000000)

def repriced (price : Nat) : World :=
  Runs.run step anvil.start (indebted ++ [reprice price])

theorem repriced_permitted (price : Nat) :
    Runs.Along step Permitted anvil.start (indebted ++ [reprice price]) := by
  have opened : Runs.Along step Permitted anvil.start indebted := by decide +kernel
  have unsigned : (reprice price).sender? ≠
      some (Runs.run step anvil.start indebted).engineAddress := by
    intro impossible
    cases impossible
  apply (Runs.along_append anvil.start indebted [reprice price]).mpr
  exact ⟨opened, ⟨unsigned, trivial⟩, trivial⟩

theorem repriced_reachable (price : Nat) : Reachable (repriced price) :=
  ⟨anvil, anvil.start, _, anvil.run_ok, repriced_permitted price, rfl⟩

/-- Apart from the feed nothing depends on the new price. -/
theorem repriced_eq (price : Nat) :
    repriced price = step (Runs.run step anvil.start indebted) (reprice price) := by
  rw [repriced, Runs.run_append]
  rfl

end HelperConfig

end DscProtocol
