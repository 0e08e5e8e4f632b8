import DscProtocol.DecentralisedStableCoin

set_option autoImplicit false

/- The chain state the contracts read and write: the engine's storage, the pool, every token
ledger, the price feeds and the clock. -/
namespace DscProtocol

/-- What a feed reports (`AggregatorV3Interface`). The answer is an `int256`: its bits are the
word the engine casts it to, its signed reading is `answer.toInt`. -/
structure Round where
  roundId : Nat
  answer : BitVec 256
  startedAt : Nat
  updatedAt : Nat
  answeredInRound : Nat
  deriving DecidableEq

inductive ReentrancyStatus where
  | notEntered
  | entered
  deriving DecidableEq

/-- Storage and immutables of `DSCEngine.sol`. -/
structure DSCEngine where
  status : ReentrancyStatus
  priceFeeds : Address → Address
  collateralDeposited : Address → Address → Nat
  dscMinted : Address → Nat
  collateralTokens : List Address
  dsc : Address
  poolAddress : Address

/-- `DSCPool.sol` keeps nothing but its owner. -/
structure DSCPool where
  owner : Address

/-- `tokens` holds the ERC20 part of every token contract, that of the stable coin at
`engine.dsc`; `dscOwner` is the stable coin's owner slot. The pool lives at
`engine.poolAddress`, the engine at `engineAddress`. -/
structure World where
  engineAddress : Address
  engine : DSCEngine
  pool : DSCPool
  tokens : Address → ERC20
  dscOwner : Address
  feeds : Address → Option Round
  etherBalance : Address → Nat
  timestamp : Nat

namespace World

def setToken (w : World) (address : Address) (token : ERC20) : World :=
  { w with tokens := Function.update w.tokens address token }

/-- The stable coin contract the engine was constructed with. -/
def coin (w : World) : DecentralisedStableCoin := { w.tokens w.engine.dsc with owner := w.dscOwner }

def setCoin (w : World) (coin : DecentralisedStableCoin) : World :=
  { w.setToken w.engine.dsc coin.toERC20 with dscOwner := coin.owner }

/-- `s_collateralDeposited[user][token] = amount`. -/
def setDeposited (w : World) (user token : Address) (amount : Nat) : World :=
  { w with engine := { w.engine with
      collateralDeposited := Ledger.assign w.engine.collateralDeposited user token amount } }

/-- `s_DscMinted[user] = amount`. -/
def setMinted (w : World) (user : Address) (amount : Nat) : World :=
  { w with engine := { w.engine with
      dscMinted := Function.update w.engine.dscMinted user amount } }

def setStatus (w : World) (status : ReentrancyStatus) : World :=
  { w with engine := { w.engine with status := status } }

/-- The same state with other feeds at another time. -/
def withFeeds (w : World) (feeds : Address → Option Round) (timestamp : Nat) : World :=
  { w with feeds := feeds, timestamp := timestamp }

/-- A call to a feed address; there is no contract at address zero. -/
def latestRoundData (w : World) (priceFeed : Address) : Except Revert Round :=
  if priceFeed = 0 then .error .noCode
  else match w.feeds priceFeed with
    | some round => .ok round
    | none => .error .noCode

end World

/-- The code behind a collateral token's `transfer` and `transferFrom`, which the engine and
the pool call without knowing it: token, caller, parties and amount. -/
structure TokenCode where
  transfer : Address → Address → Address → Nat → World → Except Revert (Bool × World)
  transferFrom : Address → Address → Address → Address → Nat → World → Except Revert (Bool × World)

/-- The code of a standard token: that of the vendored library, with no callback. -/
def standard : TokenCode where
  transfer := fun address sender target amount w => do
    let (success, token) ← (w.tokens address).transfer sender target amount
    .ok (success, w.setToken address token)
  transferFrom := fun address sender source target amount w => do
    let (success, token) ← (w.tokens address).transferFrom sender source target amount
    .ok (success, w.setToken address token)

end DscProtocol
