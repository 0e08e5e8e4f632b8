import DscProtocol.ERC20

set_option autoImplicit false

/- `DecentralisedStableCoin.sol`: the burnable token with an owner who alone mints and burns. -/
namespace DscProtocol

structure DecentralisedStableCoin extends ERC20 where
  owner : Address

namespace DecentralisedStableCoin

/-- The state after the constructor: no supply, owned by the account that deployed it. -/
def deployed (sender : Address) : DecentralisedStableCoin := { ERC20.empty with owner := sender }

def onlyOwner (coin : DecentralisedStableCoin) (sender : Address) : Except Revert Unit :=
  Checked.require (coin.owner = sender) (.require "Ownable: caller is not the owner")

def burn (coin : DecentralisedStableCoin) (sender : Address) (amount : Nat) :
    Except Revert DecentralisedStableCoin := do
  coin.onlyOwner sender
  let balance := coin.balances sender
  Checked.require (¬ amount ≤ 0) (.coin .mustBeMoreThanZero)
  Checked.require (¬ balance < amount) (.coin .burnAmountExceedBalance)
  let token ← coin.toERC20.burn sender amount
  .ok { coin with toERC20 := token }

def mint (coin : DecentralisedStableCoin) (sender target : Address) (amount : Nat) :
    Except Revert (Bool × DecentralisedStableCoin) := do
  coin.onlyOwner sender
  Checked.require (target ≠ 0) (.coin .notZeroAddress)
  Checked.require (¬ amount ≤ 0) (.coin .mustBeMoreThanZero)
  let token ← coin.toERC20.mintInternal target amount
  .ok (true, { coin with toERC20 := token })

/-- Inherited from `ERC20Burnable` as it stands: unlike `burn` it is not restricted. -/
def burnFrom (coin : DecentralisedStableCoin) (sender account : Address) (amount : Nat) :
    Except Revert DecentralisedStableCoin := do
  let token ← coin.toERC20.burnFrom sender account amount
  .ok { coin with toERC20 := token }

def transferFrom (coin : DecentralisedStableCoin) (sender source target : Address)
    (amount : Nat) : Except Revert (Bool × DecentralisedStableCoin) := do
  let (success, token) ← coin.toERC20.transferFrom sender source target amount
  .ok (success, { coin with toERC20 := token })

def transferOwnership (coin : DecentralisedStableCoin) (sender newOwner : Address) :
    Except Revert DecentralisedStableCoin := do
  coin.onlyOwner sender
  Checked.require (newOwner ≠ 0) (.require "Ownable: new owner is the zero address")
  .ok { coin with owner := newOwner }

def renounceOwnership (coin : DecentralisedStableCoin) (sender : Address) :
    Except Revert DecentralisedStableCoin := do
  coin.onlyOwner sender
  .ok { coin with owner := 0 }

end DecentralisedStableCoin

end DscProtocol
