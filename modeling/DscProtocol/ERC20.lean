import DscProtocol.Chain
import DscProtocol.Lib.Ledger

set_option autoImplicit false

/- The token contract of the vendored library (`ERC20.sol`, `ERC20Burnable.sol`): it is the
base of DecentralisedStableCoin and the standard collateral token. A leading underscore of a
source name becomes the suffix `Internal` where the bare name is another function. -/
namespace DscProtocol

structure ERC20 where
  balances : Address → Nat
  allowances : Address → Address → Nat
  totalSupply : Nat

namespace ERC20

/-- A token contract right after its constructor, before anything is minted. -/
def empty : ERC20 where
  balances := fun _ => 0
  allowances := fun _ _ => 0
  totalSupply := 0

def transferInternal (token : ERC20) (source target : Address) (amount : Nat) :
    Except Revert ERC20 := do
  Checked.require (source ≠ 0) (.require "ERC20: transfer from the zero address")
  Checked.require (target ≠ 0) (.require "ERC20: transfer to the zero address")
  let sourceBalance := token.balances source
  Checked.require (amount ≤ sourceBalance) (.require "ERC20: transfer amount exceeds balance")
  let debited := Function.update token.balances source (sourceBalance - amount)
  .ok { token with
    balances := Function.update debited target (uncheckedAdd (debited target) amount) }

def mintInternal (token : ERC20) (account : Address) (amount : Nat) : Except Revert ERC20 := do
  Checked.require (account ≠ 0) (.require "ERC20: mint to the zero address")
  let totalSupply ← checkedAdd token.totalSupply amount
  .ok { token with
    totalSupply := totalSupply
    balances := Function.update token.balances account
      (uncheckedAdd (token.balances account) amount) }

def burnInternal (token : ERC20) (account : Address) (amount : Nat) : Except Revert ERC20 := do
  Checked.require (account ≠ 0) (.require "ERC20: burn from the zero address")
  let accountBalance := token.balances account
  Checked.require (amount ≤ accountBalance) (.require "ERC20: burn amount exceeds balance")
  .ok { token with
    balances := Function.update token.balances account (accountBalance - amount)
    totalSupply := uncheckedSub token.totalSupply amount }

def approveInternal (token : ERC20) (owner spender : Address) (amount : Nat) :
    Except Revert ERC20 := do
  Checked.require (owner ≠ 0) (.require "ERC20: approve from the zero address")
  Checked.require (spender ≠ 0) (.require "ERC20: approve to the zero address")
  .ok { token with allowances := Ledger.assign token.allowances owner spender amount }

/-- An allowance of `type(uint256).max` is never used up. -/
def spendAllowance (token : ERC20) (owner spender : Address) (amount : Nat) :
    Except Revert ERC20 := do
  let currentAllowance := token.allowances owner spender
  if currentAllowance ≠ uint256Max then
    Checked.require (amount ≤ currentAllowance) (.require "ERC20: insufficient allowance")
    token.approveInternal owner spender (currentAllowance - amount)
  else
    .ok token

def transfer (token : ERC20) (sender target : Address) (amount : Nat) :
    Except Revert (Bool × ERC20) := do
  let token ← token.transferInternal sender target amount
  .ok (true, token)

def approve (token : ERC20) (sender spender : Address) (amount : Nat) :
    Except Revert (Bool × ERC20) := do
  let token ← token.approveInternal sender spender amount
  .ok (true, token)

def transferFrom (token : ERC20) (sender source target : Address) (amount : Nat) :
    Except Revert (Bool × ERC20) := do
  let token ← token.spendAllowance source sender amount
  let token ← token.transferInternal source target amount
  .ok (true, token)

def increaseAllowance (token : ERC20) (sender spender : Address) (addedValue : Nat) :
    Except Revert (Bool × ERC20) := do
  let allowance ← checkedAdd (token.allowances sender spender) addedValue
  let token ← token.approveInternal sender spender allowance
  .ok (true, token)

def decreaseAllowance (token : ERC20) (sender spender : Address) (subtractedValue : Nat) :
    Except Revert (Bool × ERC20) := do
  let currentAllowance := token.allowances sender spender
  Checked.require (subtractedValue ≤ currentAllowance)
    (.require "ERC20: decreased allowance below zero")
  let token ← token.approveInternal sender spender (currentAllowance - subtractedValue)
  .ok (true, token)

/-- `ERC20Burnable.burn`. -/
def burn (token : ERC20) (sender : Address) (amount : Nat) : Except Revert ERC20 :=
  token.burnInternal sender amount

/-- `ERC20Burnable.burnFrom`. -/
def burnFrom (token : ERC20) (sender account : Address) (amount : Nat) : Except Revert ERC20 := do
  let token ← token.spendAllowance account sender amount
  token.burnInternal account amount

end ERC20

end DscProtocol
