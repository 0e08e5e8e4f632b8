import Mathlib.Algebra.Group.Nat.Defs
import Mathlib.Data.Fintype.Basic
import DscProtocol.Lib.Checked

set_option autoImplicit false

/- What the contracts take from the chain they run on: addresses, words, checked arithmetic
and the reasons for which a call reverts. -/
namespace DscProtocol

/-- A 160-bit account address; `0` is `address(0)`. -/
def Address : Type := Fin (2 ^ 160)

namespace Address

instance : DecidableEq Address := inferInstanceAs (DecidableEq (Fin (2 ^ 160)))

instance : Fintype Address := inferInstanceAs (Fintype (Fin (2 ^ 160)))

instance (n : Nat) : OfNat Address n :=
  ⟨(⟨n % 2 ^ 160, Nat.mod_lt n (Nat.two_pow_pos 160)⟩ : Fin (2 ^ 160))⟩

end Address

/-- Storage words are naturals below this limit; `type(uint256).max` is one less. -/
def wordLimit : Nat := 2 ^ 256

def uint256Max : Nat := wordLimit - 1

theorem wordLimit_pos : 0 < wordLimit := by decide

inductive Panic where
  | arithmetic
  | divisionByZero
  deriving DecidableEq, Repr

inductive DSCEngineError where
  | needMoreThanZero
  | tokenAddressesAndPriceFeedAddressesMustBeSameLength
  | notAllowedToken
  | transferFailed
  | breaksHealthFactor (healthFactor : Nat)
  | mintFailed
  | healthFactorIsFine
  | healthFactoNotImproved
  deriving DecidableEq, Repr

inductive DecentralisedStableCoinError where
  | mustBeMoreThanZero
  | burnAmountExceedBalance
  | notZeroAddress
  deriving DecidableEq, Repr

inductive DSCPoolError where
  | notOwner
  | doesNotHaveTheAmount
  | transferFailed
  deriving DecidableEq, Repr

inductive OracleLibError where
  | stalePrice
  deriving DecidableEq, Repr

/-- Why a call was rolled back. `noCode` is the compiler's check that a called address
holds a contract; `require` carries the library's message. -/
inductive Revert where
  | panic (code : Panic)
  | require (message : String)
  | noCode
  | engine (error : DSCEngineError)
  | coin (error : DecentralisedStableCoinError)
  | pool (error : DSCPoolError)
  | oracle (error : OracleLibError)
  deriving DecidableEq, Repr

abbrev checkedAdd : Nat → Nat → Except Revert Nat := Checked.add wordLimit (.panic .arithmetic)

abbrev checkedSub : Nat → Nat → Except Revert Nat := Checked.sub (.panic .arithmetic)

abbrev checkedMul : Nat → Nat → Except Revert Nat := Checked.mul wordLimit (.panic .arithmetic)

abbrev checkedDiv : Nat → Nat → Except Revert Nat := Checked.div (.panic .divisionByZero)

/-- Addition and subtraction inside an `unchecked` block wrap around. -/
def uncheckedAdd (left right : Nat) : Nat := (left + right) % wordLimit

def uncheckedSub (left right : Nat) : Nat := (left + wordLimit - right) % wordLimit

theorem uncheckedAdd_eq {left right : Nat} (fits : left + right < wordLimit) :
    uncheckedAdd left right = left + right := Nat.mod_eq_of_lt fits

theorem uncheckedSub_eq {left right : Nat} (enough : right ≤ left) (fits : left < wordLimit) :
    uncheckedSub left right = left - right := by
  unfold uncheckedSub
  rw [show left + wordLimit - right = left - right + wordLimit by omega, Nat.add_mod_right]
  exact Nat.mod_eq_of_lt (by omega)

end DscProtocol
