import DscProtocol.Protocol

set_option autoImplicit false

/- The fuzz campaign of `test/invariant`: the handler that stands between the fuzzer and the engine
(`Handler.t.sol`), the helper of forge-std it bounds its inputs with, and the invariants
(`Invariants.t.sol`). -/
namespace DscProtocol

/-- `_bound` of `StdUtils.sol`: an input outside the range is folded into it, the smallest and the
largest inputs onto its ends. -/
def StdUtils.bound (x min max : Nat) : Except Revert Nat := do
  Checked.require (min ≤ max)
    (.require "StdUtils bound(uint256,uint256,uint256): Max is less than min.")
  if min ≤ x ∧ x ≤ max then
    .ok x
  else do
    let width ← checkedSub max min
    let size ← checkedAdd width 1
    if x ≤ 3 ∧ x < size then
      checkedAdd min x
    else if uint256Max - 3 ≤ x ∧ uint256Max - x < size then
      checkedSub max (uint256Max - x)
    else if max < x then do
      let rem := (x - max) % size
      if rem = 0 then
        .ok max
      else do
        let shifted ← checkedAdd min rem
        checkedSub shifted 1
    else if x < min then do
      let rem := (min - x) % size
      if rem = 0 then
        .ok min
      else do
        let shifted ← checkedSub max rem
        checkedAdd shifted 1
    else
      .ok 0

/-- `int256(word)`: the same bits. -/
def toInt256 (word : Nat) : Int := (BitVec.ofNat 256 word).toInt

/-- Subtraction of two `int256`. -/
def checkedSubInt256 (left right : Int) : Except Revert Int :=
  if -2 ^ 255 ≤ left - right ∧ left - right < 2 ^ 255 then .ok (left - right)
  else .error (.panic .arithmetic)

/-- Storage of `Handler.t.sol`, and its address. The engine and the coin are those of the world. -/
structure Handler where
  address : Address
  weth : Address
  wbtc : Address
  timesMintIsCalled : Nat
  usersWithCollateralDeposited : List Address

/-- The chain with the handler on it. -/
structure Campaign where
  world : World
  handler : Handler

namespace Handler

/-- `type(uint96).max`. -/
def maxDepositSize : Nat := 2 ^ 96 - 1

/-- The constructor reads two entries of the list of tokens and fails without them. -/
def construct (address : Address) (engine : DSCEngine) : Option Handler :=
  match engine.collateralTokens with
  | weth :: wbtc :: _ => some
      { address := address
        weth := weth
        wbtc := wbtc
        timesMintIsCalled := 0
        usersWithCollateralDeposited := [] }
  | _ => none

def getCollateralFromSeed (handler : Handler) (collateralSeed : Nat) : Address :=
  if collateralSeed % 2 = 0 then handler.weth else handler.wbtc

def mintDSC (amount addressSeed : Nat) (c : Campaign) : Except Revert Campaign := do
  let users := c.handler.usersWithCollateralDeposited
  if users.length = 0 then
    .ok c
  else do
    let sender := users.getD (addressSeed % users.length) 0
    let (totalDscMinted, collateralValueInUsd) ← DSCEngine.getAccountInformation c.world sender
    -- division of an `int256` rounds towards zero
    let maxDscToMint ←
      checkedSubInt256 ((toInt256 collateralValueInUsd).tdiv 2) (toInt256 totalDscMinted)
    if maxDscToMint < 0 then
      .ok c
    else do
      let amount ← StdUtils.bound amount 0 maxDscToMint.toNat
      if amount = 0 then
        .ok c
      else do
        let w ← (Action.callEngine sender (.mintDsc amount)).exec c.world
        let times ← checkedAdd c.handler.timesMintIsCalled 1
        .ok { world := w, handler := { c.handler with timesMintIsCalled := times } }

/-- The three calls are made in the name of the fuzzer's sender. -/
def depositCollateral (sender : Address) (collateralSeed amountCollateral : Nat) (c : Campaign) :
    Except Revert Campaign := do
  let collateral := c.handler.getCollateralFromSeed collateralSeed
  let amountCollateral ← StdUtils.bound amountCollateral 1 maxDepositSize
  let w ← (Action.issue collateral sender amountCollateral).exec c.world
  let w ← (Action.callToken sender collateral (.approve w.engineAddress amountCollateral)).exec w
  let w ← (Action.callEngine sender (.depositCollateral collateral amountCollateral)).exec w
  let users := c.handler.usersWithCollateralDeposited ++ [sender]
  .ok { world := w, handler := { c.handler with usersWithCollateralDeposited := users } }

/-- Here the handler itself calls the engine: no prank is started. -/
def redeemCollateral (sender : Address) (collateralSeed amountCollateral : Nat) (c : Campaign) :
    Except Revert Campaign := do
  let collateral := c.handler.getCollateralFromSeed collateralSeed
  let maxCollateralToRedeem := DSCEngine.getCollateralDeposited c.world collateral sender
  let amountCollateral ← StdUtils.bound amountCollateral 0 maxCollateralToRedeem
  if amountCollateral = 0 then
    .ok c
  else do
    let w ← (Action.callEngine c.handler.address
      (.redeemCollateral collateral amountCollateral)).exec c.world
    .ok { c with world := w }

end Handler

/-- What the fuzzer can call, from any sender. -/
inductive HandlerCall where
  | mintDSC (amount addressSeed : Nat)
  | depositCollateral (collateralSeed amountCollateral : Nat)
  | redeemCollateral (collateralSeed amountCollateral : Nat)
  deriving DecidableEq

namespace Campaign

def exec (c : Campaign) (entry : Address × HandlerCall) : Except Revert Campaign :=
  match entry.2 with
  | .mintDSC amount addressSeed => Handler.mintDSC amount addressSeed c
  | .depositCollateral collateralSeed amountCollateral =>
      Handler.depositCollateral entry.1 collateralSeed amountCollateral c
  | .redeemCollateral collateralSeed amountCollateral =>
      Handler.redeemCollateral entry.1 collateralSeed amountCollateral c

/-- With `fail_on_revert = false` a reverting call is rolled back and the campaign goes on. -/
def step : Campaign → Address × HandlerCall → Campaign := Runs.commit exec

/-- The fuzzer's senders are not the engine, its inputs are words. -/
def Fuzzed (c : Campaign) (entry : Address × HandlerCall) : Prop :=
  entry.1 ≠ c.world.engineAddress ∧
  match entry.2 with
  | .mintDSC amount _ => amount < wordLimit
  | .depositCollateral _ amountCollateral => amountCollateral < wordLimit
  | .redeemCollateral _ amountCollateral => amountCollateral < wordLimit

instance (c : Campaign) : (entry : Address × HandlerCall) → Decidable (Fuzzed c entry)
  | (_, .mintDSC amount _) => inferInstanceAs (Decidable (_ ∧ amount < wordLimit))
  | (_, .depositCollateral _ amount) => inferInstanceAs (Decidable (_ ∧ amount < wordLimit))
  | (_, .redeemCollateral _ amount) => inferInstanceAs (Decidable (_ ∧ amount < wordLimit))

end Campaign

/-- `invariant_protocolMustHaveMoreValueThanTotalSupply`: what it asserts. -/
def Invariants.protocolMustHaveMoreValueThanTotalSupply (w : World) (weth wbtc : Address) :
    Except Revert Bool := do
  let totalSupply := (w.tokens w.engine.dsc).totalSupply
  let totalWethDeposited := (w.tokens weth).balances w.engineAddress
  let totalWbtcDeposited := (w.tokens wbtc).balances w.engineAddress
  let wethValue ← DSCEngine.getUsdValue w weth totalWethDeposited
  let wbtcValue ← DSCEngine.getUsdValue w wbtc totalWbtcDeposited
  let value ← checkedAdd wethValue wbtcValue
  .ok (decide (totalSupply ≤ value))

namespace StdUtils

variable {x min max : Nat}

/-- Outside the range the size of the range is a word. -/
theorem size_eq (ordered : min ≤ max) (top : max < wordLimit) (word : x < wordLimit)
    (outside : ¬ (min ≤ x ∧ x ≤ max)) :
    checkedSub max min = .ok (max - min) ∧ checkedAdd (max - min) 1 = .ok (max - min + 1) := by
  constructor
  · exact Checked.sub_eq_ok.mpr ⟨ordered, rfl⟩
  · apply Checked.add_eq_ok.mpr
    refine ⟨?_, rfl⟩
    by_contra full
    exact outside ⟨by omega, by omega⟩

/-- Every word lands in the range, and those that are in it stay where they are. -/
theorem bound_within (ordered : min ≤ max) (top : max < wordLimit) (word : x < wordLimit) :
    ∃ result, bound x min max = .ok result ∧ min ≤ result ∧ result ≤ max ∧
      (min ≤ x → x ≤ max → result = x) := by
  unfold bound
  rw [Checked.require, if_pos ordered, Checked.ok_bind]
  by_cases inside : min ≤ x ∧ x ≤ max
  · rw [if_pos inside]
    exact ⟨x, rfl, inside.1, inside.2, fun _ _ => rfl⟩
  · obtain ⟨width, size⟩ := size_eq ordered top word inside
    have stays : ∀ result, min ≤ x → x ≤ max → result = x :=
      fun _ low high => absurd ⟨low, high⟩ inside
    have limit : wordLimit = uint256Max + 1 := rfl
    rw [if_neg inside, width, Checked.ok_bind, size, Checked.ok_bind]
    split
    · rename_i small
      have shifted : checkedAdd min x = .ok (min + x) := Checked.add_eq_ok.mpr ⟨by omega, rfl⟩
      exact ⟨min + x, shifted, by omega, by omega, stays _⟩
    split
    · rename_i large
      have shifted : checkedSub max (uint256Max - x) = .ok (max - (uint256Max - x)) :=
        Checked.sub_eq_ok.mpr ⟨by omega, rfl⟩
      exact ⟨max - (uint256Max - x), shifted, by omega, by omega, stays _⟩
    split
    · rename_i above
      have rest : (x - max) % (max - min + 1) < max - min + 1 := Nat.mod_lt _ (Nat.succ_pos _)
      dsimp only
      split
      · exact ⟨max, rfl, ordered, Nat.le_refl _, stays _⟩
      · rename_i some
        have shifted : checkedAdd min ((x - max) % (max - min + 1)) = .ok _ :=
          Checked.add_eq_ok.mpr ⟨by omega, rfl⟩
        rw [shifted, Checked.ok_bind]
        refine ⟨_, Checked.sub_eq_ok.mpr ⟨by omega, rfl⟩, by omega, by omega, stays _⟩
    split
    · rename_i below
      have rest : (min - x) % (max - min + 1) < max - min + 1 := Nat.mod_lt _ (Nat.succ_pos _)
      dsimp only
      split
      · exact ⟨min, rfl, Nat.le_refl _, ordered, stays _⟩
      · rename_i some
        have shifted : checkedSub max ((min - x) % (max - min + 1)) = .ok _ :=
          Checked.sub_eq_ok.mpr ⟨by omega, rfl⟩
        rw [shifted, Checked.ok_bind]
        refine ⟨_, Checked.add_eq_ok.mpr ⟨by omega, rfl⟩, by omega, by omega, stays _⟩
    · exact absurd (show min ≤ x ∧ x ≤ max by omega) inside

end StdUtils

end DscProtocol
