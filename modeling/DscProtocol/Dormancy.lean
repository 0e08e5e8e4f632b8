import DscProtocol.LiquidationSpec
import DscProtocol.Ownership
import DscProtocol.PoolRecovery

set_option autoImplicit false

/- The wallet of an account that signs nothing: what arrives stays, and what goes others have drawn
on the allowances it has given. -/
namespace DscProtocol

/-- What an action brings an account that does not sign it: tokens sent or issued to it and, for
the pool, what a liquidation sweeps. -/
def Action.arriving (token account : Address) (w : World) (action : Action) : Nat :=
  match action with
  | issue address target amount => if address = token ∧ target = account then amount else 0
  | callEngine _ (.liquidate collateral user debtToCover) =>
      if collateral = token ∧ account = w.engine.poolAddress then
        w.engine.collateralDeposited user collateral - w.payout collateral debtToCover
      else 0
  | _ => action.sent token account

/-- What an action draws on the allowances of an account. -/
def Action.drawn (token account : Address) (w : World) (action : Action) : Nat :=
  match action with
  | callToken _ address (.transferFrom source _ amount) =>
      if address = token ∧ source = account then amount else 0
  | callCoin _ (.burnFrom owner amount) =>
      if w.engine.dsc = token ∧ owner = account then amount else 0
  | _ => 0

/-- The part of it that one spender draws. -/
def Action.drawnBy (spender token account : Address) (w : World) (action : Action) : Nat :=
  if action.sender? = some spender then action.drawn token account w else 0

/-- Anyone else acts. -/
def Unsigned (account : Address) (w : World) (action : Action) : Prop :=
  Permitted w action ∧ action.sender? ≠ some account

instance (account : Address) (w : World) (action : Action) :
    Decidable (Unsigned account w action) := inferInstanceAs (Decidable (_ ∧ _))

theorem Action.drawn_of_sent_nothing {w : World} {sender address token account : Address}
    {call : TokenCall} (nothing : ∀ target, call.sent target = 0) :
    Action.drawn token account w (.callToken sender address call) = 0 := by
  cases call with
  | transferFrom source target amount =>
      have sent := nothing target
      simp only [TokenCall.sent, ↓reduceIte] at sent
      simp only [drawn, sent, ite_self]
  | _ => rfl

namespace ERC20

variable {token : ERC20} {owner spender account other : Address} {amount : Nat}

/-- Drawing on a limited allowance uses it up, and no other. -/
theorem spent_flow (limited : token.allowances account other < uint256Max)
    (may : token.MaySpend owner spender amount) :
    (token.spent owner spender amount).allowances account other +
        (if spender = other ∧ owner = account then amount else 0) =
      token.allowances account other := by
  by_cases finite : token.allowances owner spender = uint256Max
  · have untouched : token.spent owner spender amount = token := if_neg (not_not_intro finite)
    have elsewhere : ¬ (spender = other ∧ owner = account) := by
      intro same
      rw [same.1, same.2] at finite
      omega
    rw [untouched, if_neg elsewhere, Nat.add_zero]
  · have within : amount ≤ token.allowances owner spender := by
      rcases may with unlimited | ⟨enough, _, _⟩
      · exact absurd unlimited finite
      · exact enough
    have cells : (token.spent owner spender amount).allowances =
        Ledger.assign token.allowances owner spender
          (token.allowances owner spender - amount) := by
      unfold spent
      rw [if_pos finite]
      rfl
    rw [cells, Ledger.assign_apply]
    by_cases own : spender = other ∧ owner = account
    · obtain ⟨drawer, same⟩ := own
      subst drawer same
      simp only [and_self, ↓reduceIte]
      omega
    · have apart : ¬ (account = owner ∧ other = spender) := fun same =>
        own ⟨same.2.symm, same.1.symm⟩
      rw [if_neg apart, if_neg own, Nat.add_zero]

/-- Burnt tokens are gone from one account. -/
theorem burned_flow (enough : amount ≤ token.balances owner) :
    (token.burned owner amount).balances account + (if owner = account then amount else 0) =
      token.balances account := by
  by_cases own : owner = account
  · subst own
    simp only [burned, Function.update_self, ↓reduceIte]
    omega
  · rw [burned_balances_of_ne (Ne.symm own), if_neg own, Nat.add_zero]

end ERC20

namespace World

variable {w after : World} {sender token account spender : Address} {action : Action}

/-- What holds of the ledger that is written holds of any, where it holds of the others as they
were. -/
theorem setToken_flow {address : Address} {contract : ERC20} {loss gain : Nat}
    (cell : ERC20 → Nat)
    (here : token = address → cell contract + loss = cell (w.tokens address) + gain)
    (elsewhere : token ≠ address → loss = 0 ∧ gain = 0) :
    cell ((w.setToken address contract).tokens token) + loss = cell (w.tokens token) + gain := by
  by_cases same : token = address
  · subst same
    rw [tokens_setToken]
    exact here rfl
  · obtain ⟨noLoss, noGain⟩ := elsewhere same
    rw [tokens_setToken_of_ne contract same, noLoss, noGain]

theorem change_balance (orderly : w.Orderly) (unsigned : action.sender? ≠ some account)
    {address : Address} {contract : ERC20} (change : LedgerChange w action address contract)
    (success : action.exec w = .ok (w.setToken address contract)) :
    ((w.setToken address contract).tokens token).balances account + action.drawn token account w =
      (w.tokens token).balances account + action.arriving token account w := by
  have sound := orderly.sound address
  apply setToken_flow (fun contract => contract.balances account)
  · intro same
    subst same
    cases change with
    | @transfer sender _ target amount real receiver enough =>
        have stranger : account ≠ sender := fun same => unsigned (congrArg some same.symm)
        simp only [Action.drawn, Action.arriving, Action.sent, TokenCall.sent, ↓reduceIte,
          Nat.add_zero]
        exact sound.moved_balance_of_ne_source enough stranger
    | @transferFrom sender _ source target amount pulls =>
        simp only [Action.drawn, Action.arriving, Action.sent, TokenCall.sent, true_and,
          ↓reduceIte]
        rw [sound.pulled_balances pulls.enough]
        exact Ledger.move_flow _ target account pulls.enough
    | @approve sender _ spender amount call nothing =>
        rw [Action.drawn_of_sent_nothing nothing]
        simp only [Action.arriving, Action.sent, nothing account, ite_self]
        rfl
    | @burnFrom sender owner amount may real enough =>
        have covered : amount ≤ ((w.tokens w.engine.dsc).spent owner sender amount).balances
            owner := by
          rw [ERC20.spent_balances]
          exact enough
        have gone := @ERC20.burned_flow _ owner account amount covered
        rw [ERC20.spent_balances] at gone
        simp only [Action.drawn, true_and]
        exact gone
    | @withdraw sender _ amount real receiver enough =>
        have none : amount = 0 := DSCPool.withdraw_only_nothing orderly success
        have moved := @ERC20.Sound.moved_balances _ _ sender _ sound enough
        rw [none, Ledger.move_zero] at moved
        rw [none]
        exact congrFun moved account
    | @issue _ target amount real fits =>
        simp only [Action.drawn, Action.arriving, true_and, sound.minted_balances fits]
        by_cases receives : target = account
        · subst receives
          simp only [Function.update_self, ↓reduceIte]
          omega
        · rw [Function.update_of_ne (Ne.symm receives), if_neg receives]
  · intro apart
    cases change with
    | transfer | transferFrom | issue =>
        simp [Action.drawn, Action.arriving, Action.sent, apart.symm]
    | @approve sender _ spender amount call nothing =>
        cases call <;> simp [Action.drawn, Action.arriving, Action.sent, apart.symm]
    | burnFrom => simp [Action.drawn, Action.arriving, Action.sent, apart.symm]
    | withdraw => exact ⟨rfl, rfl⟩

/-- Without the owner's signature no allowance grows, and a limited one falls by what is drawn
on it. -/
theorem change_allowance (unsigned : action.sender? ≠ some account) {address : Address}
    {contract : ERC20} (change : LedgerChange w action address contract)
    (limited : (w.tokens token).allowances account spender < uint256Max) :
    ((w.setToken address contract).tokens token).allowances account spender +
        action.drawnBy spender token account w = (w.tokens token).allowances account spender := by
  apply @setToken_flow w token address contract _ 0
    (fun contract => contract.allowances account spender)
  · intro same
    subst same
    cases change with
    | @transferFrom sender _ source target amount pulls =>
        simp only [Action.drawnBy, Action.sender?, Action.drawn, Option.some.injEq, true_and,
          ← ite_and]
        exact ERC20.spent_flow limited pulls.allowed
    | @burnFrom sender owner amount may real enough =>
        simp only [Action.drawnBy, Action.sender?, Action.drawn, Option.some.injEq, true_and,
          ← ite_and]
        exact ERC20.spent_flow limited may
    | @approve sender _ other amount call nothing =>
        have stranger : account ≠ sender := fun same => unsigned (congrArg some same.symm)
        have row : ((w.tokens token).approved sender other amount).allowances account =
            (w.tokens token).allowances account := Ledger.assign_row _ _ _ _ _ stranger
        simp only [Action.drawnBy, Action.drawn_of_sent_nothing nothing, ite_self, row]
    | transfer | withdraw | issue => simp only [Action.drawnBy, Action.drawn, ite_self]; rfl
  · intro apart
    refine ⟨?_, rfl⟩
    cases change with
    | @approve sender _ other amount call nothing =>
        simp only [Action.drawnBy, Action.drawn_of_sent_nothing nothing, ite_self]
    | transfer | transferFrom | burnFrom | withdraw | issue =>
        simp only [Action.drawnBy, Action.drawn, apart.symm, false_and, ite_self, ↓reduceIte]

/-- Without its owner's signature no allowance grows, limited or not. -/
theorem change_allowance_le (unsigned : action.sender? ≠ some account) {address : Address}
    {contract : ERC20} (change : LedgerChange w action address contract) :
    ((w.setToken address contract).tokens token).allowances account spender ≤
      (w.tokens token).allowances account spender := by
  have cell : contract.allowances account spender ≤
      (w.tokens address).allowances account spender := by
    cases change with
    | transferFrom pulls => exact ERC20.spent_allowances_le account spender
    | burnFrom may real enough => exact ERC20.spent_allowances_le account spender
    | @approve sender _ other amount call nothing =>
        have stranger : account ≠ sender := fun same => unsigned (congrArg some same.symm)
        have row : ((w.tokens address).approved sender other amount).allowances account =
            (w.tokens address).allowances account := Ledger.assign_row _ _ _ _ _ stranger
        rw [row]
    | transfer | withdraw | issue => exact Nat.le_refl _
  by_cases same : token = address
  · subst same
    rw [tokens_setToken]
    exact cell
  · rw [tokens_setToken_of_ne contract same]

/-- The pool gets what a liquidation leaves of the deposit. -/
theorem liquidated_pool {collateral user : Address} {debtToCover : Nat} (orderly : w.Orderly)
    (notPool : w.engine.poolAddress ≠ sender)
    (liquidates : w.Liquidates sender collateral user debtToCover) :
    ((w.liquidated sender collateral user debtToCover).tokens token).balances
        w.engine.poolAddress =
      (w.tokens token).balances w.engine.poolAddress +
        (if collateral = token then
          w.engine.collateralDeposited user collateral - w.payout collateral debtToCover else 0) ∧
      ((w.liquidated sender collateral user debtToCover).tokens token).allowances
        w.engine.poolAddress = (w.tokens token).allowances w.engine.poolAddress := by
  have pool := orderly.pool_ne_engine
  have paid : SameWallet w.engine.poolAddress w (w.paidOut sender collateral user debtToCover) :=
    released_wallet notPool pool
  have burned : SameWallet w.engine.poolAddress (w.swept sender collateral user debtToCover)
      (w.liquidated sender collateral user debtToCover) := repaid_wallet notPool pool
  have rest : (w.paidOut sender collateral user debtToCover).engine.collateralDeposited user
      collateral =
        w.engine.collateralDeposited user collateral - w.payout collateral debtToCover :=
    Ledger.assign_self _ _ _ _
  have swept : ((w.swept sender collateral user debtToCover).tokens token).balances
        w.engine.poolAddress =
      ((w.paidOut sender collateral user debtToCover).tokens token).balances
          w.engine.poolAddress +
        (if collateral = token then
          w.engine.collateralDeposited user collateral - w.payout collateral debtToCover else 0) ∧
      ((w.swept sender collateral user debtToCover).tokens token).allowances =
        ((w.paidOut sender collateral user debtToCover).tokens token).allowances := by
    by_cases here : collateral = token
    · subst here
      have moved : ((w.swept sender collateral user debtToCover).tokens collateral).balances =
          Ledger.move ((w.paidOut sender collateral user debtToCover).tokens collateral).balances
            w.engineAddress w.engine.poolAddress
              (w.engine.collateralDeposited user collateral - w.payout collateral debtToCover) := by
        rw [← rest]
        exact released_balances (orderly.released liquidates.pays) liquidates.sweeps
      rw [moved, Ledger.move_target _ _ pool.symm, if_pos rfl]
      refine ⟨rfl, ?_⟩
      unfold swept
      rw [released_token]
      rfl
    · have other : (w.swept sender collateral user debtToCover).tokens token =
          (w.paidOut sender collateral user debtToCover).tokens token :=
        released_tokens_of_ne (Ne.symm here)
      rw [other, if_neg here]
      exact ⟨rfl, rfl⟩
  constructor
  · rw [(burned token).1, swept.1, (paid token).1]
  · rw [(burned token).2, swept.2, (paid token).2]

/-- An engine call of someone else reaches a wallet only in a liquidation, and then the pool's. -/
theorem call_wallet {call : EngineCall} (orderly : w.Orderly) (stranger : account ≠ sender)
    (notEngine : account ≠ w.engineAddress) (success : call.exec standard sender w = .ok after) :
    (after.tokens token).balances account =
        (w.tokens token).balances account +
          Action.arriving token account w (.callEngine sender call) ∧
      (after.tokens token).allowances account = (w.tokens token).allowances account := by
  by_cases sweeping : account = w.engine.poolAddress ∧ ∃ user, call.Liquidating user
  · obtain ⟨pool, user, collateral, debtToCover, same⟩ := sweeping
    subst pool same
    obtain ⟨liquidates, rfl⟩ := DSCEngine.liquidate_eq_ok.mp success
    have reached := @liquidated_pool w sender token collateral user debtToCover orderly stranger
      liquidates
    simp only [Action.arriving, and_true]
    exact reached
  · have wallet := exec_wallet success stranger notEngine
      (fun pool user liquidating => sweeping ⟨pool, user, liquidating⟩) token
    have nothing : Action.arriving token account w (.callEngine sender call) = 0 := by
      cases call with
      | liquidate collateral user debtToCover =>
          have notPool : account ≠ w.engine.poolAddress := fun pool =>
            sweeping ⟨pool, user, collateral, debtToCover, rfl⟩
          simp only [Action.arriving, notPool, and_false, ↓reduceIte]
      | _ => rfl
    rw [nothing]
    exact wallet

/-- What one committed action that the account has not signed brings and takes. -/
theorem action_balance (orderly : w.Orderly) (notEngine : account ≠ w.engineAddress)
    (unsigned : Unsigned account w action) (success : action.exec w = .ok after) :
    (after.tokens token).balances account + action.drawn token account w =
      (w.tokens token).balances account + action.arriving token account w := by
  rcases Action.exec_cases orderly.owned unsigned.1 success with
    ⟨sender, call, rfl, _, returned⟩ | ⟨address, contract, change, rfl⟩ | ⟨news, feeds, time, rfl⟩
  · have stranger : account ≠ sender := fun same => unsigned.2 (congrArg some same.symm)
    exact (call_wallet orderly stranger notEngine returned).1
  · exact change_balance orderly unsigned.2 change success
  · rcases news with ⟨priceFeed, round, rfl⟩ | ⟨seconds, rfl⟩ <;> rfl

/-- And what it does to the allowances. -/
theorem action_allowance (orderly : w.Orderly) (notEngine : account ≠ w.engineAddress)
    (unsigned : Unsigned account w action) (success : action.exec w = .ok after)
    (spender : Address) :
    (after.tokens token).allowances account spender ≤
        (w.tokens token).allowances account spender ∧
      ((w.tokens token).allowances account spender < uint256Max →
        (after.tokens token).allowances account spender + action.drawnBy spender token account w =
          (w.tokens token).allowances account spender) := by
  rcases Action.exec_cases orderly.owned unsigned.1 success with
    ⟨sender, call, rfl, _, returned⟩ | ⟨address, contract, change, rfl⟩ | ⟨news, feeds, time, rfl⟩
  · have stranger : account ≠ sender := fun same => unsigned.2 (congrArg some same.symm)
    have row := (@call_wallet w after sender token account call orderly stranger notEngine
      returned).2
    simp only [row, Action.drawnBy, Action.drawn, ite_self]
    exact ⟨Nat.le_refl _, fun _ => rfl⟩
  · exact ⟨change_allowance_le unsigned.2 change, change_allowance unsigned.2 change⟩
  · refine ⟨Nat.le_refl _, fun _ => ?_⟩
    rcases news with ⟨priceFeed, round, rfl⟩ | ⟨seconds, rfl⟩ <;> rfl

end World

/-- What holds all along while others act: the contracts stay the same, and no allowance the account
has given is more than it was. -/
structure Dormant (start : World) (token account : Address) (w : World) : Prop where
  orderly : w.Orderly
  same : SameContracts start w
  allowances_le : ∀ spender, (w.tokens token).allowances account spender ≤
    (start.tokens token).allowances account spender

namespace Dormant

variable {start w after : World} {token account spender : Address} {action : Action}
  {actions : List Action}

theorem refl (reachable : Reachable start) (token account : Address) :
    Dormant start token account start :=
  ⟨reachable.orderly, SameContracts.refl start, fun _ => Nat.le_refl _⟩

theorem ne_engine (dormant : Dormant start token account w)
    (notEngine : account ≠ start.engineAddress) : account ≠ w.engineAddress := by
  rw [dormant.same.engineAddress]
  exact notEngine

theorem exec (dormant : Dormant start token account w)
    (notEngine : account ≠ start.engineAddress) (unsigned : Unsigned account w action)
    (success : action.exec w = .ok after) : Dormant start token account after where
  orderly := dormant.orderly.exec unsigned.1 success
  same := dormant.same.trans (SameContracts.exec success)
  allowances_le := by
    intro spender
    have less := (@World.action_allowance w after token account action dormant.orderly
      (dormant.ne_engine notEngine) unsigned success spender).1
    exact less.trans (dormant.allowances_le spender)

theorem step (dormant : Dormant start token account w)
    (notEngine : account ≠ start.engineAddress) (unsigned : Unsigned account w action) :
    Dormant start token account (step w action) :=
  Runs.commit_preserves dormant (fun _ success => dormant.exec notEngine unsigned success)

end Dormant

section Example

open HelperConfig

/-- When the script has run nobody has approved anything. -/
theorem anvil_allows_nothing (token owner spender : Address) :
    (anvil.start.tokens token).allowances owner spender = 0 := by
  change (Function.update anvil.tokens anvil.dscAddress ERC20.empty token).allowances _ _ = 0
  by_cases coin : token = anvil.dscAddress
  · rw [coin, Function.update_self]
    rfl
  · rw [Function.update_of_ne coin]
    change (if token = weth then _ else if token = wbtc then _ else _ : ERC20).allowances _ _ = 0
    split
    · rfl
    · split
      · rfl
      · rfl

theorem anvil_reachable : Reachable anvil.start :=
  ⟨anvil, anvil.start, [], anvil.run_ok, trivial, rfl⟩

end Example

end DscProtocol
