import DscProtocol.Dormancy
import DscProtocol.Lib.Simulation

set_option autoImplicit false

/- The pool has no way to be paid ether, but neither can it refuse what a contract leaves it that
destroys itself, or a block's reward. Its guard counts such ether, so with it `withdraw` pays. -/
namespace DscProtocol

/-- An action, or ether that arrives at an account without a call. -/
inductive ChainMove where
  | act (action : Action)
  | forceEther (account : Address) (amount : Nat)

namespace World

/-- The same state with other amounts of ether. -/
def withEther (w : World) (etherBalance : Address → Nat) : World :=
  { w with etherBalance := etherBalance }

end World

namespace ChainMove

def exec (w : World) (move : ChainMove) : Except Revert World :=
  match move with
  | act action => action.exec w
  | forceEther account amount =>
      .ok (w.withEther
        (Function.update w.etherBalance account (w.etherBalance account + amount)))

def step : World → ChainMove → World := Runs.commit exec

/-- Anyone but this account acts, and ether arrives wherever it likes. -/
def Unsigned (account : Address) (w : World) (move : ChainMove) : Prop :=
  match move with
  | act action => DscProtocol.Unsigned account w action
  | forceEther _ _ => True

instance (account : Address) (w : World) : (move : ChainMove) → Decidable (Unsigned account w move)
  | act action => inferInstanceAs (Decidable (DscProtocol.Unsigned account w action))
  | forceEther _ _ => inferInstanceAs (Decidable True)

/-- What a move sends, issues or sweeps to an account. -/
def arriving (token account : Address) (w : World) (move : ChainMove) : Nat :=
  match move with
  | act action => action.arriving token account w
  | forceEther _ _ => 0

/-- What a move withdraws from the pool. -/
def withdrawn (token : Address) (_ : World) (move : ChainMove) : Nat :=
  match move with
  | act (.withdraw _ collateral amount) => if collateral = token then amount else 0
  | _ => 0

def forced (account : Address) (_ : World) (move : ChainMove) : Nat :=
  match move with
  | forceEther target amount => if target = account then amount else 0
  | _ => 0

/-- The same in the machine without forced ether: there a withdrawal that goes through is a transfer
the pool makes. -/
def actions (w : World) (move : ChainMove) : List Action :=
  match move with
  | act (.withdraw sender collateral amount) =>
      [.callToken w.engine.poolAddress collateral (.transfer sender amount)]
  | act action => [action]
  | forceEther _ _ => []

end ChainMove

namespace DSCEngine

variable (w : World) (ether : Address → Nat) (sender token user : Address) (amount : Nat)

theorem depositCollateral_withEther :
    depositCollateral standard sender token amount (w.withEther ether) =
      (depositCollateral standard sender token amount w).map
        (fun after => after.withEther ether) := by
  simp only [depositCollateral, ReentrancyGuard.nonReentrant, ReentrancyGuard.nonReentrantBefore,
    standard, Checked.map_bind, bind_assoc, Checked.ok_bind]
  rfl

theorem mintDsc_withEther :
    mintDsc sender amount (w.withEther ether) =
      (mintDsc sender amount w).map (fun after => after.withEther ether) := by
  simp only [mintDsc, ReentrancyGuard.nonReentrant, ReentrancyGuard.nonReentrantBefore,
    Checked.map_bind, bind_assoc, Checked.ok_bind]
  rfl

theorem burnDsc_withEther :
    burnDsc sender amount (w.withEther ether) =
      (burnDsc sender amount w).map (fun after => after.withEther ether) := by
  simp only [burnDsc, burnDscInternal, Checked.map_bind]
  rfl

theorem redeemCollateral_withEther :
    redeemCollateral standard sender token amount (w.withEther ether) =
      (redeemCollateral standard sender token amount w).map
        (fun after => after.withEther ether) := by
  simp only [redeemCollateral, redeemCollateralInternal, ReentrancyGuard.nonReentrant,
    ReentrancyGuard.nonReentrantBefore, standard, Checked.map_bind, bind_assoc, Checked.ok_bind]
  rfl

theorem liquidate_withEther :
    liquidate standard sender token user amount (w.withEther ether) =
      (liquidate standard sender token user amount w).map
        (fun after => after.withEther ether) := by
  simp only [liquidate, sentAmountLeftToDscPool, burnDscInternal, redeemCollateralInternal,
    ReentrancyGuard.nonReentrant, ReentrancyGuard.nonReentrantBefore, standard, Checked.map_bind,
    bind_assoc, Checked.ok_bind]
  rfl

end DSCEngine

/-- No engine call looks at ether or moves any. -/
theorem EngineCall.exec_withEther (w : World) (ether : Address → Nat) (sender : Address)
    (call : EngineCall) :
    call.exec standard sender (w.withEther ether) =
      (call.exec standard sender w).map (fun after => after.withEther ether) := by
  cases call with
  | depositCollateral token amount =>
      exact DSCEngine.depositCollateral_withEther w ether sender token amount
  | depositCollateralAndMintDsc token amountCollateral amountDscToMint =>
      simp only [exec, DSCEngine.depositCollateralAndMintDsc, DSCEngine.depositCollateral_withEther]
      cases DSCEngine.depositCollateral standard sender token amountCollateral w with
      | ok middle => exact DSCEngine.mintDsc_withEther middle ether sender amountDscToMint
      | error reason => rfl
  | mintDsc amount => exact DSCEngine.mintDsc_withEther w ether sender amount
  | burnDsc amount => exact DSCEngine.burnDsc_withEther w ether sender amount
  | redeemCollateral token amount =>
      exact DSCEngine.redeemCollateral_withEther w ether sender token amount
  | redeemCollateralForDsc token amountCollateral amountDscToBurn =>
      simp only [exec, DSCEngine.redeemCollateralForDsc, DSCEngine.burnDsc_withEther]
      cases DSCEngine.burnDsc sender amountDscToBurn w with
      | ok middle =>
          exact DSCEngine.redeemCollateral_withEther middle ether sender token amountCollateral
      | error reason => rfl
  | liquidate collateral user debtToCover =>
      exact DSCEngine.liquidate_withEther w ether sender collateral user debtToCover

/-- Nor does any other action, but for the pool's withdrawals. -/
theorem Action.exec_withEther (w : World) (ether : Address → Nat) {action : Action}
    (paysNothing : ∀ sender collateral amount, action ≠ .withdraw sender collateral amount) :
    action.exec (w.withEther ether) =
      (action.exec w).map (fun after => after.withEther ether) := by
  cases action with
  | callEngine sender call => exact EngineCall.exec_withEther w ether sender call
  | withdraw sender collateral amount => exact absurd rfl (paysNothing sender collateral amount)
  | callToken sender token call =>
      simp only [exec, Checked.map_bind]
      rfl
  | callCoin sender call =>
      simp only [exec, Checked.map_bind]
      rfl
  | issue token target amount =>
      simp only [exec, Checked.map_bind]
      rfl
  | updateFeed priceFeed round => rfl
  | advance seconds => rfl

variable {w : World} {account token : Address} {moves : List ChainMove}

/-- Where nobody may draw on an account nothing is drawn. -/
theorem Action.drawn_eq_zero {action : Action}
    (none : ∀ spender, action.drawnBy spender token account w = 0) :
    action.drawn token account w = 0 := by
  cases action with
  | callToken sender address call =>
      have drawn := none sender
      simp only [drawnBy, sender?, ↓reduceIte] at drawn
      exact drawn
  | callCoin sender call =>
      have drawn := none sender
      simp only [drawnBy, sender?, ↓reduceIte] at drawn
      exact drawn
  | _ => rfl

theorem Action.exec_etherBalance {after : World} {action : Action}
    (success : action.exec w = .ok after) : after.etherBalance = w.etherBalance := by
  cases action with
  | callEngine sender call => exact (World.SameSetting.exec success).etherBalance
  | callToken sender address call =>
      simp only [exec, Checked.bind_eq_ok, Prod.exists, Except.ok.injEq] at success
      obtain ⟨_, _, _, rfl⟩ := success
      rfl
  | callCoin sender call =>
      simp only [exec, Checked.bind_eq_ok, Except.ok.injEq] at success
      obtain ⟨_, _, rfl⟩ := success
      rfl
  | withdraw sender collateral amount =>
      obtain ⟨_, _, _, _, _, rfl⟩ := DSCPool.withdraw_eq_ok.mp success
      rfl
  | issue address target amount =>
      simp only [exec, Checked.bind_eq_ok, Except.ok.injEq] at success
      obtain ⟨_, _, rfl⟩ := success
      rfl
  | updateFeed priceFeed round =>
      cases success
      rfl
  | advance seconds =>
      cases success
      rfl

namespace ChainMove

/-- What stays as it was at the start: with the ether of that time the state is orderly, and the
pool has not allowed anyone anything. -/
structure Kept (start w : World) : Prop where
  orderly : (w.withEther start.etherBalance).Orderly
  same : SameContracts start w
  allowsNothing : ∀ token spender,
    (w.tokens token).allowances start.engine.poolAddress spender = 0

variable {start after : World} {move : ChainMove} {action : Action}

/-- The moves by which the pool pays nothing. -/
theorem act_returns (paysNothing : ∀ sender collateral amount,
    action ≠ .withdraw sender collateral amount) (success : action.exec w = .ok after)
    (ether : Address → Nat) :
    (act action).actions w = [action] ∧
      action.exec (w.withEther ether) = .ok (after.withEther ether) := by
  constructor
  · cases action with
    | withdraw sender collateral amount => exact absurd rfl (paysNothing sender collateral amount)
    | _ => rfl
  · rw [Action.exec_withEther w ether paysNothing, success]
    rfl

theorem withdrawn_eq_zero (paysNothing : ∀ sender collateral amount,
    action ≠ .withdraw sender collateral amount) : (act action).withdrawn token w = 0 := by
  cases action with
  | withdraw sender collateral amount => exact absurd rfl (paysNothing sender collateral amount)
  | _ => rfl

theorem withdraw_returns {sender collateral : Address} {amount : Nat}
    (success : DSCPool.withdraw standard sender collateral amount w = .ok after)
    (ether : Address → Nat) :
    Action.exec (w.withEther ether)
        (.callToken w.engine.poolAddress collateral (.transfer sender amount)) =
      .ok (after.withEther ether) := by
  obtain ⟨_, _, real, receiver, enough, rfl⟩ := DSCPool.withdraw_eq_ok.mp success
  have moved : (w.tokens collateral).transfer w.engine.poolAddress sender amount =
      .ok (true, (w.tokens collateral).moved w.engine.poolAddress sender amount) :=
    ERC20.transfer_eq_ok.mpr ⟨rfl, real, receiver, enough, rfl⟩
  exact Checked.bind_eq_ok.mpr ⟨_, moved, rfl⟩

/-- A move that is no withdrawal, or one that is. -/
theorem act_cases (action : Action) :
    (∃ sender collateral amount, action = .withdraw sender collateral amount) ∨
      ∀ sender collateral amount, action ≠ .withdraw sender collateral amount := by
  cases action with
  | withdraw sender collateral amount => exact Or.inl ⟨sender, collateral, amount, rfl⟩
  | _ =>
      refine Or.inr ?_
      intro sender collateral amount same
      cases same

/-- One move that goes through is matched in the machine without forced ether. -/
theorem exec_matched (kept : Kept start w) (unsigned : Unsigned start.engine.poolAddress w move)
    (success : move.exec w = .ok after) :
    Runs.Along DscProtocol.step Permitted (w.withEther start.etherBalance) (move.actions w) ∧
      Runs.run DscProtocol.step (w.withEther start.etherBalance) (move.actions w) =
        after.withEther start.etherBalance := by
  cases move with
  | forceEther account amount =>
      cases success
      exact ⟨trivial, rfl⟩
  | act action =>
      rcases act_cases action with ⟨sender, collateral, amount, rfl⟩ | paysNothing
      · have allowed : Permitted (w.withEther start.etherBalance)
            (.callToken w.engine.poolAddress collateral (.transfer sender amount)) :=
          ⟨fun same => kept.orderly.pool_ne_engine (Option.some.inj same), trivial⟩
        exact ⟨⟨allowed, trivial⟩,
          Runs.commit_eq_of_ok (withdraw_returns success start.etherBalance)⟩
      · obtain ⟨labelled, returned⟩ := act_returns paysNothing success start.etherBalance
        rw [labelled]
        exact ⟨⟨unsigned.1, trivial⟩, Runs.commit_eq_of_ok returned⟩

/-- A withdrawal takes from the pool what it says, of one token. -/
theorem withdraw_pool {sender collateral : Address} {amount : Nat} (kept : Kept start w)
    (stranger : sender ≠ start.engine.poolAddress)
    (success : DSCPool.withdraw standard sender collateral amount w = .ok after)
    (token : Address) :
    (after.tokens token).balances start.engine.poolAddress +
        (act (.withdraw sender collateral amount)).withdrawn token w =
      (w.tokens token).balances start.engine.poolAddress ∧
    (after.tokens token).allowances = (w.tokens token).allowances := by
  obtain ⟨_, _, _, _, enough, rfl⟩ := DSCPool.withdraw_eq_ok.mp success
  unfold DSCPool.getBalance at enough
  rw [kept.same.poolAddress] at enough ⊢
  have sound : (w.tokens collateral).Sound := kept.orderly.sound collateral
  have moved := @ERC20.Sound.moved_balances _ _ sender _ sound enough
  by_cases here : token = collateral
  · subst here
    have left := Ledger.move_flow (w.tokens token).balances sender start.engine.poolAddress enough
    have taken : (act (.withdraw sender token amount)).withdrawn token w = amount := if_pos rfl
    rw [if_pos rfl, if_neg stranger, Nat.add_zero] at left
    rw [World.tokens_setToken, moved, taken]
    exact ⟨left, rfl⟩
  · have taken : (act (.withdraw sender collateral amount)).withdrawn token w = 0 :=
      if_neg (Ne.symm here)
    rw [World.tokens_setToken_of_ne _ here, taken]
    exact ⟨rfl, rfl⟩

/-- Any other action of others brings the pool what it sends there, and draws on nothing. -/
theorem act_pool (kept : Kept start w)
    (unsigned : DscProtocol.Unsigned start.engine.poolAddress w action)
    (returned : action.exec (w.withEther start.etherBalance) =
      .ok (after.withEther start.etherBalance)) (token : Address) :
    (after.tokens token).balances start.engine.poolAddress =
        (w.tokens token).balances start.engine.poolAddress +
          action.arriving token start.engine.poolAddress w ∧
      ∀ spender, (after.tokens token).allowances start.engine.poolAddress spender = 0 := by
  have notEngine : start.engine.poolAddress ≠ w.engineAddress := by
    rw [← kept.same.poolAddress]
    exact kept.orderly.pool_ne_engine
  have allowances := fun spender => @World.action_allowance _ _ token start.engine.poolAddress
    action kept.orderly notEngine unsigned returned spender
  have none : ∀ spender, (w.tokens token).allowances start.engine.poolAddress spender = 0 :=
    kept.allowsNothing token
  have still : ∀ spender,
      (after.tokens token).allowances start.engine.poolAddress spender = 0 := by
    intro spender
    exact Nat.le_zero.mp ((allowances spender).1.trans (Nat.le_of_eq (none spender)))
  have drawn :
      action.drawn token start.engine.poolAddress (w.withEther start.etherBalance) = 0 := by
    apply Action.drawn_eq_zero
    intro spender
    have limited : (w.tokens token).allowances start.engine.poolAddress spender < uint256Max := by
      rw [none]
      decide
    have uses := (allowances spender).2 limited
    change (after.tokens token).allowances _ _ + _ = (w.tokens token).allowances _ _ at uses
    rw [none, still] at uses
    omega
  have moved := @World.action_balance _ _ token start.engine.poolAddress action kept.orderly
    notEngine unsigned returned
  rw [drawn, Nat.add_zero] at moved
  exact ⟨moved, still⟩

/-- What one move does to the pool. -/
theorem exec_pool (kept : Kept start w) (unsigned : Unsigned start.engine.poolAddress w move)
    (success : move.exec w = .ok after) (token : Address) :
    (after.tokens token).balances start.engine.poolAddress + move.withdrawn token w =
        (w.tokens token).balances start.engine.poolAddress +
          move.arriving token start.engine.poolAddress w ∧
      ∀ spender, (after.tokens token).allowances start.engine.poolAddress spender = 0 := by
  cases move with
  | forceEther account amount =>
      cases success
      exact ⟨rfl, kept.allowsNothing token⟩
  | act action =>
      rcases act_cases action with ⟨sender, collateral, amount, rfl⟩ | paysNothing
      · have stranger : sender ≠ start.engine.poolAddress := fun same =>
          unsigned.2 (congrArg some same)
        obtain ⟨left, allowances⟩ := withdraw_pool kept stranger success token
        rw [allowances]
        exact ⟨left, kept.allowsNothing token⟩
      · obtain ⟨_, returned⟩ := act_returns paysNothing success start.etherBalance
        rw [withdrawn_eq_zero paysNothing]
        exact act_pool kept unsigned returned token

theorem Kept.exec (kept : Kept start w) (unsigned : Unsigned start.engine.poolAddress w move)
    (success : move.exec w = .ok after) : Kept start after where
  orderly := by
    obtain ⟨allowed, reached⟩ := exec_matched kept unsigned success
    rw [← reached]
    exact kept.orderly.run allowed
  same := by
    cases move with
    | act action => exact kept.same.trans (SameContracts.exec success)
    | forceEther account amount =>
        cases success
        exact kept.same.trans ⟨rfl, rfl, rfl, rfl, rfl, rfl⟩
  allowsNothing := fun token => (exec_pool kept unsigned success token).2

theorem kept_step (kept : Kept start w) (unsigned : Unsigned start.engine.poolAddress w move) :
    Kept start (step w move) :=
  Runs.commit_preserves kept (fun _ success => kept.exec unsigned success)

/-- Ether only comes. -/
theorem step_etherBalance (w : World) (move : ChainMove) (account : Address) :
    (step w move).etherBalance account = w.etherBalance account + move.forced account w := by
  cases move with
  | forceEther target amount =>
      change Function.update w.etherBalance target (w.etherBalance target + amount) account =
        w.etherBalance account + if target = account then amount else 0
      by_cases here : target = account
      · subst here
        rw [Function.update_self, if_pos rfl]
      · rw [Function.update_of_ne (Ne.symm here), if_neg here, Nat.add_zero]
  | act action =>
      have kept : (step w (act action)).etherBalance = w.etherBalance := by
        apply @Runs.commit_preserves World ChainMove Revert exec
          (fun next => next.etherBalance = w.etherBalance) w (act action) rfl
        intro next success
        exact Action.exec_etherBalance success
      rw [kept]
      rfl

theorem run_etherBalance (w : World) (moves : List ChainMove) (account : Address) :
    (Runs.run step w moves).etherBalance account =
      w.etherBalance account + Runs.total step (forced account) w moves := by
  induction moves generalizing w with
  | nil => rfl
  | cons move rest ih =>
      simp only [Runs.run, Runs.total]
      rw [ih, step_etherBalance, Nat.add_assoc]

/-- Less ether arrives up to any point than in the whole run. -/
theorem forced_le_of_initial {w : World} {account : Address} {sofar moves : List ChainMove}
    (inside : sofar <+: moves) :
    Runs.total step (forced account) w sofar ≤ Runs.total step (forced account) w moves := by
  obtain ⟨later, rfl⟩ := inside
  rw [Runs.total_append]
  exact Nat.le_add_right _ _

theorem kept_refl (reachable : Reachable start)
    (allowsNothing : ∀ token spender,
      (start.tokens token).allowances start.engine.poolAddress spender = 0) : Kept start start :=
  ⟨reachable.orderly, SameContracts.refl start, allowsNothing⟩

theorem kept_run (kept : Kept start start)
    (along : Runs.Along step (Unsigned start.engine.poolAddress) start moves) :
    Kept start (Runs.run step start moves) :=
  Runs.invariant (fun _ _ kept unsigned => kept_step kept unsigned) kept along

/-- The pool over a run: what came is there, but for what was withdrawn. -/
theorem run_pool (kept : Kept start start)
    (along : Runs.Along step (Unsigned start.engine.poolAddress) start moves) (token : Address) :
    DSCPool.getBalance (Runs.run step start moves) token +
        Runs.total step (Runs.charge exec (withdrawn token)) start moves =
      DSCPool.getBalance start token + Runs.total step
        (Runs.charge exec (arriving token start.engine.poolAddress)) start moves := by
  have moved := Runs.balance
    (fun state : World => (state.tokens token).balances start.engine.poolAddress)
    (Runs.charge exec (arriving token start.engine.poolAddress))
    (Runs.charge exec (withdrawn token)) (fun _ _ kept unsigned => kept_step kept unsigned) ?_
    kept along
  · unfold DSCPool.getBalance
    rw [(kept_run kept along).same.poolAddress]
    exact moved
  · intro state move kept unsigned
    apply Runs.commit_balance
      (fun state : World => (state.tokens token).balances start.engine.poolAddress)
    intro next success
    exact (exec_pool kept unsigned success token).1

/-- What can be withdrawn after a run. -/
theorem run_withdraw_iff (reachable : Reachable start) (kept : Kept start start)
    (along : Runs.Along step (Unsigned start.engine.poolAddress) start moves)
    (caller collateral : Address) (amount : Nat) :
    (∃ after, DSCPool.withdraw standard caller collateral amount (Runs.run step start moves) =
        .ok after) ↔
      caller = start.pool.owner ∧
        amount ≤ Runs.total step (forced start.engine.poolAddress) start moves ∧
        amount ≤ DSCPool.getBalance (Runs.run step start moves) collateral := by
  have same := (kept_run kept along).same
  have orderly := reachable.orderly
  have ether : (Runs.run step start moves).etherBalance start.engine.poolAddress =
      Runs.total step (forced start.engine.poolAddress) start moves := by
    rw [run_etherBalance, orderly.no_ether, Nat.zero_add]
  simp only [DSCPool.withdraw_eq_ok, same.pool, same.poolAddress, ether]
  constructor
  · intro returns
    obtain ⟨_, owner, counted, _, _, enough, _⟩ := returns
    exact ⟨owner, counted, enough⟩
  · intro conditions
    obtain ⟨owner, counted, enough⟩ := conditions
    refine ⟨_, owner, counted, orderly.pool_ne_zero, ?_, enough, rfl⟩
    rw [owner]
    exact orderly.pool_owner_ne_zero

/-- Without ether nothing is withdrawn. -/
theorem run_withdrawn_eq_zero (reachable : Reachable start) (kept : Kept start start)
    (along : Runs.Along step (Unsigned start.engine.poolAddress) start moves)
    (none : Runs.total step (forced start.engine.poolAddress) start moves = 0) (token : Address) :
    Runs.total step (Runs.charge exec (withdrawn token)) start moves = 0 := by
  apply (Runs.total_eq_zero_iff _).mpr
  apply along.located.mono
  intro state move taken
  obtain ⟨_, sofar, inside, rfl⟩ := taken
  have before : sofar <+: moves := (List.prefix_append sofar [move]).trans inside
  have arrived := @forced_le_of_initial start start.engine.poolAddress sofar moves before
  unfold Runs.charge
  split
  · rename_i next success
    cases move with
    | forceEther account amount => rfl
    | act action =>
        rcases act_cases action with ⟨sender, collateral, amount, rfl⟩ | paysNothing
        · have counted := ((run_withdraw_iff reachable kept (along.initial before) sender
            collateral amount).mp ⟨next, success⟩).2.1
          have zero : amount = 0 := by omega
          rw [zero]
          exact ite_self 0
        · exact withdrawn_eq_zero paysNothing
  · rfl

/-- The pool pays against ether. Whatever anyone does and wherever ether is forced in, a pool that
has allowed nobody anything holds what it held and what was sent or swept to it, less what was
withdrawn. At any point of the run a withdrawal goes through exactly for the owner, up to what the
pool holds and up to the ether forced on it so far, so without such ether nothing leaves; and but
for the ether the state reached is one that the protocol's runs reach. -/
theorem pool_pays_against_ether {w : World} {moves : List ChainMove} (reachable : Reachable w)
    (allowsNothing : ∀ token spender, (w.tokens token).allowances w.engine.poolAddress spender = 0)
    (along : Runs.Along step (Unsigned w.engine.poolAddress) w moves) :
    (∀ token,
      DSCPool.getBalance (Runs.run step w moves) token +
          Runs.total step (Runs.charge exec (withdrawn token)) w moves =
        DSCPool.getBalance w token +
          Runs.total step (Runs.charge exec (arriving token w.engine.poolAddress)) w moves) ∧
    (∀ sofar, sofar <+: moves → ∀ caller collateral amount,
      (∃ after, DSCPool.withdraw standard caller collateral amount (Runs.run step w sofar) =
          .ok after) ↔
        caller = w.pool.owner ∧
          amount ≤ Runs.total step (forced w.engine.poolAddress) w sofar ∧
          amount ≤ DSCPool.getBalance (Runs.run step w sofar) collateral) ∧
    (Runs.total step (forced w.engine.poolAddress) w moves = 0 →
      ∀ token, Runs.total step (Runs.charge exec (withdrawn token)) w moves = 0) ∧
    Reachable ((Runs.run step w moves).withEther w.etherBalance) := by
  have kept := kept_refl reachable allowsNothing
  refine ⟨run_pool kept along, ?_, run_withdrawn_eq_zero reachable kept along, ?_⟩
  · intro sofar inside
    exact run_withdraw_iff reachable kept (along.initial inside)
  · obtain ⟨allowed, reached⟩ := @Runs.simulates World ChainMove Revert Action World
      exec (fun state move => move.actions state) (Unsigned w.engine.poolAddress)
      (fun state => state.withEther w.etherBalance) DscProtocol.step Permitted (Kept w)
      (fun _ _ kept unsigned => kept_step kept unsigned)
      (fun _ _ _ kept unsigned success => exec_matched kept unsigned success) w moves kept along
    have projected := reachable.run allowed
    rw [show Runs.run DscProtocol.step w _ = (Runs.run step w moves).withEther w.etherBalance from
      reached] at projected
    exact projected

section Example

open HelperConfig

/-- After the liquidation two ether are forced on the pool, and its owner withdraws two of the 3.88
ether of collateral, and then again one. -/
def sweptAndForced : List ChainMove :=
  sweptRun.map .act ++
    [.act (.withdraw deployer weth (2 * 10 ^ 18)),
      .forceEther anvil.poolAddress (2 * 10 ^ 18),
      .act (.withdraw deployer weth (2 * 10 ^ 18)),
      .act (.withdraw deployer weth (10 ^ 18))]

theorem pool_pays_against_ether_swept :
    DSCPool.getBalance (Runs.run step anvil.start sweptAndForced) weth =
        888888888888888890 ∧
      ∀ amount, (∃ after, DSCPool.withdraw standard deployer weth amount
          (Runs.run step anvil.start sweptAndForced) = .ok after) ↔
        amount ≤ 888888888888888890 := by
  have along : Runs.Along step
      (Unsigned anvil.start.engine.poolAddress) anvil.start sweptAndForced := by
    decide +kernel
  obtain ⟨held, pays, _, _⟩ := pool_pays_against_ether anvil_reachable
    (fun token spender => anvil_allows_nothing token _ spender) along
  have empty : DSCPool.getBalance anvil.start weth = 0 := by decide +kernel
  have swept : Runs.total step (Runs.charge exec
      (arriving weth anvil.start.engine.poolAddress)) anvil.start sweptAndForced =
        3888888888888888890 := by decide +kernel
  have taken : Runs.total step (Runs.charge exec
      (withdrawn weth)) anvil.start sweptAndForced = 3 * 10 ^ 18 := by decide +kernel
  have counted : Runs.total step (forced anvil.start.engine.poolAddress)
      anvil.start sweptAndForced = 2 * 10 ^ 18 := by decide +kernel
  have left : DSCPool.getBalance (Runs.run step anvil.start sweptAndForced) weth =
      888888888888888890 := by
    have moved := held weth
    rw [empty, swept, taken] at moved
    exact Nat.add_right_cancel (moved.trans (by decide : _ = 888888888888888890 + 3 * 10 ^ 18))
  refine ⟨left, ?_⟩
  intro amount
  have owner : deployer = anvil.start.pool.owner := rfl
  rw [pays sweptAndForced (List.prefix_refl _) deployer weth amount, counted, left]
  constructor
  · intro conditions
    exact conditions.2.2
  · intro within
    exact ⟨owner, by omega, within⟩

end Example

end ChainMove

end DscProtocol
