import DscProtocol.HelperConfig
import DscProtocol.LedgerEffects
import DscProtocol.Reachability

set_option autoImplicit false

/- The collateral ledger: what the engine holds of a token is what its users have deposited
plus what was sent to it past `depositCollateral`. -/
namespace DscProtocol

namespace World

/-- The engine's balance of a token. -/
def held (w : World) (token : Address) : Nat := (w.tokens token).balances w.engineAddress

/-- The sum of all recorded deposits of a token. -/
def deposits (w : World) (token : Address) : Nat := ∑ user, w.engine.collateralDeposited user token

/-- Holdings and recorded deposits of the token move by the same amount. -/
def Balanced (token : Address) (w after : World) : Prop :=
  after.held token + w.deposits token = w.held token + after.deposits token

end World

/-- What is sent to the engine by successful direct calls on the token itself. -/
def directlySent (token : Address) : World → Action → Nat :=
  Runs.charge Action.exec fun w action => action.sent token w.engineAddress

namespace World

variable {w after : World} {sender source target token other account onBehalfOf dscFrom : Address}
  {amount : Nat}

theorem held_of_tokens_eq (same : after.tokens other = w.tokens other)
    (engine : after.engineAddress = w.engineAddress) : after.held other = w.held other := by
  unfold held
  rw [same, engine]

theorem deposits_of_collateralDeposited_eq
    (same : after.engine.collateralDeposited = w.engine.collateralDeposited) :
    after.deposits token = w.deposits token := by
  unfold deposits
  rw [same]

theorem Balanced.refl (token : Address) (w : World) : Balanced token w w := rfl

theorem Balanced.trans {first second third : World} (left : Balanced token first second)
    (right : Balanced token second third) : Balanced token first third := by
  unfold Balanced at *
  omega

theorem received_balanced (orderly : w.Orderly) (user : sender ≠ w.engineAddress)
    (receives : w.Receives sender token amount) :
    Balanced other w (w.received sender token amount) := by
  unfold Balanced
  by_cases same : other = token
  · subst same
    have arrived : (w.received sender other amount).held other = w.held other + amount := by
      unfold held
      rw [received_balances orderly receives]
      exact Ledger.move_target _ amount user
    have recorded : (w.received sender other amount).deposits other +
        w.engine.collateralDeposited sender other = w.deposits other +
          (w.engine.collateralDeposited sender other + amount) :=
      Ledger.sum_assign w.engine.collateralDeposited sender other _
    omega
  · have recorded : (w.received sender token amount).deposits other = w.deposits other :=
      Ledger.sum_assign_of_ne w.engine.collateralDeposited sender token other _ same
    rw [held_of_tokens_eq (received_tokens_of_ne same) rfl, recorded]

theorem released_balanced (orderly : w.Orderly) (outside : target ≠ w.engineAddress)
    (releases : w.Releases source target token amount) :
    Balanced other w (w.released source target token amount) := by
  unfold Balanced
  by_cases same : other = token
  · subst same
    have left : (w.released source target other amount).held other = w.held other - amount := by
      unfold held
      rw [released_balances orderly releases]
      exact Ledger.move_source _ amount outside.symm
    have recorded : (w.released source target other amount).deposits other +
        w.engine.collateralDeposited source other = w.deposits other +
          (w.engine.collateralDeposited source other - amount) :=
      Ledger.sum_assign w.engine.collateralDeposited source other _
    have enough : amount ≤ w.held other := releases.enough
    have deposited := releases.deposited
    omega
  · have recorded : (w.released source target token amount).deposits other = w.deposits other :=
      Ledger.sum_assign_of_ne w.engine.collateralDeposited source token other _ same
    rw [held_of_tokens_eq (released_tokens_of_ne same) rfl, recorded]

theorem issued_balanced (orderly : w.Orderly) (user : account ≠ w.engineAddress)
    (issues : w.Issues account amount) : Balanced other w (w.issued account amount) := by
  have recorded : (w.issued account amount).deposits other = w.deposits other :=
    deposits_of_collateralDeposited_eq rfl
  have kept : (w.issued account amount).held other = w.held other := by
    by_cases same : other = w.engine.dsc
    · subst same
      unfold held
      rw [issued_balances orderly issues]
      exact Function.update_of_ne user.symm _ _
    · exact held_of_tokens_eq (issued_tokens_of_ne same) rfl
  unfold Balanced
  omega

theorem repaid_balanced (orderly : w.Orderly) (payer : dscFrom ≠ w.engineAddress)
    (repays : w.Repays onBehalfOf dscFrom amount) :
    Balanced other w (w.repaid onBehalfOf dscFrom amount) := by
  have recorded : (w.repaid onBehalfOf dscFrom amount).deposits other = w.deposits other :=
    deposits_of_collateralDeposited_eq rfl
  have kept : (w.repaid onBehalfOf dscFrom amount).held other = w.held other := by
    by_cases same : other = w.engine.dsc
    · subst same
      unfold held
      rw [repaid_balances orderly repays]
      exact Function.update_of_ne payer.symm _ _
    · exact held_of_tokens_eq (repaid_tokens_of_ne same) rfl
  unfold Balanced
  omega

/-- Five entry points move collateral; each keeps holdings and deposits in step. -/
theorem exec_balanced (orderly : w.Orderly) (user : sender ≠ w.engineAddress) {call : EngineCall}
    (success : call.exec standard sender w = .ok after) : Balanced token w after := by
  have all : Balanced token w after ∧ after.Orderly := by
    apply orderly.exec_preserves user (Balanced token w) _ _ _ _ (Balanced.refl token w) success
    · intro middle other amount start user balanced receives
      exact balanced.trans (received_balanced start user receives)
    · intro middle source target other amount start outside balanced releases
      exact balanced.trans (released_balanced start outside releases)
    · intro middle amount start user balanced issues
      exact balanced.trans (issued_balanced start user issues)
    · intro middle onBehalfOf amount start user balanced repays
      exact balanced.trans (repaid_balanced start user repays)
  exact all.1

/-- Outside its own entry points the engine's balance of a token grows by exactly what is sent
there: nobody can draw on the engine's own tokens. -/
theorem change_held (orderly : w.Orderly) {action : Action} {contract : ERC20}
    (permitted : Permitted w action) (change : LedgerChange w action token contract) :
    contract.balances w.engineAddress =
      w.held token + action.sent token w.engineAddress := by
  unfold held
  cases change with
  | @transfer sender _ target amount real receiver enough =>
      have user : w.engineAddress ≠ sender := fun same => permitted.1 (congrArg some same.symm)
      simp only [Action.sent, TokenCall.sent, ↓reduceIte]
      exact (orderly.sound token).moved_balance_of_ne_source enough user
  | @transferFrom sender _ source target amount pulls =>
      simp only [Action.sent, TokenCall.sent, ↓reduceIte]
      by_cases own : source = w.engineAddress
      · subst own
        obtain rfl := orderly.may_spend_nothing pulls.allowed
        rw [(orderly.sound token).pulled_balances pulls.enough, Ledger.move_zero, ite_self,
          Nat.add_zero]
      · have sound : ((w.tokens token).spent source sender amount).Sound :=
          (orderly.sound token).spent
        have enough : amount ≤ ((w.tokens token).spent source sender amount).balances source := by
          rw [ERC20.spent_balances]
          exact pulls.enough
        have apart : w.engineAddress ≠ source := fun same => own same.symm
        rw [ERC20.pulled, sound.moved_balance_of_ne_source enough apart, ERC20.spent_balances]
  | approve nothing =>
      simp only [Action.sent, ↓reduceIte, nothing, Nat.add_zero, ERC20.approved_balances]
  | @burnFrom sender account amount allowed real enough =>
      simp only [Action.sent, Nat.add_zero]
      by_cases own : w.engineAddress = account
      · subst own
        obtain rfl := orderly.may_spend_nothing allowed
        simp only [ERC20.burned, Function.update_self, ERC20.spent_balances, Nat.sub_zero]
      · rw [ERC20.burned_balances_of_ne own, ERC20.spent_balances]
  | @withdraw sender _ amount real receiver enough =>
      have outside : w.engineAddress ≠ sender := fun same => permitted.1 (congrArg some same.symm)
      exact ERC20.moved_balances_of_ne orderly.pool_ne_engine.symm outside
  | issue real fits => exact ERC20.minted_balances_of_ne permitted.2.2.symm

/-- One committed action: holdings and deposits drift apart only by what is sent directly. -/
theorem exec_held (orderly : w.Orderly) {action : Action} (permitted : Permitted w action)
    (success : action.exec w = .ok after) :
    after.held token + w.deposits token =
      w.held token + after.deposits token + action.sent token w.engineAddress := by
  rcases Action.exec_cases orderly.owned permitted success with
    ⟨sender, call, rfl, user, returned⟩ | ⟨address, contract, change, rfl⟩ |
    ⟨news, feeds, timestamp, rfl⟩
  · have balanced : Balanced token w after := exec_balanced orderly user returned
    have none : (Action.callEngine sender call).sent token w.engineAddress = 0 := rfl
    unfold Balanced at balanced
    omega
  · have recorded : (w.setToken address contract).deposits token = w.deposits token :=
      deposits_of_collateralDeposited_eq rfl
    by_cases same : token = address
    · subst same
      have arrived := change_held orderly permitted change
      have now : (w.setToken token contract).held token = contract.balances w.engineAddress :=
        congrArg (fun ledger : ERC20 => ledger.balances w.engineAddress) (tokens_setToken contract)
      omega
    · have now : (w.setToken address contract).held token = w.held token :=
        held_of_tokens_eq (tokens_setToken_of_ne contract same) rfl
      have none := change.sent_elsewhere same w.engineAddress
      omega
  · have none := news.sent token w.engineAddress
    have now : (w.withFeeds feeds timestamp).held token = w.held token :=
      held_of_tokens_eq rfl rfl
    have recorded : (w.withFeeds feeds timestamp).deposits token = w.deposits token :=
      deposits_of_collateralDeposited_eq rfl
    omega

/-- One step, also when it reverts. -/
theorem step_held (orderly : w.Orderly) {action : Action} (permitted : Permitted w action) :
    (step w action).held token + w.deposits token =
      w.held token + (step w action).deposits token + directlySent token w action := by
  have drifts : ∀ next, action.exec w = .ok next →
      next.held token + w.deposits token =
        w.held token + next.deposits token + action.sent token w.engineAddress :=
    fun _ success => exec_held orderly permitted success
  exact Runs.commit_drift (fun state : World => state.held token)
    (fun state : World => state.deposits token)
    (fun (w : World) (action : Action) => action.sent token w.engineAddress) drifts

/-- A whole run, from any orderly state. -/
theorem run_held {actions : List Action} (orderly : w.Orderly)
    (along : Runs.Along step Permitted w actions) :
    (Runs.run step w actions).held token + w.deposits token =
      w.held token + (Runs.run step w actions).deposits token +
        Runs.total step (directlySent token) w actions := by
  have drifts : ∀ state action, state.Orderly → Permitted state action →
      (step state action).held token + state.deposits token =
        state.held token + (step state action).deposits token +
          directlySent token state action :=
    fun _ _ orderly permitted => step_held orderly permitted
  exact Runs.drift (fun state : World => state.held token) (fun state => state.deposits token)
    (directlySent token) (fun _ _ orderly permitted => orderly.step permitted) drifts orderly along

end World

/-- From the deployed state nothing is held that was not deposited or sent directly. -/
theorem Deployment.held_eq {d : Deployment} {start : World} {actions : List Action}
    (deployed : d.run = .ok start) (along : Runs.Along step Permitted start actions)
    (token : Address) :
    (Runs.run step start actions).held token =
      (Runs.run step start actions).deposits token +
        Runs.total step (directlySent token) start actions := by
  obtain ⟨orderly, deposited, _, _, nothing⟩ := Deployment.run_eq_ok deployed
  have moved := @World.run_held start token actions orderly along
  have held : start.held token = 0 := nothing token
  have recorded : start.deposits token = 0 := by
    unfold World.deposits
    rw [deposited]
    exact Finset.sum_const_zero
  omega

theorem Reachable.backed {w : World} (reachable : Reachable w) (token : Address) :
    w.deposits token ≤ w.held token := by
  obtain ⟨d, start, actions, deployed, along, rfl⟩ := reachable
  have held := Deployment.held_eq deployed along token
  omega

theorem Reachable.deposit_le_held {w : World} (reachable : Reachable w) (user token : Address) :
    w.engine.collateralDeposited user token ≤ w.held token :=
  (Ledger.le_sum (fun user => w.engine.collateralDeposited user token) user).trans
    (reachable.backed token)

/-- Backed deposits are part of what there is of the token. -/
theorem World.Orderly.deposit_le_supply {w : World} (orderly : w.Orderly)
    (backed : ∀ token, w.deposits token ≤ w.held token) (user token : Address) :
    w.engine.collateralDeposited user token ≤ (w.tokens token).totalSupply := by
  have recorded := Ledger.le_sum (fun user => w.engine.collateralDeposited user token) user
  have held := Ledger.le_sum (w.tokens token).balances w.engineAddress
  rw [(orderly.sound token).conserved] at held
  exact (recorded.trans (backed token)).trans held

theorem Reachable.deposit_le_supply {w : World} (reachable : Reachable w) (user token : Address) :
    w.engine.collateralDeposited user token ≤ (w.tokens token).totalSupply :=
  reachable.orderly.deposit_le_supply reachable.backed user token

/-- Every token the engine holds is some account's recorded deposit or was sent to it directly;
so the deposits of any accounts together are backed. -/
theorem collateral_ledger_backed {d : Deployment} {start : World} {actions : List Action}
    {token : Address} (deployed : d.run = .ok start)
    (along : Runs.Along step Permitted start actions) :
    (Runs.run step start actions).held token =
        (Runs.run step start actions).deposits token +
          Runs.total step (directlySent token) start actions ∧
      ∀ accounts : Finset Address,
        ∑ user ∈ accounts, (Runs.run step start actions).engine.collateralDeposited user token ≤
          (Runs.run step start actions).held token := by
  have backed := Deployment.held_eq deployed along token
  refine ⟨backed, ?_⟩
  intro accounts
  have part : ∑ user ∈ accounts,
      (Runs.run step start actions).engine.collateralDeposited user token ≤
        (Runs.run step start actions).deposits token :=
    Finset.sum_le_sum_of_subset (Finset.subset_univ accounts)
  omega

section Example

open HelperConfig

/-- Whatever happens on the local network, ether and bitcoin are what is listed. -/
theorem anvil_tokens (actions : List Action) :
    (Runs.run step anvil.start actions).engine.collateralTokens = [weth, wbtc] :=
  (SameContracts.run anvil.start actions).collateralTokens

theorem forall_listed {holds : Address → Prop} (actions : List Action) (ether : holds weth)
    (bitcoin : holds wbtc) :
    ∀ token ∈ (Runs.run step anvil.start actions).engine.collateralTokens, holds token := by
  intro token listed
  rw [anvil_tokens] at listed
  rcases List.mem_cons.mp listed with rfl | rest
  · exact ether
  · obtain rfl := List.mem_singleton.mp rest
    exact bitcoin

/-- An account without bitcoin can only have deposited ether. -/
theorem only_ether_deposited {account token : Address} (actions : List Action)
    (orderly : (Runs.run step anvil.start actions).Orderly)
    (unused : (Runs.run step anvil.start actions).engine.collateralDeposited account wbtc = 0)
    (other : token ≠ weth) :
    (Runs.run step anvil.start actions).engine.collateralDeposited account token = 0 := by
  by_contra some
  have listed := orderly.registered token (orderly.deposit_real account token some).2.2
  have bitcoin : token ≠ weth → token = wbtc :=
    @forall_listed (fun token => token ≠ weth → token = wbtc) actions
      (fun apart => absurd rfl apart) (fun _ => rfl) token listed
  rw [bitcoin other] at some
  exact some unused

/-- The deployer deposits 5 ether and gives the engine 2 more. -/
def depositAndGift : List Action :=
  [.issue weth deployer (10 * 10 ^ 18),
    .callToken deployer weth (.approve anvil.engineAddress (5 * 10 ^ 18)),
    .callEngine deployer (.depositCollateral weth (5 * 10 ^ 18)),
    .callToken deployer weth (.transfer anvil.engineAddress (2 * 10 ^ 18))]

theorem collateral_ledger_backed_after_gift :
    (Runs.run step anvil.start depositAndGift).held weth = 7 * 10 ^ 18 ∧
      Runs.total step (directlySent weth) anvil.start depositAndGift = 2 * 10 ^ 18 ∧
      (Runs.run step anvil.start depositAndGift).deposits weth = 5 * 10 ^ 18 := by
  have along : Runs.Along step Permitted anvil.start depositAndGift := by decide +kernel
  have backed := (@collateral_ledger_backed anvil _ _ weth anvil.run_ok along).1
  have held : (Runs.run step anvil.start depositAndGift).held weth = 7 * 10 ^ 18 := by
    decide +kernel
  have sent : Runs.total step (directlySent weth) anvil.start depositAndGift = 2 * 10 ^ 18 := by
    decide +kernel
  refine ⟨held, sent, ?_⟩
  omega

end Example

end DscProtocol
