import DscProtocol.Actions
import DscProtocol.EventLog
import DscProtocol.HelperConfig

set_option autoImplicit false

/- An observer off the chain. It starts from the deployed state, reads only events, computes with
plain numbers, and after any run knows all token ledgers, positions and the owner of the coin. -/
namespace DscProtocol

/-- What the observer keeps. -/
structure Index where
  tokens : Address → ERC20
  deposits : Address → Address → Nat
  debts : Address → Nat
  dscOwner : Address

/-- A transfer from the zero address is a mint, one to it a burn. -/
def ERC20.noted (token : ERC20) (source target : Address) (value : Nat) : ERC20 :=
  if source = 0 then
    { token with
      balances := Function.update token.balances target (token.balances target + value)
      totalSupply := token.totalSupply + value }
  else if target = 0 then
    { token with
      balances := Function.update token.balances source (token.balances source - value)
      totalSupply := token.totalSupply - value }
  else
    { token with balances := Ledger.move token.balances source target value }

namespace Index

def setToken (index : Index) (address : Address) (token : ERC20) : Index :=
  { index with tokens := Function.update index.tokens address token }

def setDeposit (index : Index) (user token : Address) (amount : Nat) : Index :=
  { index with deposits := Ledger.assign index.deposits user token amount }

def setDebt (index : Index) (user : Address) (amount : Nat) : Index :=
  { index with debts := Function.update index.debts user amount }

/-- The engine announces no mint; the observer takes a mint of the coin as a new debt. -/
def follow (dsc : Address) (index : Index) (event : Event) : Index :=
  match event with
  | .transfer token source target value =>
      let noted := index.setToken token ((index.tokens token).noted source target value)
      if token = dsc ∧ source = 0 then noted.setDebt target (index.debts target + value) else noted
  | .approval token owner spender value =>
      index.setToken token ((index.tokens token).approved owner spender value)
  | .ownershipTransferred _ newOwner => { index with dscOwner := newOwner }
  | .collateralDeposited sender token amount =>
      index.setDeposit sender token (index.deposits sender token + amount)
  | .collateralRedeemed source _ token amount =>
      index.setDeposit source token (index.deposits source token - amount)
  | .dscBurned account amount => index.setDebt account (index.debts account - amount)

end Index

/-- The state as the observer knows it. -/
def World.index (w : World) : Index where
  tokens := w.tokens
  deposits := w.engine.collateralDeposited
  debts := w.engine.dscMinted
  dscOwner := w.dscOwner

/-- One ledger rewritten twice. -/
theorem Index.setToken_setToken (index : Index) (token : Address) (first second : ERC20) :
    (index.setToken token first).setToken token second = index.setToken token second := by
  unfold setToken
  rw [Function.update_idem]

namespace World

variable {w after : World} {contract : ERC20} {sender source target token account owner spender
  onBehalfOf dscFrom collateral user : Address} {amount : Nat}

@[simp] theorem index_tokens (w : World) : w.index.tokens = w.tokens := rfl

theorem index_setToken : (w.setToken token contract).index = w.index.setToken token contract := rfl

theorem setToken_eq_self : w.setToken token (w.tokens token) = w := by
  unfold setToken
  rw [Function.update_eq_self]

/- Following one event, with the ledger it is about in place -/

theorem follow_moved (sound : contract.Sound) (real : source ≠ 0) (receiver : target ≠ 0)
    (enough : amount ≤ contract.balances source) :
    (w.setToken token contract).index.follow w.engine.dsc (.transfer token source target amount) =
      (w.setToken token (contract.moved source target amount)).index := by
  simp only [Index.follow, real, and_false, ↓reduceIte, index_tokens, tokens_setToken,
    ERC20.noted, receiver]
  rw [sound.moved_eq enough, index_setToken, Index.setToken_setToken]
  rfl

theorem follow_minted (sound : contract.Sound) (other : token ≠ w.engine.dsc)
    (fits : contract.totalSupply + amount < wordLimit) :
    (w.setToken token contract).index.follow w.engine.dsc (.transfer token 0 account amount) =
      (w.setToken token (contract.minted account amount)).index := by
  simp only [Index.follow, other, false_and, ↓reduceIte, index_tokens, tokens_setToken,
    ERC20.noted]
  rw [sound.minted_eq fits, index_setToken, Index.setToken_setToken]
  rfl

theorem follow_burned (sound : contract.Sound) (real : account ≠ 0)
    (enough : amount ≤ contract.balances account) :
    (w.setToken token contract).index.follow w.engine.dsc (.transfer token account 0 amount) =
      (w.setToken token (contract.burned account amount)).index := by
  have burned : contract.burned account amount =
      { contract with
        balances := Function.update contract.balances account (contract.balances account - amount)
        totalSupply := contract.totalSupply - amount } := by
    have lowered := sound.burned_totalSupply enough
    rw [← lowered]
    rfl
  simp only [Index.follow, real, and_false, ↓reduceIte, index_tokens, tokens_setToken,
    ERC20.noted]
  rw [burned, index_setToken, Index.setToken_setToken]
  rfl

theorem follow_approved :
    (w.setToken token contract).index.follow w.engine.dsc (.approval token owner spender amount) =
      (w.setToken token (contract.approved owner spender amount)).index := by
  simp only [Index.follow, index_tokens, tokens_setToken]
  rw [index_setToken, Index.setToken_setToken]
  rfl

/-- The approval that goes with a spent allowance. -/
theorem follow_spent :
    Runs.run (Index.follow w.engine.dsc) (w.setToken token contract).index
        (contract.spentEvents token owner spender amount) =
      (w.setToken token (contract.spent owner spender amount)).index := by
  unfold ERC20.spentEvents ERC20.spent
  split
  · exact follow_approved
  · rfl

theorem follow_pulled (sound : contract.Sound)
    (pulls : contract.Pulls sender source target amount) :
    Runs.run (Index.follow w.engine.dsc) (w.setToken token contract).index
        (contract.pulledEvents token sender source target amount) =
      (w.setToken token (contract.pulled sender source target amount)).index := by
  have enough : amount ≤ (contract.spent source sender amount).balances source := by
    rw [ERC20.spent_balances]
    exact pulls.enough
  unfold ERC20.pulledEvents
  rw [Runs.run_append, follow_spent]
  exact follow_moved sound.spent pulls.source_ne_zero pulls.target_ne_zero enough

/- Following the events of the four effects -/

theorem follow_received (orderly : w.Orderly) (receives : w.Receives sender token amount) :
    Runs.run (Index.follow w.engine.dsc) w.index (w.receivedEvents sender token amount) =
      (w.received sender token amount).index := by
  have pulled := @follow_pulled (w.setDeposited sender token
    (w.engine.collateralDeposited sender token + amount)) (w.tokens token) w.engineAddress sender
    w.engineAddress token amount (orderly.sound token) receives.pulls
  rw [show (w.setDeposited sender token _).setToken token (w.tokens token) =
    w.setDeposited sender token _ from setToken_eq_self] at pulled
  exact pulled

theorem follow_released (orderly : w.Orderly)
    (releases : w.Releases source target token amount) :
    Runs.run (Index.follow w.engine.dsc) w.index (w.releasedEvents source target token amount) =
      (w.released source target token amount).index := by
  have moved := @follow_moved (w.setDeposited source token
    (w.engine.collateralDeposited source token - amount)) (w.tokens token) w.engineAddress target
    token amount (orderly.sound token) releases.engine_ne_zero releases.target_ne_zero
    releases.enough
  rw [show (w.setDeposited source token _).setToken token (w.tokens token) =
    w.setDeposited source token _ from setToken_eq_self] at moved
  exact moved

/-- The mint of coins is where the observer learns of the debt. -/
theorem follow_issued (orderly : w.Orderly) (issues : w.Issues account amount) :
    Runs.run (Index.follow w.engine.dsc) w.index (w.issuedEvents account amount) =
      (w.issued account amount).index := by
  have minted := @ERC20.Sound.minted_eq _ account amount (orderly.sound w.engine.dsc)
    issues.supply_fits
  unfold issued
  rw [minted]
  simp only [issuedEvents, Runs.run, Index.follow, true_and, ↓reduceIte, ERC20.noted]
  rfl

theorem follow_repaid (orderly : w.Orderly) (repays : w.Repays onBehalfOf dscFrom amount) :
    Runs.run (Index.follow w.engine.dsc) w.index (w.repaidEvents onBehalfOf dscFrom amount) =
      (w.repaid onBehalfOf dscFrom amount).index := by
  have sound := orderly.sound w.engine.dsc
  have pulled := @follow_pulled (w.setMinted onBehalfOf (w.engine.dscMinted onBehalfOf - amount))
    (w.tokens w.engine.dsc) w.engineAddress dscFrom w.engineAddress w.engine.dsc amount sound
    repays.pulls
  rw [show (w.setMinted onBehalfOf _).setToken w.engine.dsc (w.tokens w.engine.dsc) =
    w.setMinted onBehalfOf _ from setToken_eq_self] at pulled
  have burned := @follow_burned (w.setMinted onBehalfOf (w.engine.dscMinted onBehalfOf - amount))
    ((w.tokens w.engine.dsc).pulled w.engineAddress dscFrom w.engineAddress amount)
    w.engine.dsc w.engineAddress amount (sound.pulled repays.pulls.enough) orderly.engine_ne_zero
    repays.held
  unfold repaidEvents
  change Runs.run (Index.follow w.engine.dsc) (w.setMinted onBehalfOf _).index _ = _
  rw [Runs.run_append]
  exact (congrArg (fun index => Index.follow w.engine.dsc index
    (.transfer w.engine.dsc w.engineAddress 0 amount)) pulled).trans burned

/-- Payout, sweep and repayment, read one after the other. -/
theorem follow_liquidated (orderly : w.Orderly)
    (liquidates : w.Liquidates sender collateral user amount) :
    Runs.run (Index.follow w.engine.dsc) w.index
        (w.liquidatedEvents sender collateral user amount) =
      (w.liquidated sender collateral user amount).index := by
  have orderlyPaid : (w.paidOut sender collateral user amount).Orderly :=
    orderly.released liquidates.pays
  have orderlySwept : (w.swept sender collateral user amount).Orderly :=
    orderlyPaid.released liquidates.sweeps
  have first : Runs.run (Index.follow w.engine.dsc) w.index
      (w.releasedEvents user sender collateral (w.payout collateral amount)) =
        (w.paidOut sender collateral user amount).index := follow_released orderly liquidates.pays
  have rest : (w.paidOut sender collateral user amount).engine.collateralDeposited user
      collateral = w.engine.collateralDeposited user collateral - w.payout collateral amount :=
    Ledger.assign_self _ _ _ _
  have second : Runs.run (Index.follow w.engine.dsc) (w.paidOut sender collateral user amount).index
      (w.releasedEvents user w.engine.poolAddress collateral
        (w.engine.collateralDeposited user collateral - w.payout collateral amount)) =
        (w.swept sender collateral user amount).index := by
    rw [← rest]
    exact follow_released orderlyPaid liquidates.sweeps
  have third : Runs.run (Index.follow w.engine.dsc) (w.swept sender collateral user amount).index
      (w.repaidEvents user sender amount) =
        (w.liquidated sender collateral user amount).index := by
    have same : (w.swept sender collateral user amount).repaidEvents user sender amount =
        w.repaidEvents user sender amount := by
      unfold swept paidOut
      rw [repaidEvents_released, repaidEvents_released]
    rw [← same]
    exact follow_repaid orderlySwept liquidates.repays
  unfold liquidatedEvents
  rw [Runs.run_append, Runs.run_append, first, second, third]

/-- A call, the combined ones through the state in between. -/
theorem follow_call (orderly : w.Orderly) (user : sender ≠ w.engineAddress) {call : EngineCall}
    (success : call.exec standard sender w = .ok after) :
    Runs.run (Index.follow w.engine.dsc) w.index (call.announces w sender) = after.index := by
  cases call with
  | depositCollateral token amount =>
      obtain ⟨_, _, _, receives, rfl⟩ := DSCEngine.depositCollateral_eq_ok.mp success
      exact follow_received orderly receives
  | depositCollateralAndMintDsc token amountCollateral amountDscToMint =>
      obtain ⟨middle, deposited, minted⟩ := DSCEngine.depositCollateralAndMintDsc_eq_ok.mp success
      obtain ⟨_, known, _, receives, rfl⟩ := DSCEngine.depositCollateral_eq_ok.mp deposited
      obtain ⟨_, issues, _, rfl⟩ := DSCEngine.mintDsc_eq_ok.mp minted
      have halfway := orderly.received user known receives
      change Runs.run _ _ (w.receivedEvents sender token amountCollateral ++ _) = _
      rw [Runs.run_append, follow_received orderly receives]
      exact follow_issued halfway issues
  | mintDsc amount =>
      obtain ⟨_, issues, _, rfl⟩ := DSCEngine.mintDsc_eq_ok.mp success
      exact follow_issued orderly issues
  | burnDsc amount =>
      obtain ⟨repays, rfl⟩ := DSCEngine.burnDsc_eq_ok.mp success
      exact follow_repaid orderly repays
  | redeemCollateral token amount =>
      obtain ⟨_, _, releases, _, rfl⟩ := DSCEngine.redeemCollateral_eq_ok.mp success
      exact follow_released orderly releases
  | redeemCollateralForDsc token amountCollateral amountDscToBurn =>
      obtain ⟨middle, burned, redeemed⟩ := DSCEngine.redeemCollateralForDsc_eq_ok.mp success
      obtain ⟨repays, rfl⟩ := DSCEngine.burnDsc_eq_ok.mp burned
      obtain ⟨_, _, releases, _, rfl⟩ := DSCEngine.redeemCollateral_eq_ok.mp redeemed
      change Runs.run _ _ (w.repaidEvents sender sender amountDscToBurn ++ _) = _
      rw [Runs.run_append, follow_repaid orderly repays]
      exact follow_released (orderly.repaid repays) releases
  | liquidate collateral user debtToCover =>
      obtain ⟨liquidates, rfl⟩ := DSCEngine.liquidate_eq_ok.mp success
      exact follow_liquidated orderly liquidates

/-- A direct call of the ERC20 interface. -/
theorem follow_tokenCall (orderly : w.Orderly) {call : TokenCall} {success : Bool}
    (returned : call.exec sender (w.tokens token) = .ok (success, contract)) :
    Runs.run (Index.follow w.engine.dsc) w.index (call.announces token sender (w.tokens token)) =
      (w.setToken token contract).index := by
  have sound := orderly.sound token
  have start : w.setToken token (w.tokens token) = w := setToken_eq_self
  cases call with
  | transfer target amount =>
      obtain ⟨_, real, receiver, enough, rfl⟩ := ERC20.transfer_eq_ok.mp returned
      have moved := @follow_moved w _ sender target token amount sound real receiver enough
      rw [start] at moved
      exact moved
  | transferFrom source target amount =>
      obtain ⟨_, pulls, rfl⟩ := ERC20.transferFrom_eq_ok.mp returned
      have pulled := @follow_pulled w _ sender source target token amount sound pulls
      rw [start] at pulled
      exact pulled
  | approve spender amount =>
      simp only [TokenCall.exec, ERC20.approve, Checked.bind_eq_ok, ERC20.approveInternal_eq_ok,
        Except.ok.injEq, Prod.mk.injEq] at returned
      obtain ⟨_, ⟨_, _, rfl⟩, _, rfl⟩ := returned
      rfl
  | increaseAllowance spender addedValue =>
      simp only [TokenCall.exec, ERC20.increaseAllowance, Checked.bind_eq_ok, Checked.add_eq_ok,
        ERC20.approveInternal_eq_ok, Except.ok.injEq, Prod.mk.injEq] at returned
      obtain ⟨_, ⟨_, rfl⟩, _, ⟨_, _, rfl⟩, _, rfl⟩ := returned
      rfl
  | decreaseAllowance spender subtractedValue =>
      simp only [TokenCall.exec, ERC20.decreaseAllowance, Checked.bind_eq_ok,
        Checked.require_eq_ok, ERC20.approveInternal_eq_ok, Except.ok.injEq,
        Prod.mk.injEq] at returned
      obtain ⟨_, _, _, ⟨_, _, rfl⟩, _, rfl⟩ := returned
      rfl

/-- Of the coin's own functions only `burnFrom` is open to others than the engine. -/
theorem follow_coinCall (orderly : w.Orderly) (stranger : sender ≠ w.dscOwner) {call : CoinCall}
    {coin : DecentralisedStableCoin} (returned : call.exec sender w.coin = .ok coin) :
    Runs.run (Index.follow w.engine.dsc) w.index (call.announces w.engine.dsc sender w.coin) =
      (w.setCoin coin).index := by
  obtain ⟨contract, change, rewritten⟩ := CoinCall.change stranger returned
  rw [rewritten]
  cases change with
  | @burnFrom _ account amount allowed real enough =>
      have sound := orderly.sound w.engine.dsc
      have left : amount ≤ ((w.tokens w.engine.dsc).spent account sender amount).balances
          account := by
        rw [ERC20.spent_balances]
        exact enough
      have start : w.setToken w.engine.dsc (w.tokens w.engine.dsc) = w := setToken_eq_self
      have spent := @follow_spent w (w.tokens w.engine.dsc) w.engine.dsc account sender amount
      rw [start] at spent
      have burned := @follow_burned w _ w.engine.dsc account amount
        (@ERC20.Sound.spent _ account sender amount sound) real left
      change Runs.run _ _ ((w.tokens w.engine.dsc).spentEvents w.engine.dsc account sender amount ++
        _) = _
      rw [Runs.run_append, spent]
      exact burned

/-- One committed transaction. -/
theorem follow_action (orderly : w.Orderly) {action : Action} (permitted : Permitted w action)
    (success : action.exec w = .ok after) :
    Runs.run (Index.follow w.engine.dsc) w.index (action.events w) = after.index := by
  rw [Action.events_of_ok success]
  have start : ∀ token, w.setToken token (w.tokens token) = w := fun _ => setToken_eq_self
  cases action with
  | callEngine sender call =>
      exact follow_call orderly (fun same => permitted.1 (congrArg some same)) success
  | callToken sender address call =>
      simp only [Action.exec, Checked.bind_eq_ok, Prod.exists, Except.ok.injEq] at success
      obtain ⟨_, contract, returned, rfl⟩ := success
      exact follow_tokenCall orderly returned
  | callCoin sender call =>
      simp only [Action.exec, Checked.bind_eq_ok, Except.ok.injEq] at success
      obtain ⟨coin, returned, rfl⟩ := success
      have stranger : sender ≠ w.dscOwner := by
        intro same
        exact permitted.1 (congrArg some (same.trans orderly.owned))
      exact follow_coinCall orderly stranger returned
  | withdraw sender collateral amount =>
      obtain ⟨_, _, real, receiver, enough, rfl⟩ := DSCPool.withdraw_eq_ok.mp success
      have moved := @follow_moved w _ w.engine.poolAddress sender collateral amount
        (orderly.sound collateral) real receiver enough
      rw [start collateral] at moved
      exact moved
  | issue address target amount =>
      simp only [Action.exec, Checked.bind_eq_ok, ERC20.mintInternal_eq_ok, Except.ok.injEq]
        at success
      obtain ⟨_, ⟨_, fits, rfl⟩, rfl⟩ := success
      have minted := @follow_minted w _ address target amount (orderly.sound address)
        permitted.2.1 fits
      rw [start address] at minted
      exact minted
  | updateFeed priceFeed round =>
      cases success
      rfl
  | advance seconds =>
      cases success
      rfl

end World

/-- The events of a run, those of reverted transactions taken back. -/
def eventLog : World → List Action → List Event := Runs.trace Action.exec fun w action =>
  action.events w

/-- The event log is a complete record. The emitting contracts do what the plain ones do, and from
the deployed state on, whatever anybody does, following the log gives exactly the balances,
allowances and supplies of all tokens, the deposits, the debts and the owner of the coin. -/
theorem log_reconstructs_state {d : Deployment} {start : World} {actions : List Action}
    (deployed : d.run = .ok start) (along : Runs.Along step Permitted start actions) :
    (∀ w action, (Action.emit w action).run.map Prod.fst = action.exec w) ∧
      Runs.run (Index.follow start.engine.dsc) start.index (eventLog start actions) =
        (Runs.run step start actions).index := by
  refine ⟨fun w action => (Action.emit_records w action).erase, ?_⟩
  have keeps : ∀ (w : World) (action : Action),
      w.Orderly ∧ w.engine.dsc = start.engine.dsc → Permitted w action →
      (step w action).Orderly ∧ (step w action).engine.dsc = start.engine.dsc :=
    fun w action held permitted =>
      ⟨held.1.step permitted, (SameContracts.step w action).dsc.trans held.2⟩
  have faithful : ∀ (w : World) (action : Action) (after : World),
      w.Orderly ∧ w.engine.dsc = start.engine.dsc → Permitted w action →
      action.exec w = .ok after →
      Runs.run (Index.follow start.engine.dsc) w.index (action.events w) = after.index := by
    intro w action after held permitted success
    rw [← held.2]
    exact World.follow_action held.1 permitted success
  exact Journal.follow_trace keeps faithful ⟨(Deployment.run_eq_ok deployed).1, rfl⟩ along

section Example

open HelperConfig

/-- A position is opened and its coins change hands; ether then falls and the position is
liquidated. The log alone tells that the debt is gone. -/
theorem log_reconstructs_liquidation :
    (Runs.run (Index.follow anvil.start.engine.dsc) anvil.start.index
        (eventLog anvil.start (indebted ++ [reprice (18 * 10 ^ 8),
          .callEngine liquidator (.liquidate weth user (100 * 10 ^ 18))]))).debts user = 0 := by
  have along : Runs.Along step Permitted anvil.start (indebted ++ [reprice (18 * 10 ^ 8),
      .callEngine liquidator (.liquidate weth user (100 * 10 ^ 18))]) := by decide +kernel
  rw [(log_reconstructs_state anvil.run_ok along).2]
  decide +kernel

end Example

end DscProtocol
