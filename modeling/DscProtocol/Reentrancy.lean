import DscProtocol.AccountView
import DscProtocol.Callback
import DscProtocol.Health

set_option autoImplicit false

/- Engine calls on tokens that call out: whatever is called from within, the call leaves deposits
backed, debts matched and nobody worse off. -/
namespace DscProtocol

namespace World

/-- Holdings keep up with deposits, and debts with the supply. -/
structure Covered (w after : World) : Prop where
  setting : SameSetting w after
  backed : ∀ token, after.deposits token + w.held token ≤ after.held token + w.deposits token
  matched : after.supply + w.debts ≤ after.debts + w.supply

variable {w before after : World} {sender source target token user account : Address} {amount : Nat}
  {callbacks : Callbacks}

theorem Covered.trans {first second third : World} (left : Covered first second)
    (right : Covered second third) : Covered first third where
  setting := left.setting.trans right.setting
  backed := by
    intro token
    have first := left.backed token
    have second := right.backed token
    omega
  matched := by
    have first := left.matched
    have second := right.matched
    omega

theorem Calm.covered (calm : Calm w after) : Covered w after where
  setting := calm.setting
  backed := by
    intro token
    have same : after.deposits token = w.deposits token :=
      deposits_of_collateralDeposited_eq calm.deposited
    have held := calm.held token
    omega
  matched := calm.matched

theorem Orderly.enter (orderly : w.Orderly) : (w.setStatus .entered).Locked := by
  have same : (w.setStatus .entered).setStatus .notEntered = w :=
    setStatus_self w .notEntered orderly.idle
  refine ⟨rfl, ?_⟩
  rw [same]
  exact orderly

/-- What happened behind the guard is what happened. -/
theorem SameSetting.leave (idle : w.engine.status = .notEntered)
    (same : SameSetting (w.setStatus .entered) after) :
    SameSetting w (after.setStatus .notEntered) :=
  ⟨same.engineAddress, idle.symm, same.priceFeeds, same.collateralTokens, same.dsc,
    same.poolAddress, same.pool, same.dscOwner, same.feeds, same.etherBalance, same.timestamp⟩

theorem Covered.leave (idle : w.engine.status = .notEntered)
    (covered : Covered (w.setStatus .entered) after) : Covered w (after.setStatus .notEntered) :=
  ⟨covered.setting.leave idle, covered.backed, covered.matched⟩

/- The parts of a guarded body -/

theorem Locked.setDeposited (locked : w.Locked)
    (real : amount ≠ 0 → user ≠ 0 ∧ user ≠ w.engineAddress ∧ w.engine.priceFeeds token ≠ 0) :
    (w.setDeposited user token amount).Locked := by
  have positions : ((w.setStatus .notEntered).setDeposited user token amount).RealPositions :=
    locked.orderly.toRealPositions.setDeposited real
  have same := SameSetting.setDeposited (w.setStatus .notEntered) user token amount
  have ledgers := locked.orderly.toSoundLedgers
  exact ⟨locked.entered, locked.orderly.toDeployed.of_sameSetting same,
    ⟨ledgers.sound, ledgers.engine_allows_nothing, ledgers.zero_holds_no_dsc⟩,
    ⟨positions.deposit_real, positions.engine_owes_nothing, positions.debt_scales⟩⟩

theorem setDeposited_deposits (user token other : Address) (amount : Nat) :
    (w.setDeposited user token amount).deposits other +
        (if other = token then w.engine.collateralDeposited user token else 0) =
      w.deposits other + if other = token then amount else 0 := by
  by_cases here : other = token
  · subst here
    have recorded : (w.setDeposited user other amount).deposits other +
        w.engine.collateralDeposited user other = w.deposits other + amount :=
      Ledger.sum_assign w.engine.collateralDeposited user other amount
    rw [if_pos rfl, if_pos rfl]
    exact recorded
  · have recorded : (w.setDeposited user token amount).deposits other = w.deposits other :=
      Ledger.sum_assign_of_ne w.engine.collateralDeposited user token other amount here
    rw [if_neg here, if_neg here, recorded]

/-- A deposit is rewritten before the tokens it announces move. What is called from within sees a
state that is not backed; once they have moved it is. -/
theorem announced_covered {deposit : Nat} {contract : ERC20}
    (calm : Calm (w.setDeposited user token deposit) before)
    (balance : deposit + before.held token ≤
      contract.balances w.engineAddress + w.engine.collateralDeposited user token)
    (supply : contract.totalSupply = (before.tokens token).totalSupply)
    (later : Calm (before.setToken token contract) after) : Covered w after := by
  have setting := SameSetting.setDeposited w user token deposit
  have engine : before.engineAddress = w.engineAddress := calm.setting.engineAddress
  refine ⟨((setting.trans calm.setting).trans (SameSetting.setToken before token contract)).trans
    later.setting, ?_, ?_⟩
  · intro other
    have recorded := @setDeposited_deposits w user token other deposit
    have kept : after.deposits other = (w.setDeposited user token deposit).deposits other :=
      deposits_of_collateralDeposited_eq (later.deposited.trans calm.deposited)
    have first : w.held other ≤ before.held other := calm.held other
    have second := later.held other
    by_cases here : other = token
    · subst here
      have now : (before.setToken other contract).held other =
          contract.balances w.engineAddress := by
        unfold held
        rw [tokens_setToken, ← engine]
        rfl
      rw [if_pos rfl, if_pos rfl] at recorded
      omega
    · have now : (before.setToken token contract).held other = before.held other :=
        held_of_tokens_eq (tokens_setToken_of_ne contract here) rfl
      rw [if_neg here, if_neg here] at recorded
      omega
  · have same : (before.setToken token contract).supply = before.supply := supply_setToken supply
    have debts : (before.setToken token contract).debts = before.debts := debts_of_dscMinted_eq rfl
    have first : before.supply + w.debts ≤ before.debts + w.supply := calm.matched
    have second := later.matched
    omega

/-- `_redeemCollateral` on tokens that call out. -/
theorem redeemCollateralInternal_calls (locked : w.Locked) (permitted : callbacks.Permitted w)
    (outside : target ≠ w.engineAddress)
    (success : DSCEngine.redeemCollateralInternal callbacks.calling source target token amount w =
      .ok after) :
    Covered w after ∧ after.Locked ∧ (∀ user, after.engine.dscMinted user ≤
        w.engine.dscMinted user) ∧
      after.engine.collateralDeposited = Ledger.assign w.engine.collateralDeposited source token
        (w.engine.collateralDeposited source token - amount) := by
  simp only [DSCEngine.redeemCollateralInternal, Checked.bind_eq_ok, Checked.sub_eq_ok,
    Checked.require_eq_ok, Except.ok.injEq, exists_const, Prod.exists] at success
  obtain ⟨_, ⟨deposited, rfl⟩, _, final, returned, _, rfl⟩ := success
  have lockedThere : (w.setDeposited source token
      (w.engine.collateralDeposited source token - amount)).Locked := by
    apply locked.setDeposited
    intro some
    exact locked.orderly.deposit_real source token (by
      change w.engine.collateralDeposited source token ≠ 0
      omega)
  obtain ⟨before, calm, lockedBefore, enough, later, lockedAfter⟩ :=
    transfer_calls lockedThere permitted returned
  change amount ≤ (before.tokens token).balances w.engineAddress at enough
  change Calm (before.setToken token ((before.tokens token).moved w.engineAddress target amount))
    final at later
  refine ⟨?_, lockedAfter, ?_, later.deposited.trans calm.deposited⟩
  · apply announced_covered calm _ _ later
    · have moved : ((before.tokens token).moved w.engineAddress target amount).balances =
          Ledger.move (before.tokens token).balances w.engineAddress target amount :=
        (lockedBefore.orderly.sound token).moved_balances enough
      have engine : before.engineAddress = w.engineAddress := calm.setting.engineAddress
      have paid : ((before.tokens token).moved w.engineAddress target amount).balances
          w.engineAddress = before.held token - amount := by
        rw [moved, Ledger.move_source _ amount outside.symm, ← engine]
        rfl
      have there : amount ≤ before.held token := by
        unfold held
        rw [engine]
        exact enough
      omega
    · rfl
  · intro user
    exact (later.owed user).trans (calm.owed user)

/-- What a call of the engine leaves, whatever its tokens call: order, cover, and nobody below
where the account was, up to the line. -/
structure Withstands (w after : World) : Prop where
  orderly : after.Orderly
  covered : Covered w after
  health : ∀ account, min (w.health account) DSCEngine.minHealthFactor ≤
    min (after.health account) DSCEngine.minHealthFactor

theorem Withstands.trans {first second third : World} (left : Withstands first second)
    (right : Withstands second third) : Withstands first third :=
  ⟨right.orderly, left.covered.trans right.covered,
    fun account => (left.health account).trans (right.health account)⟩

theorem health_le_of_position (same : SameSetting w after)
    (more : ∀ token, w.engine.collateralDeposited user token ≤
      after.engine.collateralDeposited user token)
    (less : after.engine.dscMinted user ≤ w.engine.dscMinted user) :
    min (w.health user) DSCEngine.minHealthFactor ≤
      min (after.health user) DSCEngine.minHealthFactor := by
  unfold World.health
  rw [same.collateralTokens, same.price]
  exact @Pledge.health_mono _ terms w.engine.collateralTokens w.price (w.position user)
    (after.position user) (fun token _ => more token) less

/-- Where no token calls out this is what earlier results say. -/
theorem exec_withstands {call : EngineCall} (orderly : w.Orderly)
    (user : sender ≠ w.engineAddress) (success : call.exec standard sender w = .ok after) :
    Withstands w after := by
  have setting := SameSetting.exec success
  refine ⟨orderly.execEngine user success, ⟨setting, ?_, ?_⟩,
    (exec_noneWorse success).health_le setting⟩
  · intro token
    have balanced : Balanced token w after := exec_balanced orderly user success
    unfold Balanced at balanced
    omega
  · have matched := exec_matched orderly user success
    unfold Matched at matched
    omega

/-- The deposit is credited before the tokens arrive. -/
theorem depositCollateral_withstands (orderly : w.Orderly) (permitted : callbacks.Permitted w)
    (user : sender ≠ w.engineAddress)
    (success : DSCEngine.depositCollateral callbacks.calling sender token amount w = .ok after) :
    Withstands w after := by
  obtain ⟨_, _, success⟩ := Checked.bind_eq_ok.mp success
  obtain ⟨_, allowed, success⟩ := Checked.bind_eq_ok.mp success
  obtain ⟨idle, inside, body, rfl⟩ := ReentrancyGuard.nonReentrant_eq_ok.mp success
  simp only [DSCEngine.isAllowedToken, Checked.require_eq_ok] at allowed
  simp only [Checked.bind_eq_ok, Checked.add_eq_ok, Checked.require_eq_ok, Except.ok.injEq,
    exists_const, Prod.exists] at body
  obtain ⟨_, ⟨_, rfl⟩, _, final, returned, _, rfl⟩ := body
  have credited : ((w.setStatus .entered).setDeposited sender token
      (w.engine.collateralDeposited sender token + amount)).Locked :=
    orderly.enter.setDeposited (fun _ => ⟨transferFrom_source_ne_zero returned, user, allowed⟩)
  obtain ⟨before, calm, lockedBefore, pulls, later, lockedAfter⟩ :=
    transferFrom_calls credited permitted returned
  change (before.tokens token).Pulls w.engineAddress sender w.engineAddress amount at pulls
  change Calm (before.setToken token ((before.tokens token).pulled w.engineAddress sender
    w.engineAddress amount)) final at later
  have covered : Covered (w.setStatus .entered) final := by
    apply announced_covered calm _ ERC20.pulled_totalSupply later
    have moved : ((before.tokens token).pulled w.engineAddress sender w.engineAddress
        amount).balances = Ledger.move (before.tokens token).balances sender w.engineAddress
          amount := (lockedBefore.orderly.sound token).pulled_balances pulls.enough
    have engine : before.engineAddress = w.engineAddress := calm.setting.engineAddress
    have received : ((before.tokens token).pulled w.engineAddress sender w.engineAddress
        amount).balances w.engineAddress = before.held token + amount := by
      rw [moved, Ledger.move_target _ amount user, ← engine]
      rfl
    change w.engine.collateralDeposited sender token + amount + before.held token ≤
      ((before.tokens token).pulled w.engineAddress sender w.engineAddress amount).balances
        w.engineAddress + w.engine.collateralDeposited sender token
    omega
  refine ⟨lockedAfter.orderly, covered.leave idle, ?_⟩
  intro account
  apply health_le_of_position (covered.leave idle).setting
  · intro other
    have deposits : final.engine.collateralDeposited = Ledger.assign w.engine.collateralDeposited
        sender token (w.engine.collateralDeposited sender token + amount) :=
      later.deposited.trans calm.deposited
    change _ ≤ final.engine.collateralDeposited account other
    rw [deposits]
    exact Ledger.le_assign w.engine.collateralDeposited (Nat.le_add_right _ _) account other
  · exact (later.owed account).trans (calm.owed account)

/-- The health check comes after every call from within. -/
theorem redeemCollateral_withstands (orderly : w.Orderly) (permitted : callbacks.Permitted w)
    (user : sender ≠ w.engineAddress)
    (success : DSCEngine.redeemCollateral callbacks.calling sender token amount w = .ok after) :
    Withstands w after := by
  obtain ⟨_, _, success⟩ := Checked.bind_eq_ok.mp success
  obtain ⟨idle, inside, body, rfl⟩ := ReentrancyGuard.nonReentrant_eq_ok.mp success
  obtain ⟨_, released, body⟩ := Checked.bind_eq_ok.mp body
  obtain ⟨_, checked, done⟩ := Checked.bind_eq_ok.mp body
  cases done
  have passes := DSCEngine.revertIfHealthFactorIsBroken_eq_ok.mp checked
  obtain ⟨covered, locked, owed, deposits⟩ :=
    redeemCollateralInternal_calls orderly.enter permitted user released
  refine ⟨locked.orderly, covered.leave idle, ?_⟩
  intro account
  by_cases own : account = sender
  · subst own
    have healthy : DSCEngine.minHealthFactor ≤ (inside.setStatus .notEntered).health account :=
      passes.healthy
    omega
  · apply health_le_of_position (covered.leave idle).setting
    · intro other
      have same : inside.engine.collateralDeposited account =
          w.engine.collateralDeposited account := by
        rw [deposits]
        exact Ledger.assign_row w.engine.collateralDeposited sender account token _ own
      exact Nat.le_of_eq (congrFun same other).symm
    · exact owed account

/-- Two transfers and a burn; the user's health is read before all of it and after all of it. -/
theorem liquidate_withstands {collateral : Address} {debtToCover : Nat} (orderly : w.Orderly)
    (permitted : callbacks.Permitted w) (liquidator : sender ≠ w.engineAddress)
    (success : DSCEngine.liquidate callbacks.calling sender collateral user debtToCover w =
      .ok after) : Withstands w after := by
  obtain ⟨_, _, success⟩ := Checked.bind_eq_ok.mp success
  obtain ⟨idle, inside, body, rfl⟩ := ReentrancyGuard.nonReentrant_eq_ok.mp success
  obtain ⟨_, starting, body⟩ := Checked.bind_eq_ok.mp body
  obtain ⟨_, _, body⟩ := Checked.bind_eq_ok.mp body
  obtain ⟨_, _, body⟩ := Checked.bind_eq_ok.mp body
  obtain ⟨_, _, body⟩ := Checked.bind_eq_ok.mp body
  obtain ⟨_, _, body⟩ := Checked.bind_eq_ok.mp body
  obtain ⟨_, _, body⟩ := Checked.bind_eq_ok.mp body
  obtain ⟨paid, payout, body⟩ := Checked.bind_eq_ok.mp body
  obtain ⟨swept, sweep, body⟩ := Checked.bind_eq_ok.mp body
  obtain ⟨_, burn, body⟩ := Checked.bind_eq_ok.mp body
  obtain ⟨_, ending, body⟩ := Checked.bind_eq_ok.mp body
  obtain ⟨_, improved, body⟩ := Checked.bind_eq_ok.mp body
  obtain ⟨_, _, done⟩ := Checked.bind_eq_ok.mp body
  cases done
  obtain ⟨_, _, rfl⟩ := DSCEngine.healthFactor_eq_ok.mp starting
  obtain ⟨_, _, rfl⟩ := DSCEngine.healthFactor_eq_ok.mp ending
  obtain ⟨repays, rfl⟩ := DSCEngine.burnDscInternal_eq_ok.mp burn
  rw [Checked.require_eq_ok] at improved
  have inner : callbacks.Permitted (w.setStatus .entered) := permitted
  obtain ⟨coveredPaid, lockedPaid, owedPaid, depositsPaid⟩ :=
    redeemCollateralInternal_calls orderly.enter inner liquidator payout
  have outside : paid.engine.poolAddress ≠ paid.engineAddress := by
    rw [coveredPaid.setting.poolAddress, coveredPaid.setting.engineAddress]
    exact orderly.pool_ne_engine
  obtain ⟨coveredSwept, lockedSwept, owedSwept, depositsSwept⟩ :=
    redeemCollateralInternal_calls lockedPaid (permitted_of_same inner coveredPaid.setting)
      outside sweep
  have payer : sender ≠ swept.engineAddress := by
    rw [coveredSwept.setting.engineAddress, coveredPaid.setting.engineAddress]
    exact liquidator
  obtain ⟨calm, locked⟩ := repaid_calm lockedSwept payer repays
  have covered := (coveredPaid.trans coveredSwept).trans calm.covered
  refine ⟨locked.orderly, covered.leave idle, ?_⟩
  intro account
  by_cases liquidated : account = user
  · subst liquidated
    have better : w.health account < ((swept.repaid account sender debtToCover).setStatus
        .notEntered).health account := Nat.lt_of_not_le improved
    omega
  · apply health_le_of_position (covered.leave idle).setting
    · intro other
      have same : swept.engine.collateralDeposited account =
          w.engine.collateralDeposited account := by
        rw [depositsSwept, Ledger.assign_row _ _ _ _ _ liquidated, depositsPaid]
        exact Ledger.assign_row w.engine.collateralDeposited user account collateral _ liquidated
      exact Nat.le_of_eq (congrFun same other).symm
    · exact (calm.owed account).trans ((owedSwept account).trans (owedPaid account))

/-- Every outermost call, on tokens that call whatever they like. -/
theorem calling_withstands {call : EngineCall} (orderly : w.Orderly)
    (permitted : callbacks.Permitted w) (user : sender ≠ w.engineAddress)
    (success : call.exec callbacks.calling sender w = .ok after) : Withstands w after := by
  cases call with
  | depositCollateral token amount =>
      exact depositCollateral_withstands orderly permitted user success
  | depositCollateralAndMintDsc token amountCollateral amountDscToMint =>
      obtain ⟨middle, deposited, minted⟩ := Checked.bind_eq_ok.mp success
      have first := depositCollateral_withstands orderly permitted user deposited
      have userThere : sender ≠ middle.engineAddress := by
        rw [first.covered.setting.engineAddress]
        exact user
      have call : EngineCall.exec standard sender (.mintDsc amountDscToMint) middle = .ok after :=
        minted
      exact first.trans (exec_withstands first.orderly userThere call)
  | mintDsc amount =>
      have call : EngineCall.exec standard sender (.mintDsc amount) w = .ok after := success
      exact exec_withstands orderly user call
  | burnDsc amount =>
      have call : EngineCall.exec standard sender (.burnDsc amount) w = .ok after := success
      exact exec_withstands orderly user call
  | redeemCollateral token amount =>
      exact redeemCollateral_withstands orderly permitted user success
  | redeemCollateralForDsc token amountCollateral amountDscToBurn =>
      obtain ⟨middle, burned, redeemed⟩ := Checked.bind_eq_ok.mp success
      have call : EngineCall.exec standard sender (.burnDsc amountDscToBurn) w = .ok middle :=
        burned
      have first := exec_withstands orderly user call
      have same := first.covered.setting
      have userThere : sender ≠ middle.engineAddress := by
        rw [same.engineAddress]
        exact user
      exact first.trans (redeemCollateral_withstands first.orderly
        (permitted_of_same permitted same) userThere redeemed)
  | liquidate collateral debtor debtToCover =>
      exact liquidate_withstands orderly permitted user success

end World

/-- A transaction with what the tokens call during it. What a token that is called directly calls
itself happens between the calls of the engine: these are transactions of their own. -/
def stepCalling : World → Callbacks × Action → World :=
  Runs.commit fun w entry => entry.2.execWith entry.1.calling w

def PermittedCalling (w : World) (entry : Callbacks × Action) : Prop :=
  entry.1.Permitted w ∧ Permitted w entry.2

/-- A state some run with tokens that call out reaches from a deployment. -/
def ReachableCalling (w : World) : Prop :=
  ∃ (d : Deployment) (start : World) (entries : List (Callbacks × Action)),
    d.run = .ok start ∧ Runs.Along stepCalling PermittedCalling start entries ∧
      w = Runs.run stepCalling start entries

namespace World

variable {w after : World} {entry : Callbacks × Action}

/-- Deposits are backed by what the engine holds, the supply by debts. -/
structure Secure (w : World) : Prop extends w.Sturdy where
  owed : w.supply ≤ w.debts

theorem Secure.of_withstands (secure : w.Secure) (withstands : Withstands w after) :
    after.Secure := by
  refine ⟨⟨withstands.orderly, ?_⟩, ?_⟩
  · intro token
    have before := secure.backed token
    have kept := withstands.covered.backed token
    omega
  · have before := secure.owed
    have kept := withstands.covered.matched
    omega

theorem Secure.execCalling (secure : w.Secure) (permitted : PermittedCalling w entry)
    (success : entry.2.execWith entry.1.calling w = .ok after) : after.Secure := by
  obtain ⟨callbacks, allowed⟩ := permitted
  rcases Action.execWith_cases success with ⟨sender, call, same, returned⟩ | ⟨_, returned⟩
  · rw [same] at allowed
    have user : sender ≠ w.engineAddress := fun own => allowed.1 (congrArg some own)
    exact secure.of_withstands (calling_withstands secure.toOrderly callbacks user returned)
  · refine ⟨⟨secure.toOrderly.exec allowed returned, ?_⟩, ?_⟩
    · intro token
      have before := secure.backed token
      have moved := @exec_held w after token secure.toOrderly entry.2 allowed returned
      omega
    · have before := secure.owed
      have moved := exec_debts secure.toOrderly allowed returned
      omega

end World

/-- Whatever the tokens call, over any run. -/
theorem ReachableCalling.secure {w : World} (reachable : ReachableCalling w) : w.Secure := by
  obtain ⟨d, start, entries, deployed, along, rfl⟩ := reachable
  obtain ⟨orderly, deposited, minted, coin, _⟩ := Deployment.run_eq_ok deployed
  have first : start.Secure := by
    refine ⟨⟨orderly, ?_⟩, ?_⟩
    · intro token
      have nothing : start.deposits token = 0 := by
        unfold World.deposits
        rw [deposited]
        exact Finset.sum_const_zero
      omega
    · have nothing : start.supply = 0 := by
        unfold World.supply
        rw [coin]
        rfl
      omega
  have keeps : ∀ w entry, w.Secure → PermittedCalling w entry → (stepCalling w entry).Secure :=
    fun _ _ secure permitted =>
      Runs.commit_preserves secure (fun _ success => secure.execCalling permitted success)
  exact Runs.invariant keeps first along

theorem stepCalling_none (w : World) (action : Action) :
    stepCalling w (Callbacks.none, action) = step w action := by
  have same : action.execWith Callbacks.none.calling w = action.exec w := by
    rw [Callbacks.calling_none]
    cases action <;> rfl
  unfold stepCalling step Runs.commit
  dsimp only
  rw [same]

/-- Runs on standard tokens are among them. -/
theorem Reachable.calling {w : World} (reachable : Reachable w) : ReachableCalling w := by
  obtain ⟨d, start, actions, deployed, along, rfl⟩ := reachable
  have same : ∀ (actions : List Action) (start : World), Runs.Along step Permitted start actions →
      Runs.Along stepCalling PermittedCalling start (actions.map fun action => (.none, action)) ∧
        Runs.run stepCalling start (actions.map fun action => (.none, action)) =
          Runs.run step start actions := by
    intro actions
    induction actions with
    | nil => exact fun _ _ => ⟨trivial, rfl⟩
    | cons action rest ih =>
        intro start along
        obtain ⟨later, reached⟩ := ih (step start action) along.2
        simp only [List.map_cons, Runs.Along, Runs.run, stepCalling_none]
        exact ⟨⟨⟨fun _ _ _ _ => ⟨trivial, trivial⟩, along.1⟩, later⟩, reached⟩
  obtain ⟨along, reached⟩ := same actions start along
  exact ⟨d, start, _, deployed, along, reached.symm⟩

/-- Calls to guarded entry points from within change nothing at all, and whatever else is called
from within, an outermost call leaves deposits backed, the supply owed and nobody worse off. -/
theorem callbacks_cannot_exploit {w after : World} {callbacks : Callbacks} {sender : Address}
    {call : EngineCall} (reachable : ReachableCalling w) (permitted : callbacks.Permitted w)
    (user : sender ≠ w.engineAddress)
    (success : call.exec callbacks.calling sender w = .ok after) :
    call.exec callbacks.unguarded.calling sender w = .ok after ∧
      (∀ token, after.deposits token ≤ after.held token) ∧ after.supply ≤ after.debts ∧
      (∀ account, min (w.health account) DSCEngine.minHealthFactor ≤
        min (after.health account) DSCEngine.minHealthFactor) ∧
      ∀ account before later, DSCEngine.healthFactor w account = .ok before →
        DSCEngine.healthFactor after account = .ok later →
          min before DSCEngine.minHealthFactor ≤ min later DSCEngine.minHealthFactor := by
  have withstands := World.calling_withstands reachable.secure.toOrderly permitted user success
  have secure := reachable.secure.of_withstands withstands
  refine ⟨?_, secure.backed, secure.owed, withstands.health, ?_⟩
  · rw [← EngineCall.exec_congr (Callbacks.unguarded_sameWithin permitted) sender call w]
    exact success
  · intro account before later first second
    obtain ⟨_, _, rfl⟩ := DSCEngine.healthFactor_eq_ok.mp first
    obtain ⟨_, _, rfl⟩ := DSCEngine.healthFactor_eq_ok.mp second
    exact withstands.health account

section Example

open HelperConfig

/-- The deployer owes 100 coins and has approved one more ether and 30 of the coins. -/
def aboutToDeposit : World :=
  Runs.run step anvil.start
    [.issue weth deployer (10 * 10 ^ 18),
      .callToken deployer weth (.approve anvil.engineAddress (6 * 10 ^ 18)),
      .callEngine deployer (.depositCollateralAndMintDsc weth (5 * 10 ^ 18) (100 * 10 ^ 18)),
      .callToken deployer anvil.dscAddress (.approve anvil.engineAddress (30 * 10 ^ 18))]

/-- Before it moves the token lets the deployer burn 30 coins and try to redeem the credit. -/
def burnsWithin : Callbacks where
  code := standard
  before := fun _ _ _ _ =>
    [.call (.callEngine deployer (.burnDsc (30 * 10 ^ 18))) [] [],
      .call (.callEngine deployer (.redeemCollateral weth (6 * 10 ^ 18))) [] []]
  after := fun _ _ _ _ => []

theorem callbacks_cannot_exploit_deposit :
    (stepCalling aboutToDeposit (burnsWithin,
        .callEngine deployer (.depositCollateral weth (10 ^ 18)))).supply = 70 * 10 ^ 18 ∧
      (stepCalling aboutToDeposit (burnsWithin,
          .callEngine deployer (.depositCollateral weth (10 ^ 18)))).deposits weth ≤
        (stepCalling aboutToDeposit (burnsWithin,
          .callEngine deployer (.depositCollateral weth (10 ^ 18)))).held weth := by
  have reachable : Reachable aboutToDeposit :=
    ⟨anvil, anvil.start, _, anvil.run_ok, by decide +kernel, rfl⟩
  have permitted : burnsWithin.Permitted aboutToDeposit := by
    have outside : ∀ call, Outside aboutToDeposit (.callEngine deployer call) := by
      intro call
      have user : (Action.callEngine deployer call).sender? ≠
          some aboutToDeposit.engineAddress := by
        change some deployer ≠ _
        decide +kernel
      refine ⟨⟨user, trivial⟩, ?_⟩
      intro news
      rcases news with ⟨_, _, impossible⟩ | ⟨_, impossible⟩ <;> cases impossible
    intro _ _ _ _
    exact ⟨⟨⟨outside _, trivial, trivial⟩, ⟨outside _, trivial, trivial⟩, trivial⟩, trivial⟩
  have returns : (EngineCall.exec burnsWithin.calling deployer (.depositCollateral weth (10 ^ 18))
      aboutToDeposit).toBool = true := by
    decide +kernel
  have success : EngineCall.exec burnsWithin.calling deployer (.depositCollateral weth (10 ^ 18))
      aboutToDeposit = .ok (stepCalling aboutToDeposit (burnsWithin,
        .callEngine deployer (.depositCollateral weth (10 ^ 18)))) :=
    @Runs.commit_of_returns World (Callbacks × Action) Revert
      (fun w entry => entry.2.execWith entry.1.calling w) aboutToDeposit
      (burnsWithin, .callEngine deployer (.depositCollateral weth (10 ^ 18))) returns
  refine ⟨by decide +kernel, ?_⟩
  exact (callbacks_cannot_exploit reachable.calling permitted (by decide +kernel) success).2.1 weth

end Example

end DscProtocol
