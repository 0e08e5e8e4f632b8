import DscProtocol.CoinSupply
import DscProtocol.Lib.Simulation

set_option autoImplicit false

/- The books of the coin contract, whoever calls it, and the system as one of its callers. -/
namespace DscProtocol

namespace ERC20

/-- Units went from one account to another, the zero address standing for what is not in
circulation. -/
structure Flows (token after : ERC20) (source target : Address) (amount : Nat) : Prop where
  sound : after.Sound
  zero : after.balances 0 = token.balances 0
  supply : after.totalSupply + (if target = 0 then amount else 0) =
    token.totalSupply + (if source = 0 then amount else 0)
  accounts : ∀ account, account ≠ 0 →
    after.balances account + (if source = account then amount else 0) =
      token.balances account + (if target = account then amount else 0)

variable {token after : ERC20} {sender source target owner spender account : Address}
  {amount : Nat}

theorem flows_moved (sound : token.Sound) (real : source ≠ 0) (receiver : target ≠ 0)
    (enough : amount ≤ token.balances source) :
    token.Flows (token.moved source target amount) source target amount where
  sound := sound.moved enough
  zero := moved_balances_of_ne real.symm receiver.symm
  supply := by
    rw [if_neg real, if_neg receiver]
    rfl
  accounts := by
    intro account _
    rw [sound.moved_balances enough]
    exact Ledger.move_flow token.balances target account enough

theorem flows_pulled (sound : token.Sound) (pulls : token.Pulls sender source target amount) :
    token.Flows (token.pulled sender source target amount) source target amount where
  sound := sound.pulled pulls.enough
  zero := pulled_balances_of_ne pulls.source_ne_zero.symm pulls.target_ne_zero.symm
  supply := by
    rw [if_neg pulls.source_ne_zero, if_neg pulls.target_ne_zero, pulled_totalSupply]
  accounts := by
    intro account _
    rw [sound.pulled_balances pulls.enough]
    exact Ledger.move_flow token.balances target account pulls.enough

theorem flows_minted (sound : token.Sound) (real : account ≠ 0)
    (fits : token.totalSupply + amount < wordLimit) :
    token.Flows (token.minted account amount) 0 account amount where
  sound := sound.minted fits
  zero := minted_balances_of_ne real.symm
  supply := by
    rw [if_neg real, if_pos rfl]
    rfl
  accounts := by
    intro other someone
    rw [sound.minted_balances fits, if_neg someone.symm]
    by_cases same : account = other
    · subst same
      rw [Function.update_self, if_pos rfl, Nat.add_zero]
    · rw [Function.update_of_ne (Ne.symm same), if_neg same]

theorem flows_burned (sound : token.Sound) (real : account ≠ 0)
    (enough : amount ≤ token.balances account) :
    token.Flows (token.burned account amount) account 0 amount where
  sound := sound.burned enough
  zero := burned_balances_of_ne real.symm
  supply := by
    have held := Ledger.le_sum token.balances account
    rw [sound.conserved] at held
    rw [sound.burned_totalSupply enough, if_pos rfl, if_neg real]
    omega
  accounts := by
    intro other someone
    rw [if_neg someone.symm]
    by_cases same : account = other
    · subst same
      have lowered : (token.burned account amount).balances account =
          token.balances account - amount := Function.update_self _ _ _
      rw [lowered, if_pos rfl]
      omega
    · rw [burned_balances_of_ne (Ne.symm same), if_neg same]

/-- Allowances are not units. -/
theorem Flows.of_spent (flows : (token.spent owner spender amount).Flows after source target
    amount) : token.Flows after source target amount where
  sound := flows.sound
  zero := by
    have zero := flows.zero
    rw [spent_balances] at zero
    exact zero
  supply := by
    have supply := flows.supply
    rw [spent_totalSupply] at supply
    exact supply
  accounts := by
    intro account real
    have moved := flows.accounts account real
    rw [spent_balances] at moved
    exact moved

theorem flows_nothing (sound : after.Sound) (balances : after.balances = token.balances)
    (supply : after.totalSupply = token.totalSupply) : token.Flows after 0 0 0 where
  sound := sound
  zero := by rw [balances]
  supply := by rw [supply]
  accounts := by
    intro account _
    rw [balances]

end ERC20

/-- From whom to whom a call on the coin moves how much. -/
def PublicCall.flow (sender : Address) (call : PublicCall) : Address × Address × Nat :=
  match call with
  | .erc20 (.transfer target amount) => (sender, target, amount)
  | .erc20 (.transferFrom source target amount) => (source, target, amount)
  | .erc20 _ => (0, 0, 0)
  | .own (.mint target amount) => (0, target, amount)
  | .own (.burn amount) => (sender, 0, amount)
  | .own (.burnFrom account amount) => (account, 0, amount)
  | .own _ => (0, 0, 0)

namespace DecentralisedStableCoin

variable {coin after : DecentralisedStableCoin} {entry : Address × PublicCall}

/-- What a call takes from an account; from the zero address it takes what it mints. -/
def leaving (account : Address) (_ : DecentralisedStableCoin) (entry : Address × PublicCall) :
    Nat :=
  if (entry.2.flow entry.1).1 = account then (entry.2.flow entry.1).2.2 else 0

/-- What a call brings an account; to the zero address goes what it burns. -/
def arriving (account : Address) (_ : DecentralisedStableCoin) (entry : Address × PublicCall) :
    Nat :=
  if (entry.2.flow entry.1).2.1 = account then (entry.2.flow entry.1).2.2 else 0

theorem exec_flows (sound : coin.toERC20.Sound)
    (returned : PublicCall.exec coin entry = .ok after) :
    coin.toERC20.Flows after.toERC20 (entry.2.flow entry.1).1 (entry.2.flow entry.1).2.1
      (entry.2.flow entry.1).2.2 := by
  obtain ⟨sender, call⟩ := entry
  cases call with
  | erc20 call =>
      simp only [PublicCall.exec, Checked.bind_eq_ok, Prod.exists, Except.ok.injEq] at returned
      obtain ⟨_, token, returned, rfl⟩ := returned
      cases call with
      | transfer target amount =>
          obtain ⟨_, real, receiver, enough, rfl⟩ := ERC20.transfer_eq_ok.mp returned
          exact ERC20.flows_moved sound real receiver enough
      | transferFrom source target amount =>
          obtain ⟨_, pulls, rfl⟩ := ERC20.transferFrom_eq_ok.mp returned
          exact ERC20.flows_pulled sound pulls
      | approve spender amount =>
          simp only [TokenCall.exec, ERC20.approve, Checked.bind_eq_ok,
            ERC20.approveInternal_eq_ok, Except.ok.injEq, Prod.mk.injEq] at returned
          obtain ⟨_, ⟨_, _, rfl⟩, _, rfl⟩ := returned
          exact ERC20.flows_nothing sound.approved rfl rfl
      | increaseAllowance spender addedValue =>
          simp only [TokenCall.exec, ERC20.increaseAllowance, Checked.bind_eq_ok,
            Checked.add_eq_ok, ERC20.approveInternal_eq_ok, Except.ok.injEq, Prod.mk.injEq]
            at returned
          obtain ⟨_, _, _, ⟨_, _, rfl⟩, _, rfl⟩ := returned
          exact ERC20.flows_nothing sound.approved rfl rfl
      | decreaseAllowance spender subtractedValue =>
          simp only [TokenCall.exec, ERC20.decreaseAllowance, Checked.bind_eq_ok,
            Checked.require_eq_ok, ERC20.approveInternal_eq_ok, Except.ok.injEq, Prod.mk.injEq]
            at returned
          obtain ⟨_, _, _, ⟨_, _, rfl⟩, _, rfl⟩ := returned
          exact ERC20.flows_nothing sound.approved rfl rfl
  | own call =>
      cases call with
      | mint target amount =>
          simp only [PublicCall.exec, CoinCall.exec, Checked.bind_eq_ok, Prod.exists, mint_eq_ok,
            Except.ok.injEq] at returned
          obtain ⟨_, _, ⟨_, _, real, _, fits, rfl⟩, rfl⟩ := returned
          exact ERC20.flows_minted sound real fits
      | burn amount =>
          obtain ⟨_, _, enough, real, rfl⟩ := burn_eq_ok.mp returned
          exact ERC20.flows_burned sound real enough
      | burnFrom account amount =>
          obtain ⟨_, real, enough, rfl⟩ := burnFrom_eq_ok.mp returned
          have left : amount ≤ (coin.toERC20.spent account sender amount).balances account := by
            rw [ERC20.spent_balances]
            exact enough
          exact (ERC20.flows_burned sound.spent real left).of_spent
      | transferOwnership newOwner =>
          simp only [PublicCall.exec, CoinCall.exec, transferOwnership, Checked.bind_eq_ok,
            Except.ok.injEq] at returned
          obtain ⟨_, _, _, _, rfl⟩ := returned
          exact ERC20.flows_nothing sound rfl rfl
      | renounceOwnership =>
          simp only [PublicCall.exec, CoinCall.exec, renounceOwnership, Checked.bind_eq_ok,
            Except.ok.injEq] at returned
          obtain ⟨_, _, rfl⟩ := returned
          exact ERC20.flows_nothing sound rfl rfl

/-- The supply is what the accounts hold, and the zero address holds nothing. -/
def Booked (coin : DecentralisedStableCoin) : Prop :=
  coin.toERC20.Sound ∧ coin.balances 0 = 0

theorem Booked.deployed (deployer : Address) : (deployed deployer).Booked :=
  ⟨ERC20.Sound.empty, rfl⟩

theorem Booked.step (booked : coin.Booked) (entry : Address × PublicCall) :
    (coin.step entry).Booked := by
  apply @Runs.commit_preserves _ _ Revert PublicCall.exec Booked coin entry booked
  intro next returned
  have flows := exec_flows booked.1 returned
  exact ⟨flows.sound, flows.zero.trans booked.2⟩

/-- Whoever calls what, from the constructor on: the balances add up to the supply, the supply is
what was minted less what was burned, and every account holds what it received less what it paid. -/
theorem coin_books_balance (deployer : Address) (calls : List (Address × PublicCall)) :
    ((∑ account, (Runs.run step (deployed deployer) calls).balances account) =
        (Runs.run step (deployed deployer) calls).totalSupply ∧
      (Runs.run step (deployed deployer) calls).totalSupply < wordLimit ∧
      (Runs.run step (deployed deployer) calls).balances 0 = 0) ∧
    (Runs.run step (deployed deployer) calls).totalSupply +
        Runs.total step (Runs.charge PublicCall.exec (arriving 0)) (deployed deployer) calls =
      Runs.total step (Runs.charge PublicCall.exec (leaving 0)) (deployed deployer) calls ∧
    ∀ account, account ≠ 0 →
      (Runs.run step (deployed deployer) calls).balances account +
          Runs.total step (Runs.charge PublicCall.exec (leaving account)) (deployed deployer)
            calls =
        Runs.total step (Runs.charge PublicCall.exec (arriving account)) (deployed deployer)
          calls := by
  have along : Runs.Along step (fun _ _ => True) (deployed deployer) calls :=
    Runs.along_of_forall (fun _ _ => trivial) (deployed deployer) calls
  have keeps : ∀ (coin : DecentralisedStableCoin) entry, coin.Booked → True →
      (coin.step entry).Booked := fun _ entry booked _ => booked.step entry
  have start : (deployed deployer).Booked := Booked.deployed deployer
  refine ⟨?_, ?_, ?_⟩
  · have booked := Runs.invariant keeps start along
    exact ⟨booked.1.conserved, booked.1.bounded, booked.2⟩
  · have supply := Runs.balance (fun coin : DecentralisedStableCoin => coin.totalSupply)
      (Runs.charge PublicCall.exec (leaving 0)) (Runs.charge PublicCall.exec (arriving 0)) keeps
      (fun coin entry booked _ => Runs.commit_balance
        (fun coin : DecentralisedStableCoin => coin.totalSupply) (leaving 0) (arriving 0)
        (fun next returned => (exec_flows booked.1 returned).supply)) start along
    rw [supply]
    exact Nat.zero_add _
  · intro account real
    have held := Runs.balance (fun coin : DecentralisedStableCoin => coin.balances account)
      (Runs.charge PublicCall.exec (arriving account))
      (Runs.charge PublicCall.exec (leaving account)) keeps
      (fun coin entry booked _ => Runs.commit_balance
        (fun coin : DecentralisedStableCoin => coin.balances account) (arriving account)
        (leaving account)
        (fun next returned => (exec_flows booked.1 returned).accounts account real)) start along
    rw [held]
    exact Nat.zero_add _

/-- The call goes through. -/
def Returns (coin : DecentralisedStableCoin) (entry : Address × PublicCall) : Prop :=
  (PublicCall.exec coin entry).toBool = true

/-- These calls, made in turn, all go through and lead there. -/
def Plays (coin : DecentralisedStableCoin) (calls : List (Address × PublicCall))
    (final : DecentralisedStableCoin) : Prop :=
  Runs.Along step Returns coin calls ∧ Runs.run step coin calls = final

variable {next final : DecentralisedStableCoin} {calls : List (Address × PublicCall)}

theorem Plays.nil (coin : DecentralisedStableCoin) : Plays coin [] coin := ⟨trivial, rfl⟩

theorem Plays.cons (returned : PublicCall.exec coin entry = .ok next)
    (rest : Plays next calls final) : Plays coin (entry :: calls) final := by
  have reached : coin.step entry = next := Runs.commit_eq_of_ok returned
  have returns : Returns coin entry := by
    unfold Returns
    rw [returned]
    rfl
  subst reached
  exact ⟨⟨returns, rest.1⟩, rest.2⟩

theorem Plays.one (returned : PublicCall.exec coin entry = .ok next) : Plays coin [entry] next :=
  Plays.cons returned (Plays.nil next)

end DecentralisedStableCoin

open DecentralisedStableCoin (Plays)

namespace World

/-- How the engine takes coins in: it pulls them and burns them from its own balance. -/
def repayment (w : World) (dscFrom : Address) (amount : Nat) : List (Address × PublicCall) :=
  [(w.engineAddress, .erc20 (.transferFrom dscFrom w.engineAddress amount)),
    (w.engineAddress, .own (.burn amount))]

end World

/-- The calls on the coin that an engine call makes, in order. -/
def EngineCall.coinCalls (w : World) (sender : Address) (call : EngineCall) :
    List (Address × PublicCall) :=
  match call with
  | depositCollateral _ _ => []
  | depositCollateralAndMintDsc _ _ amountDscToMint =>
      [(w.engineAddress, .own (.mint sender amountDscToMint))]
  | mintDsc amount => [(w.engineAddress, .own (.mint sender amount))]
  | burnDsc amount => w.repayment sender amount
  | redeemCollateral _ _ => []
  | redeemCollateralForDsc _ _ amountDscToBurn => w.repayment sender amountDscToBurn
  | liquidate _ _ debtToCover => w.repayment sender debtToCover

/-- The calls on the coin that an action makes. -/
def Action.coinCalls (w : World) (action : Action) : List (Address × PublicCall) :=
  match action with
  | callEngine sender call => call.coinCalls w sender
  | callToken sender token call => if token = w.engine.dsc then [(sender, .erc20 call)] else []
  | callCoin sender call => [(sender, .own call)]
  | withdraw sender collateral amount =>
      if collateral = w.engine.dsc then
        [(w.engine.poolAddress, .erc20 (.transfer sender amount))]
      else []
  | issue _ _ _ => []
  | updateFeed _ _ => []
  | advance _ => []

namespace World

variable {w after : World} {sender source target token account onBehalfOf dscFrom user : Address}
  {amount : Nat} {contract : ERC20}

theorem coin_setToken (contract : ERC20) :
    (w.setToken w.engine.dsc contract).coin = { w.coin with toERC20 := contract } := by
  have written : (w.setToken w.engine.dsc contract).tokens w.engine.dsc = contract :=
    tokens_setToken contract
  unfold coin
  rw [show (w.setToken w.engine.dsc contract).engine.dsc = w.engine.dsc from rfl, written]
  rfl

theorem coin_setCoin (contract : DecentralisedStableCoin) :
    (w.setCoin contract).coin = contract := by
  have written : (w.setToken w.engine.dsc contract.toERC20).tokens w.engine.dsc =
      contract.toERC20 := tokens_setToken contract.toERC20
  change { (w.setToken w.engine.dsc contract.toERC20).tokens w.engine.dsc with
    owner := contract.owner : DecentralisedStableCoin } = contract
  rw [written]

theorem coin_setToken_of_ne (apart : token ≠ w.engine.dsc) :
    (w.setToken token contract).coin = w.coin := by
  unfold coin
  rw [show (w.setToken token contract).engine.dsc = w.engine.dsc from rfl,
    tokens_setToken_of_ne contract apart.symm]
  rfl

theorem coin_received (apart : token ≠ w.engine.dsc) :
    (w.received sender token amount).coin = w.coin :=
  @coin_setToken_of_ne (w.setDeposited sender token _) token _ apart

theorem coin_released (apart : token ≠ w.engine.dsc) :
    (w.released source target token amount).coin = w.coin :=
  @coin_setToken_of_ne (w.setDeposited source token _) token _ apart

/-- A mint is the one call on the coin it makes. -/
theorem issued_plays (issues : w.Issues account amount) :
    Plays w.coin [(w.engineAddress, .own (.mint account amount))]
      (w.issued account amount).coin := by
  have minted : w.coin.mint w.engineAddress account amount =
      .ok (true, { w.coin with toERC20 := w.coin.toERC20.minted account amount }) :=
    DecentralisedStableCoin.mint_eq_ok.mpr ⟨rfl, issues.owned, issues.account_ne_zero,
      issues.positive, issues.supply_fits, rfl⟩
  have reached : (w.issued account amount).coin =
      { w.coin with toERC20 := w.coin.toERC20.minted account amount } :=
    @coin_setToken (w.setMinted account _) _
  rw [reached]
  exact DecentralisedStableCoin.Plays.one (Checked.bind_eq_ok.mpr ⟨_, minted, rfl⟩)

/-- A repayment is two. -/
theorem repaid_plays (real : w.engineAddress ≠ 0) (repays : w.Repays onBehalfOf dscFrom amount) :
    Plays w.coin (w.repayment dscFrom amount) (w.repaid onBehalfOf dscFrom amount).coin := by
  have pulled : PublicCall.exec w.coin
      (w.engineAddress, .erc20 (.transferFrom dscFrom w.engineAddress amount)) =
      .ok { w.coin with
        toERC20 := w.coin.toERC20.pulled w.engineAddress dscFrom w.engineAddress amount } :=
    Checked.bind_eq_ok.mpr ⟨_, ERC20.transferFrom_eq_ok.mpr ⟨rfl, repays.pulls, rfl⟩, rfl⟩
  have reached : (w.repaid onBehalfOf dscFrom amount).coin =
      { w.coin with
        toERC20 := (w.coin.toERC20.pulled w.engineAddress dscFrom w.engineAddress
          amount).burned w.engineAddress amount } :=
    @coin_setToken (w.setMinted onBehalfOf _) _
  rw [reached]
  apply DecentralisedStableCoin.Plays.cons pulled
  apply DecentralisedStableCoin.Plays.one
  exact DecentralisedStableCoin.burn_eq_ok.mpr
    ⟨repays.owned, repays.positive, repays.held, real, rfl⟩

theorem coin_swept {debtToCover : Nat} (apart : token ≠ w.engine.dsc) :
    (w.swept sender token user debtToCover).coin = w.coin := by
  unfold swept paidOut
  rw [@coin_released (w.released user sender token _) user w.engine.poolAddress token _ apart,
    coin_released apart]

theorem Liquidates.listed {collateral : Address}
    (liquidates : w.Liquidates sender collateral user amount) :
    w.engine.priceFeeds collateral ≠ 0 := by
  intro unlisted
  obtain ⟨round, read, _⟩ := liquidates.priced
  rw [unlisted] at read
  cases read

/-- What an engine call does to the coin is what its calls on the coin do. -/
theorem call_plays (orderly : w.Orderly) {call : EngineCall}
    (success : call.exec standard sender w = .ok after) :
    Plays w.coin (call.coinCalls w sender) after.coin := by
  have redeem : ∀ {w after : World} {token : Address} {amount : Nat}, w.Orderly →
      DSCEngine.redeemCollateral standard sender token amount w = .ok after →
        after.coin = w.coin := by
    intro w after token amount orderly success
    obtain ⟨positive, _, releases, _, rfl⟩ := DSCEngine.redeemCollateral_eq_ok.mp success
    have some : w.engine.collateralDeposited sender token ≠ 0 := by
      have enough := releases.deposited
      omega
    exact coin_released (orderly.allowed_ne_dsc (orderly.deposit_real sender token some).2.2)
  cases call with
  | depositCollateral token amount =>
      obtain ⟨_, listed, _, _, rfl⟩ := DSCEngine.depositCollateral_eq_ok.mp success
      rw [coin_received (orderly.allowed_ne_dsc listed)]
      exact DecentralisedStableCoin.Plays.nil w.coin
  | depositCollateralAndMintDsc token amountCollateral amountDscToMint =>
      obtain ⟨middle, deposited, minted⟩ := DSCEngine.depositCollateralAndMintDsc_eq_ok.mp success
      obtain ⟨_, listed, _, _, rfl⟩ := DSCEngine.depositCollateral_eq_ok.mp deposited
      obtain ⟨_, issues, _, rfl⟩ := DSCEngine.mintDsc_eq_ok.mp minted
      rw [← @coin_received w sender token amountCollateral (orderly.allowed_ne_dsc listed)]
      exact issued_plays issues
  | mintDsc amount =>
      obtain ⟨_, issues, _, rfl⟩ := DSCEngine.mintDsc_eq_ok.mp success
      exact issued_plays issues
  | burnDsc amount =>
      obtain ⟨repays, rfl⟩ := DSCEngine.burnDsc_eq_ok.mp success
      exact repaid_plays orderly.engine_ne_zero repays
  | redeemCollateral token amount =>
      rw [redeem orderly success]
      exact DecentralisedStableCoin.Plays.nil w.coin
  | redeemCollateralForDsc token amountCollateral amountDscToBurn =>
      obtain ⟨middle, burned, redeemed⟩ := DSCEngine.redeemCollateralForDsc_eq_ok.mp success
      obtain ⟨repays, rfl⟩ := DSCEngine.burnDsc_eq_ok.mp burned
      rw [redeem (orderly.repaid repays) redeemed]
      exact repaid_plays orderly.engine_ne_zero repays
  | liquidate collateral user debtToCover =>
      obtain ⟨liquidates, rfl⟩ := DSCEngine.liquidate_eq_ok.mp success
      have apart := orderly.allowed_ne_dsc liquidates.listed
      have played := @repaid_plays (w.swept sender collateral user debtToCover) user sender
        debtToCover orderly.engine_ne_zero liquidates.repays
      rw [coin_swept apart] at played
      exact played

/-- The same for every action. -/
theorem action_plays (orderly : w.Orderly) {action : Action} (permitted : Permitted w action)
    (success : action.exec w = .ok after) : Plays w.coin (action.coinCalls w) after.coin := by
  have untouched : after.coin = w.coin → Plays w.coin [] after.coin := by
    intro same
    rw [same]
    exact DecentralisedStableCoin.Plays.nil w.coin
  cases action with
  | callEngine sender call => exact call_plays orderly success
  | callToken sender token call =>
      obtain ⟨⟨answer, contract⟩, returned, reached⟩ := Checked.bind_eq_ok.mp success
      cases reached
      simp only [Action.coinCalls]
      split
      · rename_i own
        subst own
        rw [coin_setToken]
        exact DecentralisedStableCoin.Plays.one
          (Checked.bind_eq_ok.mpr ⟨(answer, contract), returned, rfl⟩)
      · rename_i apart
        exact untouched (coin_setToken_of_ne apart)
  | callCoin sender call =>
      obtain ⟨coin, returned, reached⟩ := Checked.bind_eq_ok.mp success
      cases reached
      rw [coin_setCoin]
      exact DecentralisedStableCoin.Plays.one returned
  | withdraw sender collateral amount =>
      obtain ⟨_, _, real, receiver, enough, rfl⟩ := DSCPool.withdraw_eq_ok.mp success
      simp only [Action.coinCalls]
      split
      · rename_i own
        subst own
        have sent : (w.tokens w.engine.dsc).transfer w.engine.poolAddress sender amount =
            .ok (true, _) := ERC20.transfer_eq_ok.mpr ⟨rfl, real, receiver, enough, rfl⟩
        rw [coin_setToken]
        exact DecentralisedStableCoin.Plays.one (Checked.bind_eq_ok.mpr ⟨_, sent, rfl⟩)
      · rename_i apart
        exact untouched (coin_setToken_of_ne apart)
  | issue address target amount =>
      obtain ⟨contract, _, reached⟩ := Checked.bind_eq_ok.mp success
      cases reached
      exact untouched (coin_setToken_of_ne permitted.2.1)
  | updateFeed priceFeed round =>
      cases success
      exact untouched rfl
  | advance seconds =>
      cases success
      exact untouched rfl

end World

/-- The system is a caller of the coin like any other: after every run the coin is in the state to
which the calls made on it, by the engine and by everyone, lead the contract alone from its
constructor, and all of these calls go through. -/
theorem coin_inside_system {d : Deployment} {start : World} {actions : List Action}
    (deployed : d.run = .ok start) (along : Runs.Along step Permitted start actions) :
    Plays (DecentralisedStableCoin.deployed d.deployer)
      ((d.deployer, .own (.transferOwnership d.engineAddress)) ::
        Runs.trace Action.exec (fun w action => action.coinCalls w) start actions)
      (Runs.run step start actions).coin := by
  obtain ⟨orderly, _, _, empty, _⟩ := Deployment.run_eq_ok deployed
  have owner : start.dscOwner = d.engineAddress := by
    have same : d.start = start := Except.ok.inj (d.run_ok.symm.trans deployed)
    rw [← same]
    rfl
  have handed : PublicCall.exec (DecentralisedStableCoin.deployed d.deployer)
      (d.deployer, .own (.transferOwnership d.engineAddress)) = .ok start.coin := by
    have reached : start.coin =
        { DecentralisedStableCoin.deployed d.deployer with owner := d.engineAddress } := by
      unfold World.coin
      rw [empty, owner]
      rfl
    rw [reached]
    simp only [PublicCall.exec, CoinCall.exec, DecentralisedStableCoin.transferOwnership,
      DecentralisedStableCoin.onlyOwner, DecentralisedStableCoin.deployed, Checked.require,
      d.engine_ne_zero, ne_eq, not_false_eq_true, ↓reduceIte, Checked.ok_bind]
  apply DecentralisedStableCoin.Plays.cons handed
  exact @Runs.simulates World Action Revert (Address × PublicCall) DecentralisedStableCoin
    Action.exec (fun w action => action.coinCalls w) Permitted World.coin
    DecentralisedStableCoin.step DecentralisedStableCoin.Returns World.Orderly
    (fun w action orderly permitted => orderly.step permitted)
    (fun w action after orderly permitted success =>
      World.action_plays orderly permitted success)
    start actions orderly along

section Example

open HelperConfig

/-- The calls on the coin behind the situation of the liquidation tests. -/
theorem coin_inside_system_indebted :
    Plays (DecentralisedStableCoin.deployed deployer)
      [(deployer, .own (.transferOwnership anvil.engineAddress)),
        (anvil.engineAddress, .own (.mint user (100 * 10 ^ 18))),
        (user, .erc20 (.transfer liquidator (100 * 10 ^ 18))),
        (liquidator, .erc20 (.approve anvil.engineAddress (100 * 10 ^ 18)))]
      (Runs.run step anvil.start indebted).coin := by
  have calls : Runs.trace Action.exec (fun w action => action.coinCalls w) anvil.start indebted =
      [(anvil.engineAddress, .own (.mint user (100 * 10 ^ 18))),
        (user, .erc20 (.transfer liquidator (100 * 10 ^ 18))),
        (liquidator, .erc20 (.approve anvil.engineAddress (100 * 10 ^ 18)))] := by
    decide +kernel
  have played := coin_inside_system anvil.run_ok
    (show Runs.Along step Permitted anvil.start indebted by decide +kernel)
  rw [calls] at played
  exact played

end Example

end DscProtocol
