import DscProtocol.Orderly

set_option autoImplicit false

/- What one action can do: an engine call, the change of one token ledger, or news of the feeds
and the clock. Invariants of runs are proved from this, never from the actions' code. -/
namespace DscProtocol

/-- What a call of the ERC20 interface sends to an account when it succeeds. -/
def TokenCall.sent (call : TokenCall) (account : Address) : Nat :=
  match call with
  | transfer target amount => if target = account then amount else 0
  | transferFrom _ target amount => if target = account then amount else 0
  | _ => 0

/-- What an action sends to an account by a direct call on the token. -/
def Action.sent (token account : Address) (action : Action) : Nat :=
  match action with
  | callToken _ address call => if address = token then call.sent account else 0
  | _ => 0

/-- What an action destroys by a direct call on the stable coin. -/
def Action.burned (action : Action) : Nat :=
  match action with
  | callCoin _ (.burnFrom _ amount) => amount
  | _ => 0

/-- The contract an action outside the engine leaves at an address. -/
inductive LedgerChange (w : World) : Action → Address → ERC20 → Prop where
  | transfer {sender address target : Address} {amount : Nat} (real : sender ≠ 0)
      (receiver : target ≠ 0) (enough : amount ≤ (w.tokens address).balances sender) :
      LedgerChange w (.callToken sender address (.transfer target amount)) address
        ((w.tokens address).moved sender target amount)
  | transferFrom {sender address source target : Address} {amount : Nat}
      (pulls : (w.tokens address).Pulls sender source target amount) :
      LedgerChange w (.callToken sender address (.transferFrom source target amount)) address
        ((w.tokens address).pulled sender source target amount)
  | approve {sender address spender : Address} {amount : Nat} {call : TokenCall}
      (nothing : ∀ account, call.sent account = 0) :
      LedgerChange w (.callToken sender address call) address
        ((w.tokens address).approved sender spender amount)
  | burnFrom {sender account : Address} {amount : Nat}
      (allowed : (w.tokens w.engine.dsc).MaySpend account sender amount) (real : account ≠ 0)
      (enough : amount ≤ (w.tokens w.engine.dsc).balances account) :
      LedgerChange w (.callCoin sender (.burnFrom account amount)) w.engine.dsc
        (((w.tokens w.engine.dsc).spent account sender amount).burned account amount)
  | withdraw {sender collateral : Address} {amount : Nat} (real : w.engine.poolAddress ≠ 0)
      (receiver : sender ≠ 0) (enough : amount ≤ DSCPool.getBalance w collateral) :
      LedgerChange w (.withdraw sender collateral amount) collateral
        ((w.tokens collateral).moved w.engine.poolAddress sender amount)
  | issue {address target : Address} {amount : Nat} (real : target ≠ 0)
      (fits : (w.tokens address).totalSupply + amount < wordLimit) :
      LedgerChange w (.issue address target amount) address
        ((w.tokens address).minted target amount)

/-- A direct call sends nothing in another token. -/
theorem LedgerChange.sent_elsewhere {w : World} {action : Action} {address token : Address}
    {contract : ERC20} (change : LedgerChange w action address contract)
    (apart : token ≠ address) (account : Address) : action.sent token account = 0 := by
  cases change with
  | transfer | transferFrom | approve => simp only [Action.sent, apart.symm, ↓reduceIte]
  | burnFrom | withdraw | issue => rfl

/-- News from outside: a feed reports or time passes. -/
def Action.News (action : Action) : Prop :=
  (∃ priceFeed round, action = .updateFeed priceFeed round) ∨ ∃ seconds, action = .advance seconds

theorem Action.quiet {action : Action}
    (silent : ∀ priceFeed round, action ≠ .updateFeed priceFeed round)
    (instant : ∀ seconds, action ≠ .advance seconds) : ¬ action.News := by
  intro news
  rcases news with ⟨priceFeed, round, reports⟩ | ⟨seconds, passes⟩
  · exact silent priceFeed round reports
  · exact instant seconds passes

theorem Action.News.sent {action : Action} (news : action.News) (token account : Address) :
    action.sent token account = 0 := by
  rcases news with ⟨priceFeed, round, rfl⟩ | ⟨seconds, rfl⟩ <;> rfl

theorem Action.News.burned {action : Action} (news : action.News) : action.burned = 0 := by
  rcases news with ⟨priceFeed, round, rfl⟩ | ⟨seconds, rfl⟩ <;> rfl

namespace DSCPool

theorem withdraw_eq_ok {w after : World} {sender collateral : Address} {amount : Nat} :
    withdraw standard sender collateral amount w = .ok after ↔
      sender = w.pool.owner ∧ amount ≤ w.etherBalance w.engine.poolAddress ∧
        w.engine.poolAddress ≠ 0 ∧ sender ≠ 0 ∧ amount ≤ getBalance w collateral ∧
        after = w.setToken collateral
          ((w.tokens collateral).moved w.engine.poolAddress sender amount) := by
  simp only [withdraw, onlyOwner, poolHasBalance, Checked.bind_eq_ok, Checked.require_eq_ok,
    exists_const, Except.ok.injEq, Prod.exists, standard_transfer_eq_ok, Nat.not_lt, getBalance]
  constructor
  · rintro ⟨owner, ether, _, _, ⟨_, real, receiver, enough, rfl⟩, _, rfl⟩
    exact ⟨owner, ether, real, receiver, enough, rfl⟩
  · rintro ⟨owner, ether, real, receiver, enough, rfl⟩
    exact ⟨owner, ether, true, _, ⟨rfl, real, receiver, enough, rfl⟩, rfl, rfl⟩

end DSCPool

variable {w after : World} {sender address : Address} {action : Action}

theorem TokenCall.change {call : TokenCall} {contract : ERC20} {success : Bool}
    (returned : call.exec sender (w.tokens address) = .ok (success, contract)) :
    LedgerChange w (.callToken sender address call) address contract := by
  cases call with
  | transfer target amount =>
      obtain ⟨_, real, receiver, enough, rfl⟩ := ERC20.transfer_eq_ok.mp returned
      exact .transfer real receiver enough
  | transferFrom source target amount =>
      obtain ⟨_, pulls, rfl⟩ := ERC20.transferFrom_eq_ok.mp returned
      exact .transferFrom pulls
  | approve spender amount =>
      simp only [exec, ERC20.approve, Checked.bind_eq_ok, ERC20.approveInternal_eq_ok,
        Except.ok.injEq, Prod.mk.injEq] at returned
      obtain ⟨_, ⟨_, _, rfl⟩, _, rfl⟩ := returned
      exact .approve (fun _ => rfl)
  | increaseAllowance spender addedValue =>
      simp only [exec, ERC20.increaseAllowance, Checked.bind_eq_ok, Checked.add_eq_ok,
        ERC20.approveInternal_eq_ok, Except.ok.injEq, Prod.mk.injEq] at returned
      obtain ⟨_, _, _, ⟨_, _, rfl⟩, _, rfl⟩ := returned
      exact .approve (fun _ => rfl)
  | decreaseAllowance spender subtractedValue =>
      simp only [exec, ERC20.decreaseAllowance, Checked.bind_eq_ok, Checked.require_eq_ok,
        ERC20.approveInternal_eq_ok, Except.ok.injEq, Prod.mk.injEq] at returned
      obtain ⟨_, _, _, ⟨_, _, rfl⟩, _, rfl⟩ := returned
      exact .approve (fun _ => rfl)

/-- Only the owner mints, burns or gives the coin away; anyone else can at most `burnFrom`. -/
theorem CoinCall.change {call : CoinCall} {coin : DecentralisedStableCoin}
    (stranger : sender ≠ w.dscOwner) (returned : call.exec sender w.coin = .ok coin) :
    ∃ contract, LedgerChange w (.callCoin sender call) w.engine.dsc contract ∧
      w.setCoin coin = w.setToken w.engine.dsc contract := by
  cases call with
  | mint target amount =>
      simp only [exec, Checked.bind_eq_ok, Prod.exists, DecentralisedStableCoin.mint_eq_ok]
        at returned
      obtain ⟨_, _, ⟨_, owns, _⟩, _⟩ := returned
      exact absurd owns.symm stranger
  | burn amount =>
      obtain ⟨owns, _⟩ := DecentralisedStableCoin.burn_eq_ok.mp returned
      exact absurd owns.symm stranger
  | burnFrom account amount =>
      obtain ⟨allowed, real, enough, rfl⟩ := DecentralisedStableCoin.burnFrom_eq_ok.mp returned
      exact ⟨_, .burnFrom allowed real enough, rfl⟩
  | transferOwnership newOwner =>
      simp only [exec, DecentralisedStableCoin.transferOwnership,
        DecentralisedStableCoin.onlyOwner, Checked.bind_eq_ok, Checked.require_eq_ok] at returned
      obtain ⟨_, owns, _⟩ := returned
      exact absurd owns.symm stranger
  | renounceOwnership =>
      simp only [exec, DecentralisedStableCoin.renounceOwnership,
        DecentralisedStableCoin.onlyOwner, Checked.bind_eq_ok, Checked.require_eq_ok] at returned
      obtain ⟨_, owns, _⟩ := returned
      exact absurd owns.symm stranger

/-- The three kinds of committed action. -/
theorem Action.exec_cases (owned : w.dscOwner = w.engineAddress) (permitted : Permitted w action)
    (success : action.exec w = .ok after) :
    (∃ sender call, action = .callEngine sender call ∧ sender ≠ w.engineAddress ∧
      call.exec standard sender w = .ok after) ∨
    (∃ address contract, LedgerChange w action address contract ∧
      after = w.setToken address contract) ∨
    (action.News ∧ ∃ feeds timestamp, after = w.withFeeds feeds timestamp) := by
  cases action with
  | callEngine sender call =>
      exact Or.inl ⟨sender, call, rfl, fun same => permitted.1 (congrArg some same), success⟩
  | callToken sender address call =>
      simp only [exec, Checked.bind_eq_ok, Prod.exists, Except.ok.injEq] at success
      obtain ⟨_, contract, returned, rfl⟩ := success
      exact Or.inr (Or.inl ⟨address, contract, TokenCall.change returned, rfl⟩)
  | callCoin sender call =>
      simp only [exec, Checked.bind_eq_ok, Except.ok.injEq] at success
      obtain ⟨coin, returned, rfl⟩ := success
      have stranger : sender ≠ w.dscOwner := by
        intro same
        exact permitted.1 (congrArg some (same.trans owned))
      obtain ⟨contract, change, rewritten⟩ := CoinCall.change stranger returned
      exact Or.inr (Or.inl ⟨w.engine.dsc, contract, change, rewritten⟩)
  | withdraw sender collateral amount =>
      obtain ⟨_, _, real, receiver, enough, rfl⟩ := DSCPool.withdraw_eq_ok.mp success
      exact Or.inr (Or.inl ⟨collateral, _, .withdraw real receiver enough, rfl⟩)
  | issue address target amount =>
      simp only [exec, Checked.bind_eq_ok, ERC20.mintInternal_eq_ok, Except.ok.injEq] at success
      obtain ⟨_, ⟨real, fits, rfl⟩, rfl⟩ := success
      exact Or.inr (Or.inl ⟨address, _, .issue real fits, rfl⟩)
  | updateFeed priceFeed round =>
      cases success
      exact Or.inr (Or.inr ⟨Or.inl ⟨priceFeed, round, rfl⟩, _, w.timestamp, rfl⟩)
  | advance seconds =>
      cases success
      exact Or.inr (Or.inr ⟨Or.inr ⟨seconds, rfl⟩, w.feeds, _, rfl⟩)

/-- Whoever acts: only engine calls write the engine's storage, only feed updates the feeds, and
nothing the addresses and the pool's owner. -/
theorem Action.exec_frame (success : action.exec w = .ok after) :
    (∃ sender call, action = .callEngine sender call ∧
      call.exec standard sender w = .ok after) ∨
    after.engine = w.engine ∧ after.engineAddress = w.engineAddress ∧ after.pool = w.pool ∧
      ((∀ priceFeed round, action ≠ .updateFeed priceFeed round) → after.feeds = w.feeds) := by
  cases action with
  | callEngine sender call => exact Or.inl ⟨sender, call, rfl, success⟩
  | callToken sender address call =>
      simp only [exec, Checked.bind_eq_ok, Prod.exists, Except.ok.injEq] at success
      obtain ⟨_, _, _, rfl⟩ := success
      exact Or.inr ⟨rfl, rfl, rfl, fun _ => rfl⟩
  | callCoin sender call =>
      simp only [exec, Checked.bind_eq_ok, Except.ok.injEq] at success
      obtain ⟨_, _, rfl⟩ := success
      exact Or.inr ⟨rfl, rfl, rfl, fun _ => rfl⟩
  | withdraw sender collateral amount =>
      obtain ⟨_, _, _, _, _, rfl⟩ := DSCPool.withdraw_eq_ok.mp success
      exact Or.inr ⟨rfl, rfl, rfl, fun _ => rfl⟩
  | issue address target amount =>
      simp only [exec, Checked.bind_eq_ok, Except.ok.injEq] at success
      obtain ⟨_, _, rfl⟩ := success
      exact Or.inr ⟨rfl, rfl, rfl, fun _ => rfl⟩
  | updateFeed priceFeed round =>
      cases success
      exact Or.inr ⟨rfl, rfl, rfl, fun notFeed => absurd rfl (notFeed priceFeed round)⟩
  | advance seconds =>
      cases success
      exact Or.inr ⟨rfl, rfl, rfl, fun _ => rfl⟩

/-- The feeds stand still unless one of them reports. -/
theorem Action.exec_feeds (success : action.exec w = .ok after)
    (silent : ∀ priceFeed round, action ≠ .updateFeed priceFeed round) :
    after.feeds = w.feeds := by
  rcases Action.exec_frame success with ⟨sender, call, _, returned⟩ | ⟨_, _, _, feeds⟩
  · exact (World.SameSetting.exec returned).feeds
  · exact feeds silent

/-- Time does not run backwards. -/
theorem Action.exec_timestamp_le (success : action.exec w = .ok after) :
    w.timestamp ≤ after.timestamp := by
  cases action with
  | callEngine sender call =>
      rw [(World.SameSetting.exec success).timestamp]
  | callToken sender address call =>
      simp only [exec, Checked.bind_eq_ok, Prod.exists, Except.ok.injEq] at success
      obtain ⟨_, _, _, rfl⟩ := success
      exact Nat.le_refl _
  | callCoin sender call =>
      simp only [exec, Checked.bind_eq_ok, Except.ok.injEq] at success
      obtain ⟨_, _, rfl⟩ := success
      exact Nat.le_refl _
  | withdraw sender collateral amount =>
      obtain ⟨_, _, _, _, _, rfl⟩ := DSCPool.withdraw_eq_ok.mp success
      exact Nat.le_refl _
  | issue address target amount =>
      simp only [exec, Checked.bind_eq_ok, Except.ok.injEq] at success
      obtain ⟨_, _, rfl⟩ := success
      exact Nat.le_refl _
  | updateFeed priceFeed round =>
      cases success
      exact Nat.le_refl _
  | advance seconds =>
      cases success
      exact Nat.le_add_right _ _

/-- What no action of anyone ever changes. -/
structure SameContracts (w after : World) : Prop where
  engineAddress : after.engineAddress = w.engineAddress
  priceFeeds : after.engine.priceFeeds = w.engine.priceFeeds
  collateralTokens : after.engine.collateralTokens = w.engine.collateralTokens
  dsc : after.engine.dsc = w.engine.dsc
  poolAddress : after.engine.poolAddress = w.engine.poolAddress
  pool : after.pool = w.pool

namespace SameContracts

theorem refl (w : World) : SameContracts w w := ⟨rfl, rfl, rfl, rfl, rfl, rfl⟩

theorem trans {first second third : World} (left : SameContracts first second)
    (right : SameContracts second third) : SameContracts first third where
  engineAddress := right.engineAddress.trans left.engineAddress
  priceFeeds := right.priceFeeds.trans left.priceFeeds
  collateralTokens := right.collateralTokens.trans left.collateralTokens
  dsc := right.dsc.trans left.dsc
  poolAddress := right.poolAddress.trans left.poolAddress
  pool := right.pool.trans left.pool

theorem exec (success : action.exec w = .ok after) : SameContracts w after := by
  rcases Action.exec_frame success with
    ⟨sender, call, _, returned⟩ | ⟨engine, address, pool, _⟩
  · have same := World.SameSetting.exec returned
    exact ⟨same.engineAddress, same.priceFeeds, same.collateralTokens, same.dsc,
      same.poolAddress, same.pool⟩
  · exact ⟨address, congrArg DSCEngine.priceFeeds engine,
      congrArg DSCEngine.collateralTokens engine, congrArg DSCEngine.dsc engine,
      congrArg DSCEngine.poolAddress engine, pool⟩

theorem step (w : World) (action : Action) : SameContracts w (step w action) :=
  Runs.commit_preserves (refl w) (fun _ success => exec success)

theorem run (w : World) (actions : List Action) :
    SameContracts w (Runs.run DscProtocol.step w actions) := by
  induction actions generalizing w with
  | nil => exact refl w
  | cons action rest ih => exact (step w action).trans (ih (DscProtocol.step w action))

end SameContracts

end DscProtocol
