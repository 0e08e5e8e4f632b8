import DscProtocol.AccountView

set_option autoImplicit false

/- Opening a position and closing it again is lossless, whatever others do in between: at constant
prices a healthy account cannot be liquidated, and nothing else reaches what it owns. -/
namespace DscProtocol

namespace World

variable {w middle later after : World} {user token : Address} {amountCollateral amountDsc : Nat}

/-- Every feed still gives the answer it gave, whenever it was reported. -/
def SameAnswers (w after : World) : Prop :=
  ∀ priceFeed, (after.feeds priceFeed).map Round.answer = (w.feeds priceFeed).map Round.answer

/-- What the account owns is as it was, at the same prices. -/
structure Undisturbed (user : Address) (w after : World) : Prop where
  contracts : SameContracts w after
  answers : SameAnswers w after
  position : after.position user = w.position user
  balances : ∀ token, (after.tokens token).balances user = (w.tokens token).balances user

theorem SameAnswers.read (same : SameAnswers w after) {priceFeed : Address} {round : Round}
    (read : after.latestRoundData priceFeed = .ok round) :
    ∃ before, w.latestRoundData priceFeed = .ok before ∧ before.answer = round.answer := by
  have answer := same priceFeed
  unfold latestRoundData at read ⊢
  split at read
  · cases read
  · rename_i real
    cases there : after.feeds priceFeed with
    | none =>
        rw [there] at read
        cases read
    | some found =>
        rw [there] at read answer
        cases read
        cases here : w.feeds priceFeed with
        | none =>
            rw [here] at answer
            cases answer
        | some before =>
            rw [here] at answer
            refine ⟨before, if_neg real, ?_⟩
            exact (Option.some.inj answer).symm

theorem SameAnswers.symm (same : SameAnswers w after) : SameAnswers after w :=
  fun priceFeed => (same priceFeed).symm

namespace Undisturbed

theorem refl (user : Address) (w : World) : Undisturbed user w w :=
  ⟨SameContracts.refl w, fun _ => rfl, rfl, fun _ => rfl⟩

theorem trans {first second third : World} (left : Undisturbed user first second)
    (right : Undisturbed user second third) : Undisturbed user first third where
  contracts := left.contracts.trans right.contracts
  answers := fun priceFeed => (right.answers priceFeed).trans (left.answers priceFeed)
  position := right.position.trans left.position
  balances := fun token => (right.balances token).trans (left.balances token)

variable (same : Undisturbed user w after)

include same

theorem price : after.price = w.price := by
  funext token
  unfold World.price
  rw [same.contracts.priceFeeds]
  cases there : after.latestRoundData (w.engine.priceFeeds token) with
  | ok round =>
      obtain ⟨before, read, answer⟩ := same.answers.read there
      simp only [read, answer]
  | error reason =>
      cases here : w.latestRoundData (w.engine.priceFeeds token) with
      | error _ => rfl
      | ok before =>
          obtain ⟨round, impossible, _⟩ := same.answers.symm.read here
          rw [there] at impossible
          cases impossible

theorem health : after.health user = w.health user := by
  unfold World.health
  rw [same.contracts.collateralTokens, same.price, same.position]

/-- A feed that is still fresh is as readable as it was. -/
theorem readable (before : w.Readable token)
    (fresh : ∃ round, after.latestRoundData (after.engine.priceFeeds token) = .ok round ∧
      after.Fresh round) : after.Readable token := by
  obtain ⟨round, read, recent⟩ := fresh
  obtain ⟨found, first, _, nonneg, fits⟩ := before
  have there := read
  rw [same.contracts.priceFeeds] at there
  obtain ⟨earlier, second, answer⟩ := same.answers.read there
  rw [first] at second
  obtain rfl : found = earlier := Except.ok.inj second
  refine ⟨round, read, recent, ?_, ?_⟩
  · rw [← answer]
    exact nonneg
  · rw [same.price]
    exact fits

end Undisturbed

end World

/-- What may happen while the position is open: calls of others, of which none liquidates in
favour of the account, its own approvals for the engine, feeds that report the same answer again
and the passing of time. -/
def Interlude (user : Address) (w : World) (action : Action) : Prop :=
  Permitted w action ∧
  match action with
  | .callEngine sender call => sender ≠ user ∧ (user = w.engine.poolAddress → call.Own)
  | .callToken sender token call => sender = user ∧ token = w.engine.dsc ∧
      ∃ amount, call = .approve w.engineAddress amount
  | .updateFeed priceFeed round => ∃ before, w.feeds priceFeed = some before ∧
      round.answer = before.answer
  | .advance _ => True
  | _ => False

namespace World

variable {w middle later after : World} {user token : Address} {amountCollateral amountDsc : Nat}
  {action : Action}

/-- A healthy account is left alone: the only call that could touch it is its own liquidation. -/
theorem exec_undisturbed (healthy : DSCEngine.minHealthFactor ≤ w.health user)
    (notEngine : user ≠ w.engineAddress) (interlude : Interlude user w action)
    (success : action.exec w = .ok after) : Undisturbed user w after := by
  have contracts := SameContracts.exec success
  obtain ⟨_, kind⟩ := interlude
  cases action with
  | callEngine sender call =>
      have spared : ¬ call.Liquidating user := by
        intro liquidating
        obtain ⟨collateral, debtToCover, rfl⟩ := liquidating
        obtain ⟨liquidates, _⟩ := DSCEngine.liquidate_eq_ok.mp success
        have unhealthy := liquidates.unhealthy
        omega
      have view : SameView user w after :=
        exec_view success kind.1.symm notEngine spared kind.2
      refine ⟨contracts, ?_, view.position, fun token => (view.wallet token).1⟩
      intro priceFeed
      rw [view.setting.feeds]
  | callToken sender token call =>
      obtain ⟨rfl, rfl, amount, rfl⟩ := kind
      simp only [Action.exec, TokenCall.exec, ERC20.approve, Checked.bind_eq_ok, Prod.exists,
        ERC20.approveInternal_eq_ok, Except.ok.injEq, Prod.mk.injEq] at success
      obtain ⟨_, _, ⟨_, ⟨_, _, rfl⟩, _, rfl⟩, rfl⟩ := success
      refine ⟨contracts, fun _ => rfl, rfl, ?_⟩
      intro other
      exact @tokens_frame w w.engine.dsc other sender _ rfl
  | updateFeed priceFeed round =>
      cases success
      obtain ⟨before, found, answer⟩ := kind
      refine ⟨contracts, ?_, rfl, fun _ => rfl⟩
      intro other
      change (Function.update w.feeds priceFeed (some round) other).map Round.answer = _
      by_cases here : other = priceFeed
      · subst here
        rw [Function.update_self, found, Option.map_some, Option.map_some, answer]
      · rw [Function.update_of_ne here]
  | advance seconds =>
      cases success
      exact ⟨contracts, fun _ => rfl, rfl, fun _ => rfl⟩
  | callCoin sender call => exact kind.elim
  | withdraw sender collateral amount => exact kind.elim
  | issue token target amount => exact kind.elim

theorem step_undisturbed (healthy : DSCEngine.minHealthFactor ≤ w.health user)
    (notEngine : user ≠ w.engineAddress) (interlude : Interlude user w action) :
    Undisturbed user w (step w action) :=
  @Runs.commit_preserves World Action Revert Action.exec (Undisturbed user w) w action
    (Undisturbed.refl user w)
    (fun _ success => exec_undisturbed healthy notEngine interlude success)

/-- Health carries the induction: an undisturbed account stays out of reach. -/
theorem run_undisturbed {actions : List Action}
    (healthy : DSCEngine.minHealthFactor ≤ w.health user) (notEngine : user ≠ w.engineAddress)
    (along : Runs.Along step (Interlude user) w actions) :
    Undisturbed user w (Runs.run step w actions) := by
  have steps : ∀ (state : World) (action : Action),
      DSCEngine.minHealthFactor ≤ state.health user ∧ user ≠ state.engineAddress →
      Interlude user state action →
        (DSCEngine.minHealthFactor ≤ (step state action).health user ∧
          user ≠ (step state action).engineAddress) ∧
        Undisturbed user state (step state action) := by
    intro state action good interlude
    have same := step_undisturbed good.1 good.2 interlude
    rw [same.health, same.contracts.engineAddress]
    exact ⟨good, same⟩
  exact Locality.run_outside (Undisturbed.refl user) Undisturbed.trans steps
    ⟨healthy, notEngine⟩ along

/-- The state after collateral was deposited and coins were minted. -/
def opened (w : World) (user token : Address) (amountCollateral amountDsc : Nat) : World :=
  (w.received user token amountCollateral).issued user amountDsc

/-- The state after both were taken back at once. -/
def closed (w : World) (user token : Address) (amountCollateral amountDsc : Nat) : World :=
  (w.repaid user user amountDsc).released user user token amountCollateral

/-- What a successful opening needs. -/
structure Opens (w : World) (user token : Address) (amountCollateral amountDsc : Nat) : Prop where
  positive : 0 < amountCollateral
  registered : w.engine.priceFeeds token ≠ 0
  receives : w.Receives user token amountCollateral
  issues : (w.received user token amountCollateral).Issues user amountDsc
  passes : (w.opened user token amountCollateral amountDsc).Passes user

theorem opens_of_success
    (success : DSCEngine.depositCollateralAndMintDsc standard user token amountCollateral
      amountDsc w = .ok middle) :
    w.Opens user token amountCollateral amountDsc ∧
      middle = w.opened user token amountCollateral amountDsc := by
  obtain ⟨_, deposited, minted⟩ := DSCEngine.depositCollateralAndMintDsc_eq_ok.mp success
  obtain ⟨positive, registered, _, receives, rfl⟩ := DSCEngine.depositCollateral_eq_ok.mp deposited
  obtain ⟨_, issues, passes, rfl⟩ := DSCEngine.mintDsc_eq_ok.mp minted
  exact ⟨⟨positive, registered, receives, issues, passes⟩, rfl⟩

theorem opened_position :
    (w.opened user token amountCollateral amountDsc).position user =
      ⟨Function.update (w.engine.collateralDeposited user) token
        (w.engine.collateralDeposited user token + amountCollateral),
        w.engine.dscMinted user + amountDsc⟩ := by
  unfold opened
  rw [issued_position, received_position]
  rfl

theorem opened_deposited :
    (w.opened user token amountCollateral amountDsc).engine.collateralDeposited user =
      Function.update (w.engine.collateralDeposited user) token
        (w.engine.collateralDeposited user token + amountCollateral) := by
  have position := @opened_position w user token amountCollateral amountDsc
  exact congrArg Pledge.Position.held position

theorem opened_minted :
    (w.opened user token amountCollateral amountDsc).engine.dscMinted user =
      w.engine.dscMinted user + amountDsc := by
  have position := @opened_position w user token amountCollateral amountDsc
  exact congrArg Pledge.Position.debt position

/-- Opening only adds to the deposits. -/
theorem le_opened_deposited (other : Address) :
    w.engine.collateralDeposited user other ≤
      (w.opened user token amountCollateral amountDsc).engine.collateralDeposited user other := by
  rw [opened_deposited]
  by_cases here : other = token
  · rw [here, Function.update_self]
    exact Nat.le_add_right _ _
  · rw [Function.update_of_ne here]

theorem closed_setting : SameSetting w (w.closed user token amountCollateral amountDsc) :=
  (SameSetting.repaid w user user _).trans (SameSetting.released _ user user token _)

/-- Deposits and debt are back where they were. -/
theorem closed_position (same : later.position user =
      (w.opened user token amountCollateral amountDsc).position user) :
    (later.closed user token amountCollateral amountDsc).position user = w.position user := by
  unfold closed
  rw [released_position, repaid_position, same, opened_position]
  simp only [Function.update_self, Function.update_idem, Nat.add_sub_cancel,
    Function.update_eq_self]
  rfl

namespace Opens

variable (opens : w.Opens user token amountCollateral amountDsc)

include opens

theorem user_ne_engine (orderly : w.Orderly) : user ≠ w.engineAddress := by
  intro same
  subst same
  have nothing := orderly.may_spend_nothing opens.receives.pulls.allowed
  have positive := opens.positive
  omega

theorem token_ne_dsc (orderly : w.Orderly) : token ≠ w.engine.dsc := by
  intro same
  subst same
  exact orderly.dsc_not_collateral (orderly.registered _ opens.registered)

/-- The tokens left the account and the coins came. -/
theorem opened_balance (orderly : w.Orderly) (other : Address) :
    ((w.opened user token amountCollateral amountDsc).tokens other).balances user =
      if other = w.engine.dsc then (w.tokens other).balances user + amountDsc
      else if other = token then (w.tokens other).balances user - amountCollateral
      else (w.tokens other).balances user := by
  have user' := opens.user_ne_engine orderly
  have received : (w.received user token amountCollateral).Orderly :=
    orderly.received user' opens.registered opens.receives
  have first := received_own_balance orderly user' opens.receives other
  have second : ((w.opened user token amountCollateral amountDsc).tokens other).balances user =
      if other = w.engine.dsc then
        ((w.received user token amountCollateral).tokens other).balances user + amountDsc
      else ((w.received user token amountCollateral).tokens other).balances user :=
    issued_own_balance received opens.issues other
  rw [second, first]
  by_cases coin : other = w.engine.dsc
  · have apart : other ≠ token := by
      rw [coin]
      exact (opens.token_ne_dsc orderly).symm
    simp only [coin, coin ▸ apart, ↓reduceIte]
  · simp only [coin, ↓reduceIte]

/-- Closing leaves a position that was healthy before, valued at prices at which the larger one
was valued. -/
theorem closed_passes
    (healthy : w.engine.dscMinted user = 0 ∨ 2 * w.engine.dscMinted user ≤ w.value user)
    (same : Undisturbed user (w.opened user token amountCollateral amountDsc) later)
    (readable : ∀ token ∈ later.engine.collateralTokens, later.Readable token) :
    (later.closed user token amountCollateral amountDsc).Passes user := by
  have setting := @closed_setting later user token amountCollateral amountDsc
  have position := closed_position same.position
  have deposits : (later.closed user token amountCollateral amountDsc).engine.collateralDeposited
      user = w.engine.collateralDeposited user := congrArg Pledge.Position.held position
  have debt : (later.closed user token amountCollateral amountDsc).engine.dscMinted user =
      w.engine.dscMinted user := congrArg Pledge.Position.debt position
  have tokens : (later.closed user token amountCollateral amountDsc).engine.collateralTokens =
      w.engine.collateralTokens := setting.collateralTokens.trans same.contracts.collateralTokens
  have price : (later.closed user token amountCollateral amountDsc).price = w.price :=
    setting.price.trans same.price
  have value : (later.closed user token amountCollateral amountDsc).value user = w.value user := by
    unfold World.value
    rw [tokens, price, deposits]
  have owed : (w.opened user token amountCollateral amountDsc).engine.dscMinted user ≠ 0 := by
    have positive := opens.issues.positive
    rw [opened_minted]
    omega
  have lower : w.value user ≤ (w.opened user token amountCollateral amountDsc).value user :=
    Pledge.value_mono (fun _ _ => Nat.le_refl _) (fun other _ => le_opened_deposited other)
  refine ⟨⟨?_, ?_, ?_⟩, ?_, ?_⟩
  · intro other listed
    rw [setting.collateralTokens] at listed
    exact setting.readable_iff.mpr (readable other listed)
  · intro other listed
    rw [tokens] at listed
    rw [price, deposits]
    exact Nat.lt_of_le_of_lt (Nat.mul_le_mul_left _ (le_opened_deposited other))
      (opens.passes.valued.product_fits other listed)
  · rw [value]
    exact Nat.lt_of_le_of_lt lower opens.passes.valued.value_fits
  · intro _
    rw [value]
    exact DSCEngine.scales_of_le lower (opens.passes.scales owed)
  · rw [DSCEngine.minHealthFactor_le_health, debt, value]
    omega

/-- The minted coins are still there to be burned. -/
theorem repays (orderly : w.Orderly) (there : later.Orderly)
    (same : Undisturbed user (w.opened user token amountCollateral amountDsc) later)
    (approved : amountDsc ≤ (later.tokens w.engine.dsc).allowances user w.engineAddress) :
    later.Repays user user amountDsc := by
  have real := opens.receives.pulls.source_ne_zero
  have engine : later.engineAddress = w.engineAddress := same.contracts.engineAddress
  have dsc : later.engine.dsc = w.engine.dsc := same.contracts.dsc
  have debt : later.engine.dscMinted user = w.engine.dscMinted user + amountDsc :=
    (congrArg Pledge.Position.debt same.position).trans opened_minted
  have coins : amountDsc ≤ (later.tokens w.engine.dsc).balances user := by
    have minted := opens.opened_balance orderly w.engine.dsc
    rw [if_pos rfl] at minted
    rw [same.balances, minted]
    exact Nat.le_add_left _ _
  have pulls : (later.tokens later.engine.dsc).Pulls later.engineAddress user later.engineAddress
      amountDsc := by
    refine ⟨Or.inr ⟨?_, real, there.engine_ne_zero⟩, real, there.engine_ne_zero, ?_⟩
    · rw [dsc, engine]
      exact approved
    · rw [dsc]
      exact coins
  exact ⟨by omega, pulls, there.owned, opens.issues.positive, pulled_held there pulls⟩

/-- The engine can pay back what it took in: the deposit is part of what it holds. -/
theorem releases (sturdy : (later.repaid user user amountDsc).Sturdy)
    (same : Undisturbed user (w.opened user token amountCollateral amountDsc) later) :
    (later.repaid user user amountDsc).Releases user user token amountCollateral := by
  have deposits : later.engine.collateralDeposited user =
      (w.opened user token amountCollateral amountDsc).engine.collateralDeposited user :=
    congrArg Pledge.Position.held same.position
  have deposited : amountCollateral ≤
      (later.repaid user user amountDsc).engine.collateralDeposited user token := by
    change amountCollateral ≤ later.engine.collateralDeposited user token
    rw [deposits, opened_deposited, Function.update_self]
    exact Nat.le_add_left _ _
  have part := Ledger.le_sum (fun account =>
    (later.repaid user user amountDsc).engine.collateralDeposited account token) user
  exact ⟨deposited, sturdy.engine_ne_zero, opens.receives.pulls.source_ne_zero,
    (deposited.trans part).trans (sturdy.backed token)⟩

/-- Closing an undisturbed position succeeds and gives every balance back. -/
theorem closes (orderly : w.Orderly) (sturdy : later.Sturdy)
    (healthy : w.engine.dscMinted user = 0 ∨ 2 * w.engine.dscMinted user ≤ w.value user)
    (same : Undisturbed user (w.opened user token amountCollateral amountDsc) later)
    (readable : ∀ token ∈ later.engine.collateralTokens, later.Readable token)
    (approved : amountDsc ≤ (later.tokens w.engine.dsc).allowances user w.engineAddress) :
    DSCEngine.redeemCollateralForDsc standard user token amountCollateral amountDsc later =
        .ok (later.closed user token amountCollateral amountDsc) ∧
      ∀ other, ((later.closed user token amountCollateral amountDsc).tokens other).balances user =
        (w.tokens other).balances user := by
  have repays := opens.repays orderly sturdy.toOrderly same approved
  have user' : user ≠ later.engineAddress := by
    rw [same.contracts.engineAddress]
    exact opens.user_ne_engine orderly
  have burned : EngineCall.exec standard user (.burnDsc amountDsc) later = .ok _ :=
    DSCEngine.burnDsc_eq_ok.mpr ⟨repays, rfl⟩
  have sturdyBurned := sturdy.exec user' burned
  have releases := opens.releases sturdyBurned same
  refine ⟨DSCEngine.redeemCollateralForDsc_eq_ok.mpr ⟨_, burned,
    DSCEngine.redeemCollateral_eq_ok.mpr ⟨opens.positive, sturdyBurned.idle, releases,
      opens.closed_passes healthy same readable, rfl⟩⟩, ?_⟩
  intro other
  have first := opens.opened_balance orderly other
  have second := same.balances other
  have third := repaid_own_balance sturdy.toOrderly repays other
  have fourth : ((later.closed user token amountCollateral amountDsc).tokens other).balances user =
      if other = token then
        ((later.repaid user user amountDsc).tokens other).balances user + amountCollateral
      else ((later.repaid user user amountDsc).tokens other).balances user :=
    released_own_balance sturdyBurned.toOrderly user' releases other
  have dsc : later.engine.dsc = w.engine.dsc := same.contracts.dsc
  have apart := opens.token_ne_dsc orderly
  have enough := opens.receives.pulls.enough
  rw [dsc] at third
  rw [fourth, third, second, first]
  by_cases coin : other = w.engine.dsc
  · have elsewhere : w.engine.dsc ≠ token := apart.symm
    simp only [coin, elsewhere, ↓reduceIte, Nat.add_sub_cancel]
  · by_cases here : other = token
    · subst here
      simp only [coin, ↓reduceIte]
      exact Nat.sub_add_cancel enough
    · simp only [coin, here, ↓reduceIte]

end Opens

end World

/-- A healthy account that opens a position gets out of it what it put in, whatever others do in
between while the prices stay what they are and are fresh when it closes. -/
theorem round_trip_lossless {w middle : World} {user token : Address}
    {amountCollateral amountDsc : Nat} {actions : List Action} (reachable : Reachable w)
    (healthy : w.engine.dscMinted user = 0 ∨ 2 * w.engine.dscMinted user ≤ w.value user)
    (opened : DSCEngine.depositCollateralAndMintDsc standard user token amountCollateral
      amountDsc w = .ok middle)
    (along : Runs.Along step (Interlude user) middle actions)
    (fresh : ∀ listed ∈ w.engine.collateralTokens, ∃ round,
      (Runs.run step middle actions).latestRoundData (w.engine.priceFeeds listed) = .ok round ∧
        (Runs.run step middle actions).Fresh round)
    (approved : amountDsc ≤
      ((Runs.run step middle actions).tokens w.engine.dsc).allowances user w.engineAddress) :
    ∃ after, DSCEngine.redeemCollateralForDsc standard user token amountCollateral amountDsc
        (Runs.run step middle actions) = .ok after ∧
      after.engine.collateralDeposited user = w.engine.collateralDeposited user ∧
      after.engine.dscMinted user = w.engine.dscMinted user ∧
      ∀ other, (after.tokens other).balances user = (w.tokens other).balances user := by
  obtain ⟨opens, same⟩ := World.opens_of_success opened
  have notEngine := opens.user_ne_engine reachable.orderly
  have call : EngineCall.exec standard user
      (.depositCollateralAndMintDsc token amountCollateral amountDsc) w = .ok middle := opened
  have stepped : step w (.callEngine user
      (.depositCollateralAndMintDsc token amountCollateral amountDsc)) = middle :=
    @Runs.commit_eq_of_ok World Action Revert Action.exec _ _ _ call
  have reached : Reachable middle := stepped ▸ reachable.call notEngine _
  have later : Reachable (Runs.run step middle actions) :=
    reached.run (along.mono (fun _ _ interlude => interlude.1))
  subst same
  have undisturbed := World.run_undisturbed opens.passes.healthy notEngine along
  have readable : ∀ listed ∈ (Runs.run step (w.opened user token amountCollateral amountDsc)
      actions).engine.collateralTokens, (Runs.run step (w.opened user token amountCollateral
        amountDsc) actions).Readable listed := by
    intro listed member
    rw [undisturbed.contracts.collateralTokens] at member
    apply undisturbed.readable (opens.passes.valued.readable listed member)
    rw [undisturbed.contracts.priceFeeds]
    exact fresh listed member
  obtain ⟨closed, balances⟩ := opens.closes reachable.orderly later.sturdy healthy undisturbed
    readable approved
  have position := World.closed_position undisturbed.position
  exact ⟨_, closed, congrArg Pledge.Position.held position,
    congrArg Pledge.Position.debt position, balances⟩

section Example

open HelperConfig

/-- The deployer has approved 5 ether and the coins it will owe. -/
def approvedTwice : World :=
  Runs.run step anvil.start
    (indebted ++ [.issue weth deployer (10 * 10 ^ 18),
      .callToken deployer weth (.approve anvil.engineAddress (5 * 10 ^ 18)),
      .callToken deployer anvil.dscAddress (.approve anvil.engineAddress (1000 * 10 ^ 18))])

/-- Meanwhile an hour passes and the other user redeems 2 ether. -/
def meanwhile : List Action :=
  [.advance 3600, .callEngine user (.redeemCollateral weth (2 * 10 ^ 18))]

theorem round_trip_of_deployer :
    ∃ after, DSCEngine.redeemCollateralForDsc standard deployer weth (5 * 10 ^ 18) (1000 * 10 ^ 18)
        (Runs.run step (step approvedTwice (.callEngine deployer
          (.depositCollateralAndMintDsc weth (5 * 10 ^ 18) (1000 * 10 ^ 18)))) meanwhile) =
            .ok after ∧
      (after.tokens weth).balances deployer = 10 * 10 ^ 18 := by
  have reachable : Reachable approvedTwice :=
    ⟨anvil, anvil.start, _, anvil.run_ok, by decide +kernel, rfl⟩
  have opened : DSCEngine.depositCollateralAndMintDsc standard deployer weth (5 * 10 ^ 18)
      (1000 * 10 ^ 18) approvedTwice = .ok (step approvedTwice (.callEngine deployer
        (.depositCollateralAndMintDsc weth (5 * 10 ^ 18) (1000 * 10 ^ 18)))) := by
    have returns : (Action.exec approvedTwice (.callEngine deployer
        (.depositCollateralAndMintDsc weth (5 * 10 ^ 18) (1000 * 10 ^ 18)))).toBool = true := by
      decide +kernel
    exact Runs.commit_of_returns returns
  have along : Runs.Along step (Interlude deployer) (step approvedTwice (.callEngine deployer
      (.depositCollateralAndMintDsc weth (5 * 10 ^ 18) (1000 * 10 ^ 18)))) meanwhile := by
    have notPool : deployer ≠ anvil.poolAddress := by decide
    refine ⟨⟨by decide +kernel, trivial⟩, ⟨by decide +kernel, by decide, ?_⟩, trivial⟩
    intro pool
    exact absurd pool notPool
  have fresh : ∀ listed ∈ approvedTwice.engine.collateralTokens, ∃ round,
      (Runs.run step (step approvedTwice (.callEngine deployer (.depositCollateralAndMintDsc weth
        (5 * 10 ^ 18) (1000 * 10 ^ 18)))) meanwhile).latestRoundData
          (approvedTwice.engine.priceFeeds listed) = .ok round ∧
        (Runs.run step (step approvedTwice (.callEngine deployer (.depositCollateralAndMintDsc weth
          (5 * 10 ^ 18) (1000 * 10 ^ 18)))) meanwhile).Fresh round := by
    apply forall_listed
    · exact ⟨_, rfl, by decide +kernel⟩
    · exact ⟨_, rfl, by decide +kernel⟩
  obtain ⟨after, closed, _, _, balances⟩ :=
    round_trip_lossless reachable (Or.inl (by decide +kernel)) opened along fresh
      (by decide +kernel)
  refine ⟨after, closed, ?_⟩
  rw [balances]
  decide +kernel

end Example

end DscProtocol
