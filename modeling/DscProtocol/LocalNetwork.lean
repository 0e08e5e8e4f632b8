import DscProtocol.Aggregator
import DscProtocol.Backing
import DscProtocol.Lib.Simulation

set_option autoImplicit false

/- The local network of the deployment script: the protocol on top of mock feeds and mock tokens,
all open to anyone. -/
namespace DscProtocol

/-- The chain with the mock feeds on it. What the world of the protocol reports as its feeds is
never read: `view` puts what the mocks answer in its place. -/
structure LocalNetwork where
  world : World
  aggregators : Address → Option Aggregator

/-- What `ERC20Mock.sol` has beyond the ERC20 interface: the internal functions, open to anyone
and for any account. -/
inductive MockCall where
  | mint (account : Address) (amount : Nat)
  | burn (account : Address) (amount : Nat)
  | transferInternal (source target : Address) (value : Nat)
  | approveInternal (owner spender : Address) (value : Nat)
  deriving DecidableEq

namespace MockCall

def exec (call : MockCall) (token : ERC20) : Except Revert ERC20 :=
  match call with
  | mint account amount => token.mintInternal account amount
  | burn account amount => token.burnInternal account amount
  | transferInternal source target value => token.transferInternal source target value
  | approveInternal owner spender value => token.approveInternal owner spender value

/-- The calls that do to an account only what it could do itself, and nothing to this one. What is
burned is gone, as no real collateral is. -/
def Spares (account : Address) (call : MockCall) : Prop :=
  match call with
  | mint target _ => target ≠ account
  | burn _ _ => False
  | transferInternal source _ _ => source ≠ account
  | approveInternal owner _ value => owner ≠ account ∧ value < wordLimit

instance (account : Address) : (call : MockCall) → Decidable (call.Spares account)
  | mint target _ => inferInstanceAs (Decidable (target ≠ account))
  | burn _ _ => inferInstanceAs (Decidable False)
  | transferInternal source _ _ => inferInstanceAs (Decidable (source ≠ account))
  | approveInternal owner _ value =>
      inferInstanceAs (Decidable (owner ≠ account ∧ value < wordLimit))

/-- Such a call as one the account makes itself. -/
def actions (token : Address) (call : MockCall) : List Action :=
  match call with
  | mint account amount => [.issue token account amount]
  | burn _ _ => []
  | transferInternal source target value => [.callToken source token (.transfer target value)]
  | approveInternal owner spender value => [.callToken owner token (.approve spender value)]

/-- What spares the engine, the protocol's own machine does too. -/
theorem matched {w : World} {token : Address} {call : MockCall} {contract : ERC20}
    (collateral : token ≠ w.engine.dsc) (spares : call.Spares w.engineAddress)
    (returned : call.exec (w.tokens token) = .ok contract) :
    Runs.Along step Permitted w (call.actions token) ∧
      Runs.run step w (call.actions token) = w.setToken token contract := by
  cases call with
  | mint account amount =>
      have success : (Action.issue token account amount).exec w =
          .ok (w.setToken token contract) := by
        change (w.tokens token).mintInternal account amount = .ok contract at returned
        simp only [Action.exec, returned, Checked.ok_bind]
      exact ⟨⟨⟨(Option.some_ne_none _).symm, collateral, spares⟩, trivial⟩,
        Runs.commit_eq_of_ok success⟩
  | burn account amount => exact absurd spares id
  | transferInternal source target value =>
      have success : (Action.callToken source token (.transfer target value)).exec w =
          .ok (w.setToken token contract) := by
        change (w.tokens token).transferInternal source target value = .ok contract at returned
        simp only [Action.exec, TokenCall.exec, ERC20.transfer, returned, Checked.ok_bind]
      exact ⟨⟨⟨fun same => spares (Option.some.inj same), trivial⟩, trivial⟩,
        Runs.commit_eq_of_ok success⟩
  | approveInternal owner spender value =>
      have success : (Action.callToken owner token (.approve spender value)).exec w =
          .ok (w.setToken token contract) := by
        change (w.tokens token).approveInternal owner spender value = .ok contract at returned
        simp only [Action.exec, TokenCall.exec, ERC20.approve, returned, Checked.ok_bind]
      exact ⟨⟨⟨fun same => spares.1 (Option.some.inj same), spares.2⟩, trivial⟩,
        Runs.commit_eq_of_ok success⟩

end MockCall

inductive NetworkCall where
  | transact (action : Action)
  | report (aggregator : Address) (call : AggregatorCall)
  | mock (token : Address) (call : MockCall)

namespace LocalNetwork

/-- The world the contracts see. -/
def view (network : LocalNetwork) : World :=
  { network.world with
    feeds := fun address => (network.aggregators address).map Aggregator.latestRoundData }

def setAggregator (network : LocalNetwork) (address : Address) (aggregator : Aggregator) :
    LocalNetwork :=
  { network with
    aggregators := Function.update network.aggregators address (some aggregator) }

def exec (network : LocalNetwork) (call : NetworkCall) : Except Revert LocalNetwork :=
  match call with
  | .transact action => do
      let world ← action.exec network.view
      .ok { network with world := world }
  | .report address call =>
      match network.aggregators address with
      | some aggregator => do
          let aggregator ← call.exec network.world.timestamp aggregator
          .ok (network.setAggregator address aggregator)
      | none => .error .noCode
  | .mock token call =>
      if token ∈ network.world.engine.collateralTokens then do
        let contract ← call.exec (network.world.tokens token)
        .ok { network with world := network.world.setToken token contract }
      else .error .noCode

def step : LocalNetwork → NetworkCall → LocalNetwork := Runs.commit exec

/-- Every feed speaks through its mock. -/
def Spoken (_ : LocalNetwork) (call : NetworkCall) : Prop :=
  match call with
  | .transact (.updateFeed _ _) => False
  | _ => True

/-- Anyone but the engine transacts, and nobody uses the mock tokens to rob the engine. -/
def Permitted (network : LocalNetwork) (call : NetworkCall) : Prop :=
  network.Spoken call ∧
  (match call with
    | .transact action => DscProtocol.Permitted network.view action
    | .report _ _ => True
    | .mock _ call => call.Spares network.world.engineAddress)

instance (network : LocalNetwork) : (call : NetworkCall) → Decidable (network.Spoken call)
  | .transact (.updateFeed _ _) => inferInstanceAs (Decidable False)
  | .transact (.callEngine _ _) | .transact (.callToken _ _ _) | .transact (.callCoin _ _)
  | .transact (.withdraw _ _ _) | .transact (.issue _ _ _) | .transact (.advance _)
  | .report _ _ | .mock _ _ => inferInstanceAs (Decidable True)

instance (network : LocalNetwork) : (call : NetworkCall) → Decidable (network.Permitted call)
  | .transact action =>
      inferInstanceAs (Decidable (network.Spoken (.transact action) ∧
        DscProtocol.Permitted network.view action))
  | .report address call =>
      inferInstanceAs (Decidable (network.Spoken (.report address call) ∧ True))
  | .mock token call =>
      inferInstanceAs (Decidable (network.Spoken (.mock token call) ∧
        call.Spares network.world.engineAddress))

/-- The same call in the protocol's own machine, where a feed just gets a new answer. -/
def actions (network : LocalNetwork) (call : NetworkCall) : List Action :=
  match call with
  | .transact action => [action]
  | .report address _ =>
      match exec network call with
      | .ok after =>
          ((after.aggregators address).map fun aggregator =>
            Action.updateFeed address aggregator.latestRoundData).toList
      | .error _ => []
  | .mock token call => call.actions token

/-- A deployment with mocks for feeds, each constructed with its price, and for tokens. -/
def start (d : Deployment) (prices : Address → Option (BitVec 256)) : LocalNetwork where
  world := d.start
  aggregators := fun address =>
    (prices address).map fun price => Aggregator.deployed price d.timestamp

end LocalNetwork

/-- What the protocol's own machine starts from there. -/
def Deployment.withPrices (d : Deployment) (prices : Address → Option (BitVec 256)) :
    Deployment :=
  { d with
    feeds := fun address =>
      (prices address).map fun price => MockV3Aggregator.deployed price d.timestamp }

namespace LocalNetwork

variable {network after : LocalNetwork} {call : NetworkCall} {d : Deployment}
  {prices : Address → Option (BitVec 256)}

theorem start_view : (start d prices).view = (d.withPrices prices).start := by
  have same : ∀ address, ((start d prices).aggregators address).map Aggregator.latestRoundData =
      (d.withPrices prices).feeds address := by
    intro address
    simp only [start, Deployment.withPrices, Option.map_map]
    cases prices address with
    | none => rfl
    | some price =>
        exact congrArg some (Aggregator.deployed_latestRoundData price d.timestamp)
  unfold view
  rw [funext same]
  rfl

theorem start_orderly_view (d : Deployment) (prices : Address → Option (BitVec 256)) :
    (start d prices).view.Orderly := by
  rw [start_view]
  exact (Deployment.run_eq_ok (d.withPrices prices).run_ok).1

/-- The feeds stand still unless they are written. -/
theorem exec_transact {action : Action} (spoken : network.Spoken (.transact action))
    (returned : network.exec (.transact action) = .ok after) :
    action.exec network.view = .ok after.view ∧ after.aggregators = network.aggregators := by
  simp only [exec, Checked.bind_eq_ok, Except.ok.injEq] at returned
  obtain ⟨world, success, rfl⟩ := returned
  have silent : ∀ priceFeed round, action ≠ .updateFeed priceFeed round := by
    intro priceFeed round same
    subst same
    exact spoken
  have feeds : world.feeds = network.view.feeds := Action.exec_feeds success silent
  refine ⟨?_, rfl⟩
  rw [success]
  have same : world = { world with feeds := network.view.feeds } := by
    rw [← feeds]
  rw [same]
  rfl

theorem setAggregator_view (network : LocalNetwork) (address : Address)
    (aggregator : Aggregator) :
    (network.setAggregator address aggregator).view =
      { network.view with
        feeds := Function.update network.view.feeds address
          (some aggregator.latestRoundData) } := by
  have feeds : ∀ other, ((network.setAggregator address aggregator).aggregators other).map
      Aggregator.latestRoundData =
        Function.update network.view.feeds address (some aggregator.latestRoundData) other := by
    intro other
    unfold setAggregator view
    by_cases same : other = address
    · subst same
      simp only [Function.update_self, Option.map_some]
    · simp only [Function.update_of_ne same]
  unfold view at feeds ⊢
  rw [funext feeds]
  rfl

theorem exec_report {address : Address} {call : AggregatorCall} :
    network.exec (.report address call) = .ok after ↔
      ∃ aggregator filed, network.aggregators address = some aggregator ∧
        call.exec network.world.timestamp aggregator = .ok filed ∧
        after = network.setAggregator address filed := by
  cases found : network.aggregators address with
  | none => simp only [exec, found, reduceCtorEq, false_and, exists_false]
  | some aggregator =>
      simp only [exec, found, Checked.bind_eq_ok, Except.ok.injEq, Option.some.injEq]
      constructor
      · intro returned
        obtain ⟨filed, success, same⟩ := returned
        exact ⟨aggregator, filed, rfl, success, same.symm⟩
      · intro returned
        obtain ⟨_, filed, rfl, success, same⟩ := returned
        exact ⟨filed, success, same.symm⟩

/-- Only collateral tokens are mocks. -/
theorem exec_mock {token : Address} {call : MockCall} :
    network.exec (.mock token call) = .ok after ↔
      token ∈ network.world.engine.collateralTokens ∧
        ∃ contract, call.exec (network.world.tokens token) = .ok contract ∧
          after = { network with world := network.world.setToken token contract } := by
  by_cases listed : token ∈ network.world.engine.collateralTokens
  · simp only [exec, listed, ↓reduceIte, Checked.bind_eq_ok, Except.ok.injEq, true_and]
    constructor
    · intro returned
      obtain ⟨contract, success, same⟩ := returned
      exact ⟨contract, success, same.symm⟩
    · intro returned
      obtain ⟨contract, success, same⟩ := returned
      exact ⟨contract, success, same.symm⟩
  · simp only [exec, listed, ↓reduceIte, reduceCtorEq, false_and]

/-- One call on the network is one call in the protocol's own machine. -/
theorem exec_matched (orderly : network.view.Orderly) (permitted : network.Permitted call)
    (returned : network.exec call = .ok after) :
    Runs.Along DscProtocol.step DscProtocol.Permitted network.view (network.actions call) ∧
      Runs.run DscProtocol.step network.view (network.actions call) = after.view := by
  cases call with
  | transact action =>
      obtain ⟨success, _⟩ := exec_transact permitted.1 returned
      exact ⟨⟨permitted.2, trivial⟩, Runs.commit_eq_of_ok success⟩
  | report address call =>
      obtain ⟨aggregator, filed, _, _, rfl⟩ := exec_report.mp returned
      have labelled : network.actions (.report address call) =
          [.updateFeed address filed.latestRoundData] := by
        simp only [actions, returned, setAggregator, Function.update_self, Option.map_some,
          Option.toList_some]
      have unsigned : (Action.updateFeed address filed.latestRoundData).sender? ≠
          some network.view.engineAddress := by
        intro impossible
        cases impossible
      rw [labelled, setAggregator_view]
      exact ⟨⟨⟨unsigned, trivial⟩, trivial⟩, rfl⟩
  | mock token call =>
      obtain ⟨listed, contract, success, rfl⟩ := exec_mock.mp returned
      have collateral : token ≠ network.view.engine.dsc := by
        intro same
        exact orderly.dsc_not_collateral (same ▸ listed)
      exact MockCall.matched collateral permitted.2 success

/-- Whatever is done to the mocks, the state stays orderly as long as the engine is spared. -/
theorem step_orderly (orderly : network.view.Orderly) (permitted : network.Permitted call) :
    (step network call).view.Orderly := by
  apply @Runs.commit_preserves LocalNetwork NetworkCall Revert exec
    (fun network => network.view.Orderly) network call orderly
  intro after returned
  obtain ⟨along, reached⟩ := exec_matched orderly permitted returned
  rw [← reached]
  exact orderly.run along

section Session

open HelperConfig

/-- What `getOrCreateAnvilEthConfig` constructs the two mocks with. -/
def anvilPrices (address : Address) : Option (BitVec 256) :=
  if address = wethUsdPriceFeed then some ethUsdPrice
  else if address = wbtcUsdPriceFeed then some btcUsdPrice
  else none

/-- The contracts see the deployment of the script. -/
theorem anvil_view : (start anvil anvilPrices).view = anvil.start := by
  have same : (anvil.withPrices anvilPrices).feeds = anvil.feeds := by
    funext address
    unfold Deployment.withPrices anvilPrices anvil
    by_cases ether : address = wethUsdPriceFeed
    · simp only [ether, ↓reduceIte, Option.map_some]
    · by_cases bitcoin : address = wbtcUsdPriceFeed
      · subst bitcoin
        simp only [ether, ↓reduceIte, Option.map_some]
      · simp only [ether, bitcoin, ↓reduceIte, Option.map_none]
  rw [start_view]
  exact congrArg (fun feeds => { anvil.start with feeds := feeds }) same

/-- The position of the liquidation tests is opened, ether gets a new answer, an hour passes,
someone overwrites the first round of the bitcoin mock with an answer from tomorrow and someone
takes the user's last ether, which its mock lets everyone do. -/
def session : List NetworkCall :=
  indebted.map .transact ++
    [.report wethUsdPriceFeed (.updateAnswer (BitVec.ofNat 256 (18 * 10 ^ 8))),
      .transact (.advance 3600),
      .report wbtcUsdPriceFeed
        (.updateRoundData 1 (BitVec.ofNat 256 (1000 * 10 ^ 8)) 1086400 1086400),
      .mock weth (.transferInternal user liquidator (90 * 10 ^ 18))]

end Session

/-- Whoever transacts and whoever calls the mocks, in whatever order: as long as nobody uses the
mock tokens to burn, or to move or approve what is the engine's, the contracts are never in a
state that the protocol's own machine does not reach by the same calls. -/
theorem local_network_refines (d : Deployment) (prices : Address → Option (BitVec 256))
    (calls : List NetworkCall) (along : Runs.Along step Permitted (start d prices) calls) :
    Runs.Along DscProtocol.step DscProtocol.Permitted (d.withPrices prices).start
        (Runs.trace exec actions (start d prices) calls) ∧
      (Runs.run step (start d prices) calls).view =
        Runs.run DscProtocol.step (d.withPrices prices).start
          (Runs.trace exec actions (start d prices) calls) ∧
      Reachable (Runs.run step (start d prices) calls).view := by
  have simulated := @Runs.simulates LocalNetwork NetworkCall Revert Action World exec actions
    Permitted view DscProtocol.step DscProtocol.Permitted (fun network => network.view.Orderly)
    (fun _ _ orderly permitted => step_orderly orderly permitted)
    (fun _ _ _ orderly permitted returned => exec_matched orderly permitted returned)
    (start d prices) calls (start_orderly_view d prices) along
  rw [start_view] at simulated
  obtain ⟨allowed, reached⟩ := simulated
  exact ⟨allowed, reached.symm,
    d.withPrices prices, (d.withPrices prices).start, _, (d.withPrices prices).run_ok, allowed,
    reached.symm⟩

/-- The session leads to a state of the protocol's own machine. -/
theorem local_network_refines_session :
    Reachable (Runs.run step (start HelperConfig.anvil anvilPrices) session).view :=
  (local_network_refines HelperConfig.anvil anvilPrices session (by decide +kernel)).2.2

/-- One unit of the engine's ether burned leads out: a deposit is then more than the engine has. -/
example : ¬ Reachable (Runs.run step (start HelperConfig.anvil anvilPrices)
    (session ++ [.mock HelperConfig.weth (.burn HelperConfig.anvil.engineAddress 1)])).view := by
  intro reachable
  have backed := reachable.deposit_le_held HelperConfig.user HelperConfig.weth
  revert backed
  decide +kernel

section Records

/-- What a call files with one of the mocks. -/
def filed (address : Address) (network : LocalNetwork) (call : NetworkCall) :
    List (Nat × Report) :=
  match call with
  | .transact _ | .mock _ _ => []
  | .report other call =>
      if other = address then
        ((network.aggregators address).map (call.entry network.world.timestamp)).toList
      else []

/-- The mock at an address keeps these reports. -/
def Keeps (address : Address) (network : LocalNetwork) (records : List (Nat × Report)) : Prop :=
  ∃ aggregator, network.aggregators address = some aggregator ∧ aggregator.Keeps records

/-- The report the constructor files. -/
def first (d : Deployment) (price : BitVec 256) : Nat × Report :=
  (1, ⟨price, d.timestamp, d.timestamp⟩)

variable {address : Address} {records : List (Nat × Report)} {price : BitVec 256}

theorem start_keeps (listed : prices address = some price) :
    (start d prices).Keeps address [first d price] := by
  refine ⟨Aggregator.deployed price d.timestamp, ?_, Aggregator.deployed_keeps price d.timestamp⟩
  simp only [start, listed, Option.map_some]

theorem Keeps.exec (keeps : network.Keeps address records) (spoken : network.Spoken call)
    (returned : network.exec call = .ok after) :
    after.Keeps address (records ++ network.filed address call) := by
  obtain ⟨aggregator, found, kept⟩ := keeps
  cases call with
  | transact action =>
      obtain ⟨_, same⟩ := exec_transact spoken returned
      refine ⟨aggregator, ?_, ?_⟩
      · rw [same]
        exact found
      · simp only [filed, List.append_nil]
        exact kept
  | report other call =>
      obtain ⟨target, written, located, success, rfl⟩ := exec_report.mp returned
      by_cases here : other = address
      · subst here
        rw [located] at found
        cases found
        refine ⟨written, Function.update_self _ _ _, ?_⟩
        simp only [filed, ↓reduceIte, located, Option.map_some, Option.toList_some]
        exact kept.exec success
      · refine ⟨aggregator, ?_, ?_⟩
        · simp only [setAggregator, Function.update_of_ne (Ne.symm here)]
          exact found
        · simp only [filed, here, ↓reduceIte, List.append_nil]
          exact kept
  | mock token call =>
      obtain ⟨_, _, _, rfl⟩ := exec_mock.mp returned
      refine ⟨aggregator, found, ?_⟩
      simp only [filed, List.append_nil]
      exact kept

/-- Over every run a mock answers for each round with the newest report filed under it, whoever
filed it, and for the latest round with the newest of all. -/
theorem mock_keeps_newest_reports (d : Deployment) (prices : Address → Option (BitVec 256))
    (calls : List NetworkCall) (along : Runs.Along step Spoken (start d prices) calls)
    (address : Address) (price : BitVec 256) (listed : prices address = some price) :
    ∃ aggregator number report,
      (Runs.run step (start d prices) calls).aggregators address = some aggregator ∧
      (first d price :: Runs.trace exec (filed address) (start d prices) calls).getLast? =
        some (number, report) ∧
      aggregator.latestRoundData = report.round number ∧
      aggregator.latestAnswer = report.answer ∧
      aggregator.latestTimestamp = report.updatedAt ∧
      ∀ roundId : BitVec 80, aggregator.getRoundData roundId =
        ((Archive.newest
          (first d price :: Runs.trace exec (filed address) (start d prices) calls)
          roundId.toNat).getD .blank).round roundId.toNat := by
  have kept : (Runs.run step (start d prices) calls).Keeps address
      ([first d price] ++ Runs.trace exec (filed address) (start d prices) calls) := by
    apply @Runs.accumulates LocalNetwork NetworkCall Revert (Nat × Report) exec (filed address)
      Spoken (fun state records => state.Keeps address records) ?_ _ _ _ (start_keeps listed)
      along
    intro state call records after keeps spoken returned
    exact keeps.exec spoken returned
  obtain ⟨aggregator, found, keeps⟩ := kept
  refine ⟨aggregator, aggregator.latestRound, aggregator.report aggregator.latestRound, found,
    keeps.latest, aggregator.latestRoundData_eq, keeps.answer, keeps.timestamp, ?_⟩
  intro roundId
  rw [Aggregator.getRoundData_eq, keeps.reports]
  rfl

/-- After the session the bitcoin mock answers with the report from tomorrow, the first answer is
gone. -/
theorem mock_keeps_newest_reports_session :
    ∃ aggregator, (Runs.run step (start HelperConfig.anvil anvilPrices) session).aggregators
        HelperConfig.wbtcUsdPriceFeed = some aggregator ∧
      aggregator.latestTimestamp = 1086400 ∧
      aggregator.getRoundData 1 =
        ⟨1, BitVec.ofNat 256 (1000 * 10 ^ 8), 1086400, 1086400, 1⟩ := by
  obtain ⟨aggregator, number, report, found, newest, _, _, timestamp, rounds⟩ :=
    mock_keeps_newest_reports HelperConfig.anvil anvilPrices session (by decide +kernel)
      HelperConfig.wbtcUsdPriceFeed HelperConfig.btcUsdPrice rfl
  have last : some (number, report) =
      some (1, ⟨BitVec.ofNat 256 (1000 * 10 ^ 8), 1086400, 1086400⟩) := by
    rw [← newest]
    decide +kernel
  cases last
  refine ⟨aggregator, found, timestamp, (rounds 1).trans ?_⟩
  decide +kernel

end Records

section Answers

variable {address : Address} {records : List (Nat × Report)} {price : BitVec 256}

/-- The mock at an address is written by `updateAnswer` only. -/
def Answered (address : Address) (network : LocalNetwork) (call : NetworkCall) : Prop :=
  network.Spoken call ∧
  (match call with
    | .report other (.updateRoundData _ _ _ _) => other ≠ address
    | _ => True)

instance (address : Address) (network : LocalNetwork) :
    (call : NetworkCall) → Decidable (Answered address network call)
  | .transact action => inferInstanceAs (Decidable (network.Spoken (.transact action) ∧ True))
  | .mock _ _ => inferInstanceAs (Decidable (True ∧ True))
  | .report _ (.updateAnswer _) => inferInstanceAs (Decidable (True ∧ True))
  | .report other (.updateRoundData _ _ _ _) =>
      inferInstanceAs (Decidable (True ∧ other ≠ address))

/-- Its rounds are numbered in the order in which they came, and none is of the future. -/
structure Ordered (address : Address) (network : LocalNetwork)
    (records : List (Nat × Report)) : Prop where
  keeps : network.Keeps address records
  numbered : Archive.Numbered records
  past : ∀ record ∈ records, record.2.updatedAt ≤ network.world.timestamp

theorem exec_timestamp_le (spoken : network.Spoken call)
    (returned : network.exec call = .ok after) :
    network.world.timestamp ≤ after.world.timestamp := by
  cases call with
  | transact action =>
      have passed := Action.exec_timestamp_le (exec_transact spoken returned).1
      exact passed
  | report address call =>
      obtain ⟨_, _, _, _, rfl⟩ := exec_report.mp returned
      exact Nat.le_refl _
  | mock token call =>
      obtain ⟨_, _, _, rfl⟩ := exec_mock.mp returned
      exact Nat.le_refl _

theorem Ordered.exec (ordered : network.Ordered address records)
    (answered : network.Answered address call) (returned : network.exec call = .ok after) :
    after.Ordered address (records ++ network.filed address call) := by
  have later := exec_timestamp_le answered.1 returned
  have one : network.filed address call = [] ∨ ∃ answer, network.filed address call =
      [(records.length + 1,
        ⟨answer, network.world.timestamp, network.world.timestamp⟩)] := by
    obtain ⟨aggregator, found, kept⟩ := ordered.keeps
    have number := ordered.numbered.last kept.latest
    cases call with
    | transact action => exact Or.inl rfl
    | mock token call => exact Or.inl rfl
    | report other call =>
        by_cases here : other = address
        · subst here
          cases call with
          | updateRoundData roundId answer timestamp startedAt =>
              exact absurd rfl answered.2
          | updateAnswer answer =>
              refine Or.inr ⟨answer, ?_⟩
              simp only [filed, ↓reduceIte, found, Option.map_some, Option.toList_some,
                AggregatorCall.entry, number]
        · exact Or.inl (if_neg here)
  constructor
  · exact ordered.keeps.exec answered.1 returned
  · rcases one with none | ⟨answer, some⟩
    · rw [none, List.append_nil]
      exact ordered.numbered
    · rw [some]
      exact ordered.numbered.append _
  · intro record inside
    rcases List.mem_append.mp inside with old | new
    · exact (ordered.past record old).trans later
    · rcases one with none | ⟨answer, some⟩
      · rw [none] at new
        cases new
      · rw [some, List.mem_singleton] at new
        subst new
        exact later

theorem start_ordered (listed : prices address = some price) :
    (start d prices).Ordered address [first d price] := by
  refine ⟨start_keeps listed, rfl, ?_⟩
  intro record inside
  rw [List.mem_singleton] at inside
  subst inside
  exact Nat.le_refl _

/-- A mock that is written by `updateAnswer` only, as the script and the tests do, keeps every
answer under its number, and the price check on it never panics: it passes on the last answer for
three hours and reports a stale price from then on. -/
theorem answered_mock_reads_back (d : Deployment) (prices : Address → Option (BitVec 256))
    (calls : List NetworkCall) (address : Address)
    (along : Runs.Along step (Answered address) (start d prices) calls) (price : BitVec 256)
    (listed : prices address = some price) (real : address ≠ 0) :
    ∃ aggregator last,
      (Runs.run step (start d prices) calls).aggregators address = some aggregator ∧
      ((first d price :: Runs.trace exec (filed address) (start d prices) calls).map
        Prod.snd).getLast? = some last ∧
      (∀ (roundId : BitVec 80) (index : Nat) (report : Report), roundId.toNat = index + 1 →
        ((first d price :: Runs.trace exec (filed address) (start d prices) calls).map
          Prod.snd)[index]? = some report →
        aggregator.getRoundData roundId = report.round (index + 1)) ∧
      OracleLib.stalePriceCheckLatestRoundData (Runs.run step (start d prices) calls).view
          address =
        if (Runs.run step (start d prices) calls).world.timestamp ≤
            last.updatedAt + OracleLib.timeout then
          .ok (last.round
            (first d price :: Runs.trace exec (filed address) (start d prices) calls).length)
        else .error (.oracle .stalePrice) := by
  have ordered : (Runs.run step (start d prices) calls).Ordered address
      ([first d price] ++ Runs.trace exec (filed address) (start d prices) calls) := by
    apply @Runs.accumulates LocalNetwork NetworkCall Revert (Nat × Report) exec (filed address)
      (Answered address) (fun state records => state.Ordered address records) ?_ _ _ _
      (start_ordered listed) along
    intro state call records after ordered answered returned
    exact ordered.exec answered returned
  rw [List.singleton_append] at ordered
  obtain ⟨aggregator, found, keeps⟩ := ordered.keeps
  have number := ordered.numbered.last keeps.latest
  have newest : aggregator.latestRoundData =
      (aggregator.report aggregator.latestRound).round
        (first d price :: Runs.trace exec (filed address) (start d prices) calls).length := by
    rw [← number]
    exact aggregator.latestRoundData_eq
  have read : (Runs.run step (start d prices) calls).view.latestRoundData address =
      .ok aggregator.latestRoundData := by
    unfold World.latestRoundData view
    simp only [real, ↓reduceIte, found, Option.map_some]
  have past : aggregator.latestRoundData.updatedAt ≤
      (Runs.run step (start d prices) calls).view.timestamp := by
    rw [newest]
    exact ordered.past _ (List.mem_of_getLast? keeps.latest)
  refine ⟨aggregator, aggregator.report aggregator.latestRound, found, ?_, ?_, ?_⟩
  · rw [List.getLast?_map, keeps.latest]
    rfl
  · intro roundId index report under located
    rw [Aggregator.getRoundData_eq, keeps.reports, under, ordered.numbered.newest_succ, located]
    rfl
  · rw [OracleLib.stalePriceCheckLatestRoundData_of_past read past, newest]
    rfl

/-- Two hours after the session the last answer for ether is still read, a second later no more. -/
theorem answered_mock_reads_back_stale :
    ∃ aggregator, (Runs.run step (start HelperConfig.anvil anvilPrices)
        (session ++ [.transact (.advance 7201)])).aggregators HelperConfig.wethUsdPriceFeed =
          some aggregator ∧
      aggregator.getRoundData 1 = ⟨1, HelperConfig.ethUsdPrice, 1000000, 1000000, 1⟩ ∧
      OracleLib.stalePriceCheckLatestRoundData
        (Runs.run step (start HelperConfig.anvil anvilPrices)
          (session ++ [.transact (.advance 7201)])).view HelperConfig.wethUsdPriceFeed =
        .error (.oracle .stalePrice) := by
  obtain ⟨aggregator, last, found, newest, rounds, check⟩ :=
    answered_mock_reads_back HelperConfig.anvil anvilPrices
      (session ++ [.transact (.advance 7201)]) HelperConfig.wethUsdPriceFeed (by decide +kernel)
      HelperConfig.ethUsdPrice rfl (by decide)
  have reported : some last = some ⟨BitVec.ofNat 256 (18 * 10 ^ 8), 1000000, 1000000⟩ := by
    rw [← newest]
    decide +kernel
  cases reported
  refine ⟨aggregator, found,
    rounds 1 0 ⟨HelperConfig.ethUsdPrice, 1000000, 1000000⟩ rfl (by decide +kernel), ?_⟩
  exact check.trans (if_neg (by decide +kernel))

end Answers

end LocalNetwork

end DscProtocol
