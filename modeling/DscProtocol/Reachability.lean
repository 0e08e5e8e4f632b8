import DscProtocol.Actions

set_option autoImplicit false

/- The deployed state is orderly, and so is every state a run reaches from it. -/
namespace DscProtocol

namespace DSCEngine

/-- The constructor's loop registers every listed token and nothing else. -/
theorem foldl_register (entries : List (Address × Address)) (engine : DSCEngine) :
    (entries.foldl register engine).status = engine.status ∧
    (entries.foldl register engine).collateralDeposited = engine.collateralDeposited ∧
    (entries.foldl register engine).dscMinted = engine.dscMinted ∧
    (entries.foldl register engine).dsc = engine.dsc ∧
    (entries.foldl register engine).poolAddress = engine.poolAddress ∧
    (entries.foldl register engine).collateralTokens =
      engine.collateralTokens ++ entries.map Prod.fst ∧
    ∀ token, (entries.foldl register engine).priceFeeds token ≠ 0 →
      engine.priceFeeds token ≠ 0 ∨ token ∈ entries.map Prod.fst := by
  induction entries generalizing engine with
  | nil =>
      refine ⟨rfl, rfl, rfl, rfl, rfl, ?_, fun token known => Or.inl known⟩
      simp only [List.foldl_nil, List.map_nil, List.append_nil]
  | cons entry rest ih =>
      obtain ⟨status, deposited, minted, dsc, pool, tokens, feeds⟩ := ih (register engine entry)
      refine ⟨status, deposited, minted, dsc, pool, ?_, ?_⟩
      · rw [List.foldl_cons, tokens]
        simp only [register, List.map_cons, List.append_assoc, List.singleton_append]
      · intro token known
        rcases feeds token known with before | later
        · by_cases same : token = entry.1
          · exact Or.inr (by simp only [List.map_cons, List.mem_cons, same, true_or])
          · simp only [register, Function.update_of_ne same] at before
            exact Or.inl before
        · exact Or.inr (List.mem_cons_of_mem _ later)

/-- What the constructor leaves, for any lists it accepts. -/
theorem construct_eq_ok {tokenAddresses priceFeedAddresses : List Address}
    {dscAddress dscPoolAddress : Address} {engine : DSCEngine}
    (returned : construct tokenAddresses priceFeedAddresses dscAddress dscPoolAddress =
      .ok engine) :
    tokenAddresses.length = priceFeedAddresses.length ∧ engine.status = .notEntered ∧
    engine.collateralDeposited = (fun _ _ => 0) ∧ engine.dscMinted = (fun _ => 0) ∧
    engine.dsc = dscAddress ∧ engine.poolAddress = dscPoolAddress ∧
    engine.collateralTokens = tokenAddresses ∧
    ∀ token, engine.priceFeeds token ≠ 0 → token ∈ engine.collateralTokens := by
  simp only [construct, Checked.bind_eq_ok, Checked.require_eq_ok, exists_const,
    Except.ok.injEq] at returned
  obtain ⟨same, rfl⟩ := returned
  obtain ⟨status, deposited, minted, dsc, pool, tokens, feeds⟩ :=
    foldl_register (tokenAddresses.zip priceFeedAddresses)
      { status := .notEntered
        priceFeeds := fun _ => 0
        collateralDeposited := fun _ _ => 0
        dscMinted := fun _ => 0
        collateralTokens := []
        dsc := dscAddress
        poolAddress := dscPoolAddress }
  rw [List.map_fst_zip (Nat.le_of_eq same), List.nil_append] at tokens
  refine ⟨same, status, deposited, minted, dsc, pool, tokens, ?_⟩
  intro token known
  rcases feeds token known with impossible | listed
  · exact absurd rfl impossible
  · rw [List.map_fst_zip (Nat.le_of_eq same)] at listed
    rw [tokens]
    exact listed

end DSCEngine

/-- What holds of the fresh coin and of every token before the deployment holds of every token
after it. -/
theorem Deployment.ledger (d : Deployment) {property : ERC20 → Prop} (fresh : property ERC20.empty)
    (given : ∀ token, property (d.tokens token)) (token : Address) :
    property (Function.update d.tokens d.dscAddress ERC20.empty token) := by
  by_cases same : token = d.dscAddress
  · rw [same, Function.update_self]
    exact fresh
  · rw [Function.update_of_ne same]
    exact given token

/-- The deployed state: nothing deposited, nothing minted, the coin owned by the engine. -/
theorem Deployment.run_eq_ok {d : Deployment} {start : World} (returned : d.run = .ok start) :
    start.Orderly ∧
    start.engine.collateralDeposited = (fun _ _ => 0) ∧ start.engine.dscMinted = (fun _ => 0) ∧
    start.tokens start.engine.dsc = ERC20.empty ∧
    ∀ token, (start.tokens token).balances start.engineAddress = 0 := by
  simp only [run, Checked.bind_eq_ok, DecentralisedStableCoin.transferOwnership,
    DecentralisedStableCoin.onlyOwner, Checked.require_eq_ok, exists_const,
    Except.ok.injEq] at returned
  obtain ⟨engine, constructed, _, ⟨_, _, rfl⟩, rfl⟩ := returned
  obtain ⟨_, status, deposited, minted, dsc, pool, tokens, feeds⟩ :=
    DSCEngine.construct_eq_ok constructed
  have coin : Function.update d.tokens d.dscAddress ERC20.empty engine.dsc = ERC20.empty := by
    rw [dsc, Function.update_self]
  have nothing : ∀ token, (Function.update d.tokens d.dscAddress ERC20.empty token).balances
      d.engineAddress = 0 := by
    intro token
    exact @Deployment.ledger d (fun ledger => ledger.balances d.engineAddress = 0) rfl
      d.engine_holds_nothing token
  refine ⟨⟨⟨status, d.engine_ne_zero, ?_, ?_, d.deployer_ne_zero, ?_, ?_, ?_, ?_, feeds, rfl⟩,
    ⟨?_, ?_, ?_⟩, ⟨?_, ?_, ?_⟩⟩, deposited, minted, coin, nothing⟩
  · change engine.poolAddress ≠ 0
    rw [pool]
    exact d.pool_ne_zero
  · change engine.poolAddress ≠ d.engineAddress
    rw [pool]
    exact d.pool_ne_engine
  · change d.deployer ≠ engine.poolAddress
    rw [pool]
    exact d.deployer_ne_pool
  · change d.etherBalance engine.poolAddress = 0
    rw [pool]
    exact d.pool_has_no_ether
  · change engine.collateralTokens.Nodup
    rw [tokens]
    exact d.distinct
  · change engine.dsc ∉ engine.collateralTokens
    rw [tokens, dsc]
    exact d.dsc_not_collateral
  · intro token
    exact d.ledger ERC20.Sound.empty d.sound token
  · intro token spender
    exact @Deployment.ledger d (fun ledger => ledger.allowances d.engineAddress spender = 0) rfl
      (fun token => d.engine_allows_nothing token spender) token
  · change (Function.update d.tokens d.dscAddress ERC20.empty engine.dsc).balances 0 = 0
    rw [coin]
    rfl
  · intro user token some
    change engine.collateralDeposited user token ≠ 0 at some
    rw [deposited] at some
    exact absurd rfl some
  · change engine.dscMinted d.engineAddress = 0
    rw [minted]
  · intro user
    change engine.dscMinted user * _ < _
    rw [minted, Nat.zero_mul]
    exact wordLimit_pos

namespace World.Orderly

variable {w after : World} {sender : Address}

/-- The rule for engine calls of users: the four effects start from orderly states and end in
them, and what is paid out never goes to the engine. -/
theorem exec_preserves (orderly : w.Orderly) (user : sender ≠ w.engineAddress) {call : EngineCall}
    (holds : World → Prop)
    (receive : ∀ middle token amount, middle.Orderly → sender ≠ middle.engineAddress →
      holds middle → middle.Receives sender token amount →
      holds (middle.received sender token amount))
    (release : ∀ middle source target token amount, middle.Orderly →
      target ≠ middle.engineAddress → holds middle → middle.Releases source target token amount →
      holds (middle.released source target token amount))
    (issue : ∀ middle amount, middle.Orderly → sender ≠ middle.engineAddress → holds middle →
      middle.Issues sender amount → holds (middle.issued sender amount))
    (repay : ∀ middle onBehalfOf amount, middle.Orderly → sender ≠ middle.engineAddress →
      holds middle → middle.Repays onBehalfOf sender amount →
      holds (middle.repaid onBehalfOf sender amount))
    (start : holds w) (success : call.exec standard sender w = .ok after) :
    holds after ∧ after.Orderly := by
  have all : holds after ∧ after.Orderly ∧ sender ≠ after.engineAddress := by
    apply EngineCall.exec_preserves
      (fun middle => holds middle ∧ middle.Orderly ∧ sender ≠ middle.engineAddress)
      _ _ _ _ ⟨start, orderly, user⟩ success
    · intro middle token amount before listed receives
      obtain ⟨held, orderly, user⟩ := before
      exact ⟨receive middle token amount orderly user held receives,
        orderly.received user listed receives, user⟩
    · intro middle source target token amount before receiver releases
      obtain ⟨held, orderly, user⟩ := before
      have outside : target ≠ middle.engineAddress := by
        rcases receiver with ⟨_, rfl⟩ | ⟨_, rfl | rfl⟩
        · exact user
        · exact user
        · exact orderly.pool_ne_engine
      exact ⟨release middle source target token amount orderly outside held releases,
        orderly.released releases, user⟩
    · intro middle amount before issues passes
      obtain ⟨held, orderly, user⟩ := before
      exact ⟨issue middle amount orderly user held issues, orderly.issued user issues passes, user⟩
    · intro middle onBehalfOf amount before _ repays
      obtain ⟨held, orderly, user⟩ := before
      exact ⟨repay middle onBehalfOf amount orderly user held repays, orderly.repaid repays, user⟩
  exact ⟨all.1, all.2.1⟩

theorem execEngine (orderly : w.Orderly) {call : EngineCall} (user : sender ≠ w.engineAddress)
    (success : call.exec standard sender w = .ok after) : after.Orderly := by
  have kept : True ∧ after.Orderly := by
    apply orderly.exec_preserves user (fun _ => True) _ _ _ _ trivial success <;> intros <;> trivial
  exact kept.2

/-- Any replacement of one ledger that keeps the ledgers sound. -/
theorem withLedgers (orderly : w.Orderly) {address : Address} {token : ERC20}
    (ledgers : (w.setToken address token).SoundLedgers) : (w.setToken address token).Orderly :=
  ⟨orderly.toDeployed.of_sameSetting (SameSetting.setToken w address token), ledgers,
    ⟨orderly.deposit_real, orderly.engine_owes_nothing, orderly.debt_scales⟩⟩

/-- Whatever an action outside the engine leaves of a ledger is sound, gives away nothing of the
engine's and leaves the zero address without coins. -/
theorem change (orderly : w.Orderly) {action : Action} {address : Address} {contract : ERC20}
    (permitted : Permitted w action) (change : LedgerChange w action address contract) :
    (w.setToken address contract).Orderly := by
  apply orderly.withLedgers
  cases change with
  | transfer real receiver enough => exact orderly.moved_ledgers real receiver enough
  | transferFrom pulls => exact orderly.pulled_ledgers pulls
  | @approve sender _ spender amount _ nothing =>
      have user : sender ≠ w.engineAddress := fun same => permitted.1 (congrArg some same)
      apply orderly.toSoundLedgers.setToken (orderly.sound address).approved
      · intro other
        have row : ((w.tokens address).approved sender spender amount).allowances
            w.engineAddress = (w.tokens address).allowances w.engineAddress :=
          Ledger.assign_row _ _ _ _ _ user.symm
        rw [row]
        exact orderly.engine_allows_nothing address other
      · intro same
        subst same
        exact orderly.zero_holds_no_dsc
  | @burnFrom sender account amount allowed real enough =>
      have sound : ((w.tokens w.engine.dsc).spent account sender amount).Sound :=
        (orderly.sound w.engine.dsc).spent
      apply orderly.toSoundLedgers.setToken (sound.burned ?_)
        (orderly.spent_allows_nothing w.engine.dsc account sender amount)
      · intro _
        rw [ERC20.burned_balances_of_ne real.symm, ERC20.spent_balances]
        exact orderly.zero_holds_no_dsc
      · rw [ERC20.spent_balances]
        exact enough
  | withdraw real receiver enough => exact orderly.moved_ledgers real receiver enough
  | issue real fits => exact orderly.minted_ledgers real fits

theorem withFeeds (orderly : w.Orderly) (feeds : Address → Option Round) (timestamp : Nat) :
    (w.withFeeds feeds timestamp).Orderly := by
  obtain ⟨⟨⟩, ⟨⟩, ⟨⟩⟩ := orderly
  constructor <;> constructor <;> assumption

/-- A committed action of the run keeps the state orderly. -/
theorem exec (orderly : w.Orderly) {action : Action} (permitted : Permitted w action)
    (success : action.exec w = .ok after) : after.Orderly := by
  rcases Action.exec_cases orderly.owned permitted success with
    ⟨sender, call, _, user, returned⟩ | ⟨address, contract, change, rfl⟩ |
    ⟨_, feeds, timestamp, rfl⟩
  · exact orderly.execEngine user returned
  · exact orderly.change permitted change
  · exact orderly.withFeeds feeds timestamp

theorem step {action : Action} (orderly : w.Orderly) (permitted : Permitted w action) :
    (step w action).Orderly :=
  Runs.commit_preserves orderly (fun _ success => orderly.exec permitted success)

theorem run {actions : List Action} (orderly : w.Orderly)
    (along : Runs.Along DscProtocol.step Permitted w actions) :
    (Runs.run DscProtocol.step w actions).Orderly :=
  Runs.invariant (fun _ _ start permitted => start.step permitted) orderly along

end World.Orderly

theorem Reachable.orderly {w : World} (reachable : Reachable w) : w.Orderly := by
  obtain ⟨d, start, actions, deployed, along, rfl⟩ := reachable
  exact (Deployment.run_eq_ok deployed).1.run along

/-- Reachable states stay reachable. -/
theorem Reachable.run {w : World} {actions : List Action} (reachable : Reachable w)
    (along : Runs.Along step Permitted w actions) : Reachable (Runs.run step w actions) := by
  obtain ⟨d, start, before, deployed, sofar, rfl⟩ := reachable
  refine ⟨d, start, before ++ actions, deployed, ?_, ?_⟩
  · exact (Runs.along_append start before actions).mpr ⟨sofar, along⟩
  · exact (Runs.run_append start before actions).symm

/-- A call of anyone but the engine. -/
theorem Reachable.call {w : World} {sender : Address} (reachable : Reachable w)
    (user : sender ≠ w.engineAddress) (call : EngineCall) :
    Reachable (step w (.callEngine sender call)) := by
  have permitted : Permitted w (.callEngine sender call) :=
    ⟨fun same => user (Option.some.inj same), trivial⟩
  exact @Reachable.run w [.callEngine sender call] reachable ⟨permitted, trivial⟩

/-- What such a call leaves when it returns. -/
theorem Reachable.returned {w after : World} {sender : Address} {call : EngineCall}
    (reachable : Reachable w) (user : sender ≠ w.engineAddress)
    (returned : call.exec standard sender w = .ok after) : Reachable after := by
  have committed : step w (.callEngine sender call) = after := Runs.commit_eq_of_ok returned
  rw [← committed]
  exact reachable.call user call

end DscProtocol
