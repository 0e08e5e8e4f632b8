import DscProtocol.Backing

set_option autoImplicit false

/- One listed feed the engine does not accept stops everything that could raise a debt or let
collateral out. Deposits and repayments never look at a feed. -/
namespace DscProtocol

/-- The calls that judge an account: all but the two that can only help it. -/
def EngineCall.judges : EngineCall → Bool
  | .depositCollateral _ _ => false
  | .burnDsc _ => false
  | _ => true

namespace World

/-- The feed of this token reports a negative answer, one from the future or a stale one. -/
def BadFeed (w : World) (token : Address) : Prop :=
  ∃ round, w.latestRoundData (w.engine.priceFeeds token) = .ok round ∧
    (round.answer.toInt < 0 ∨ w.timestamp < round.updatedAt ∨
      round.updatedAt + OracleLib.timeout < w.timestamp)

/-- No recorded deposit falls and no debt rises. -/
def Relieves (w after : World) : Prop :=
  (∀ user other, w.engine.collateralDeposited user other ≤
    after.engine.collateralDeposited user other) ∧
  ∀ user, after.engine.dscMinted user ≤ w.engine.dscMinted user

variable {w after : World} {sender source target token account user onBehalfOf dscFrom : Address}
  {amount : Nat}

theorem Relieves.of_engine_eq (same : after.engine = w.engine) : Relieves w after := by
  unfold Relieves
  rw [same]
  exact ⟨fun _ _ => Nat.le_refl _, fun _ => Nat.le_refl _⟩

theorem BadFeed.not_readable (bad : w.BadFeed token) : ¬ w.Readable token := by
  intro readable
  obtain ⟨round, read, fresh, nonneg, _⟩ := readable
  obtain ⟨reported, returned, defect⟩ := bad
  rw [read] at returned
  have same : round = reported := Except.ok.inj returned
  subst same
  unfold Fresh at fresh
  omega

/-- Every path of a judging call that returns has read every listed feed through the check. -/
theorem judged_readable {call : EngineCall} (judges : call.judges = true)
    (success : call.exec standard sender w = .ok after)
    (listed : token ∈ w.engine.collateralTokens) : w.Readable token := by
  have mint : ∀ {w after : World} {amount : Nat}, token ∈ w.engine.collateralTokens →
      DSCEngine.mintDsc sender amount w = .ok after → w.Readable token := by
    intro w after amount listed success
    obtain ⟨_, _, passes, rfl⟩ := DSCEngine.mintDsc_eq_ok.mp success
    exact (SameSetting.issued w sender amount).readable_iff.mp (passes.valued.readable token listed)
  have redeem : ∀ {w after : World} {other : Address} {amount : Nat},
      token ∈ w.engine.collateralTokens →
      DSCEngine.redeemCollateral standard sender other amount w = .ok after →
        w.Readable token := by
    intro w after other amount listed success
    obtain ⟨_, _, _, passes, rfl⟩ := DSCEngine.redeemCollateral_eq_ok.mp success
    exact (SameSetting.released w sender sender other amount).readable_iff.mp
      (passes.valued.readable token listed)
  cases call with
  | depositCollateral other amount => cases judges
  | depositCollateralAndMintDsc other amountCollateral amountDscToMint =>
      obtain ⟨_, deposited, minted⟩ := DSCEngine.depositCollateralAndMintDsc_eq_ok.mp success
      obtain ⟨_, _, _, _, rfl⟩ := DSCEngine.depositCollateral_eq_ok.mp deposited
      exact (SameSetting.received w sender other amountCollateral).readable_iff.mp
        (mint listed minted)
  | mintDsc amount => exact mint listed success
  | burnDsc amount => cases judges
  | redeemCollateral other amount => exact redeem listed success
  | redeemCollateralForDsc other amountCollateral amountDscToBurn =>
      obtain ⟨_, burned, redeemed⟩ := DSCEngine.redeemCollateralForDsc_eq_ok.mp success
      obtain ⟨_, rfl⟩ := DSCEngine.burnDsc_eq_ok.mp burned
      exact (SameSetting.repaid w sender sender amountDscToBurn).readable_iff.mp
        (redeem listed redeemed)
  | liquidate collateral user debtToCover =>
      obtain ⟨liquidates, _⟩ := DSCEngine.liquidate_eq_ok.mp success
      exact liquidates.valued.readable token listed

theorem frozen (listed : token ∈ w.engine.collateralTokens) (bad : w.BadFeed token)
    {call : EngineCall} (judges : call.judges = true) :
    ∃ reason, call.exec standard sender w = .error reason :=
  Checked.fails_iff.mpr (fun _ success =>
    bad.not_readable (judged_readable judges success listed))

/-- The two calls that get through add to a deposit or take from a debt. -/
theorem frozen_positions {call : EngineCall} (listed : token ∈ w.engine.collateralTokens)
    (bad : w.BadFeed token) (success : call.exec standard sender w = .ok after) :
    Relieves w after := by
  cases judges : call.judges with
  | true => exact absurd (judged_readable judges success listed) bad.not_readable
  | false =>
      cases call with
      | depositCollateral other amount =>
          obtain ⟨_, _, _, _, rfl⟩ := DSCEngine.depositCollateral_eq_ok.mp success
          refine ⟨?_, fun user => Nat.le_refl _⟩
          rw [received_deposited]
          exact Ledger.le_assign w.engine.collateralDeposited (Nat.le_add_right _ _)
      | burnDsc amount =>
          obtain ⟨_, rfl⟩ := DSCEngine.burnDsc_eq_ok.mp success
          exact ⟨fun user elsewhere => Nat.le_refl _, repaid_minted_le⟩
      | _ => cases judges

/-- While a listed feed is bad no action at all raises a debt or lowers a recorded deposit. -/
theorem frozen_step (listed : token ∈ w.engine.collateralTokens) (bad : w.BadFeed token)
    (action : Action) : Relieves w (step w action) := by
  apply @Runs.commit_preserves World Action Revert Action.exec (Relieves w) w action
    (Relieves.of_engine_eq rfl)
  intro next success
  rcases Action.exec_frame success with ⟨sender, call, _, returned⟩ | ⟨engine, _⟩
  · exact frozen_positions listed bad returned
  · exact Relieves.of_engine_eq engine

/-- So nothing leaves the engine either. -/
theorem frozen_held (orderly : w.Orderly) (listed : token ∈ w.engine.collateralTokens)
    (bad : w.BadFeed token) {action : Action} (permitted : Permitted w action) (other : Address) :
    w.held other ≤ (step w action).held other := by
  have moved := @step_held w other orderly action permitted
  have grown : w.deposits other ≤ (step w action).deposits other :=
    Finset.sum_le_sum fun user _ => (frozen_step listed bad action).1 user other
  omega

end World

namespace DSCEngine

variable (w : World) (feeds : Address → Option Round) (timestamp : Nat) (sender token : Address)
  (amount : Nat)

/-- Whatever the feeds and the clock say, a deposit fails for the same reason or succeeds with
the same effect. -/
theorem depositCollateral_withFeeds :
    depositCollateral standard sender token amount (w.withFeeds feeds timestamp) =
      (depositCollateral standard sender token amount w).map
        (fun after => after.withFeeds feeds timestamp) := by
  simp only [depositCollateral, ReentrancyGuard.nonReentrant, ReentrancyGuard.nonReentrantBefore,
    standard, Checked.map_bind, bind_assoc, Checked.ok_bind]
  rfl

theorem burnDsc_withFeeds :
    burnDsc sender amount (w.withFeeds feeds timestamp) =
      (burnDsc sender amount w).map (fun after => after.withFeeds feeds timestamp) := by
  simp only [burnDsc, burnDscInternal, Checked.map_bind]
  rfl

end DSCEngine

/-- In every reachable state: one bad listed feed makes all five judging calls revert, for every
caller and all arguments, and nothing anyone does raises a debt or takes tokens from the engine;
deposits and repayments are blind to feeds and clock. -/
theorem bad_oracle_freezes {w : World} (reachable : Reachable w) :
    (∀ token ∈ w.engine.collateralTokens, w.BadFeed token →
      (∀ sender call, call.judges = true →
        ∃ reason, EngineCall.exec standard sender call w = .error reason) ∧
      ∀ action, Permitted w action →
        (∀ user, (step w action).engine.dscMinted user ≤ w.engine.dscMinted user) ∧
        ∀ other, w.held other ≤ (step w action).held other) ∧
    ∀ feeds timestamp sender,
      (∀ token amount,
        DSCEngine.depositCollateral standard sender token amount (w.withFeeds feeds timestamp) =
          (DSCEngine.depositCollateral standard sender token amount w).map
            fun after => after.withFeeds feeds timestamp) ∧
      ∀ amount, DSCEngine.burnDsc sender amount (w.withFeeds feeds timestamp) =
        (DSCEngine.burnDsc sender amount w).map fun after => after.withFeeds feeds timestamp := by
  refine ⟨?_, fun feeds timestamp sender => ⟨fun token amount => ?_, fun amount => ?_⟩⟩
  · intro token listed bad
    refine ⟨fun sender call judges => World.frozen listed bad judges, ?_⟩
    intro action permitted
    exact ⟨(World.frozen_step listed bad action).2,
      fun other => World.frozen_held reachable.orderly listed bad permitted other⟩
  · exact DSCEngine.depositCollateral_withFeeds w feeds timestamp sender token amount
  · exact DSCEngine.burnDsc_withFeeds w feeds timestamp sender amount

namespace World

/-- A defect that time does not heal: a negative answer, or one that is already too old. -/
def Outage (w : World) (token : Address) : Prop :=
  ∃ round, w.latestRoundData (w.engine.priceFeeds token) = .ok round ∧
    (round.answer.toInt < 0 ∨ round.updatedAt + OracleLib.timeout < w.timestamp)

end World

/-- Anything anyone does while one feed is silent. -/
def Silent (priceFeed : Address) (w : World) (action : Action) : Prop :=
  Permitted w action ∧ ∀ round, action ≠ .updateFeed priceFeed round

namespace World

variable {w after : World} {token priceFeed : Address} {action : Action}

theorem Outage.bad (outage : w.Outage token) : w.BadFeed token := by
  obtain ⟨round, read, defect⟩ := outage
  rcases defect with negative | stale
  · exact ⟨round, read, Or.inl negative⟩
  · exact ⟨round, read, Or.inr (Or.inr stale)⟩

theorem Relieves.trans {first second third : World} (left : Relieves first second)
    (right : Relieves second third) : Relieves first third :=
  ⟨fun user other => (left.1 user other).trans (right.1 user other),
    fun user => (right.2 user).trans (left.2 user)⟩

/-- A silent feed keeps its answer while time can only pass. -/
theorem silent_exec (orderly : w.Orderly) (silent : Silent priceFeed w action)
    (success : action.exec w = .ok after) :
    after.feeds priceFeed = w.feeds priceFeed ∧ w.timestamp ≤ after.timestamp := by
  rcases Action.exec_cases orderly.owned silent.1 success with
    ⟨sender, call, _, _, returned⟩ | ⟨address, contract, _, rfl⟩ | ⟨news, _⟩
  · have same := SameSetting.exec returned
    rw [same.feeds, same.timestamp]
    exact ⟨rfl, Nat.le_refl _⟩
  · exact ⟨rfl, Nat.le_refl _⟩
  · rcases news with ⟨reporting, round, rfl⟩ | ⟨seconds, rfl⟩
    · cases success
      have apart : priceFeed ≠ reporting := by
        intro same
        exact silent.2 round (by rw [same])
      exact ⟨Function.update_of_ne apart _ _, Nat.le_refl _⟩
    · cases success
      exact ⟨rfl, Nat.le_add_right _ _⟩

theorem Outage.step (outage : w.Outage token) (orderly : w.Orderly)
    (silent : Silent (w.engine.priceFeeds token) w action) :
    (DscProtocol.step w action).Outage token := by
  apply @Runs.commit_preserves World Action Revert Action.exec
    (fun next => next.Outage token) w action outage
  intro next success
  obtain ⟨feed, later⟩ := silent_exec orderly silent success
  obtain ⟨round, read, defect⟩ := outage
  have contracts := SameContracts.exec success
  refine ⟨round, ?_, ?_⟩
  · rw [contracts.priceFeeds]
    unfold latestRoundData at read ⊢
    rw [feed]
    exact read
  · omega

theorem Outage.run {actions : List Action} (outage : w.Outage token) (orderly : w.Orderly)
    (listed : token ∈ w.engine.collateralTokens)
    (along : Runs.Along DscProtocol.step (Silent (w.engine.priceFeeds token)) w actions) :
    (Runs.run DscProtocol.step w actions).Outage token ∧
      Relieves w (Runs.run DscProtocol.step w actions) ∧
      ∀ other, w.held other ≤ (Runs.run DscProtocol.step w actions).held other := by
  have keeps : ∀ (state : World) (action : Action),
      (state.Orderly ∧ SameContracts w state ∧ state.Outage token ∧ Relieves w state ∧
        ∀ other, w.held other ≤ state.held other) →
      Silent (w.engine.priceFeeds token) state action →
      (DscProtocol.step state action).Orderly ∧
        SameContracts w (DscProtocol.step state action) ∧
        (DscProtocol.step state action).Outage token ∧
        Relieves w (DscProtocol.step state action) ∧
        ∀ other, w.held other ≤ (DscProtocol.step state action).held other := by
    intro state action before silent
    obtain ⟨orderly, same, out, relieved, kept⟩ := before
    have here : token ∈ state.engine.collateralTokens := by
      rw [same.collateralTokens]
      exact listed
    have quiet : Silent (state.engine.priceFeeds token) state action := by
      rw [same.priceFeeds]
      exact silent
    refine ⟨orderly.step silent.1, same.trans (SameContracts.step state action),
      out.step orderly quiet, relieved.trans (frozen_step here out.bad action), ?_⟩
    intro other
    exact (kept other).trans (frozen_held orderly here out.bad silent.1 other)
  have whole := Runs.invariant keeps ⟨orderly, SameContracts.refl w, outage,
    Relieves.of_engine_eq rfl, fun _ => Nat.le_refl _⟩ along
  exact whole.2.2

end World

/-- An outage lasts until the feed reports again. However long the feed of one listed token stays
silent after a negative or outdated answer, over every run of everyone's actions no debt rises, no
recorded deposit falls and nothing leaves the engine; and at no point of the run does a call that
judges an account return, a liquidation no more than a withdrawal. -/
theorem outage_freezes_until_update {w : World} {token : Address} {actions : List Action}
    (reachable : Reachable w) (listed : token ∈ w.engine.collateralTokens)
    (outage : w.Outage token)
    (along : Runs.Along step (Silent (w.engine.priceFeeds token)) w actions) :
    ((Runs.run step w actions).Outage token ∧ World.Relieves w (Runs.run step w actions) ∧
      ∀ other, w.held other ≤ (Runs.run step w actions).held other) ∧
    ∀ sofar, sofar <+: actions → ∀ sender (call : EngineCall), call.judges = true →
      ∃ reason, call.exec standard sender (Runs.run step w sofar) = .error reason := by
  constructor
  · exact outage.run reachable.orderly listed along
  · intro sofar inside sender call judges
    have out := (outage.run reachable.orderly listed (along.initial inside)).1
    have here : token ∈ (Runs.run step w sofar).engine.collateralTokens := by
      rw [(SameContracts.run w sofar).collateralTokens]
      exact listed
    exact World.frozen here out.bad judges

section Example

open HelperConfig

/-- Four hours after the last answer. -/
def staleRun : List Action := indebted ++ [reprice (2500 * 10 ^ 8), .advance (4 * 3600)]

theorem bad_oracle_freezes_stale :
    ∃ reason, EngineCall.exec standard user (.redeemCollateral weth 1)
      (Runs.run step anvil.start staleRun) = .error reason := by
  have reachable : Reachable (Runs.run step anvil.start staleRun) :=
    ⟨anvil, anvil.start, staleRun, anvil.run_ok, by decide +kernel, rfl⟩
  have listed : weth ∈ (Runs.run step anvil.start staleRun).engine.collateralTokens := by
    decide +kernel
  have bad : (Runs.run step anvil.start staleRun).BadFeed weth := by
    refine ⟨MockV3Aggregator.updateAnswer (MockV3Aggregator.deployed ethUsdPrice 1000000)
      (BitVec.ofNat 256 (2500 * 10 ^ 8)) 1000000, rfl, Or.inr (Or.inr ?_)⟩
    decide +kernel
  exact ((bad_oracle_freezes reachable).1 weth listed bad).1 user (.redeemCollateral weth 1) rfl

/-- Another feed reports, the user tries to withdraw and a day passes. -/
def quietDay : List Action :=
  [.updateFeed wbtcUsdPriceFeed (MockV3Aggregator.deployed btcUsdPrice 1014400),
    .callEngine user (.redeemCollateral weth 1), .advance (24 * 3600)]

/-- The 10 ether are still there, and still nobody can be liquidated for them. -/
theorem outage_freezes_for_a_day :
    10 * 10 ^ 18 ≤ (Runs.run step (Runs.run step anvil.start staleRun) quietDay).held weth ∧
      ∃ reason, EngineCall.exec standard liquidator (.liquidate weth user (100 * 10 ^ 18))
        (Runs.run step (Runs.run step anvil.start staleRun) quietDay) = .error reason := by
  have reachable : Reachable (Runs.run step anvil.start staleRun) :=
    ⟨anvil, anvil.start, staleRun, anvil.run_ok, by decide +kernel, rfl⟩
  have held : (Runs.run step anvil.start staleRun).held weth = 10 * 10 ^ 18 := by decide +kernel
  have outage : (Runs.run step anvil.start staleRun).Outage weth := by
    refine ⟨MockV3Aggregator.updateAnswer (MockV3Aggregator.deployed ethUsdPrice 1000000)
      (BitVec.ofNat 256 (2500 * 10 ^ 8)) 1000000, rfl, Or.inr ?_⟩
    decide +kernel
  have other : (Runs.run step anvil.start staleRun).engine.priceFeeds weth ≠
      wbtcUsdPriceFeed := by decide +kernel
  have along : Runs.Along step
      (Silent ((Runs.run step anvil.start staleRun).engine.priceFeeds weth))
        (Runs.run step anvil.start staleRun) quietDay := by
    refine ⟨⟨by decide +kernel, ?_⟩, ⟨by decide +kernel, ?_⟩, ⟨by decide +kernel, ?_⟩, trivial⟩
    · intro round update
      exact other (Action.updateFeed.inj update).1.symm
    · intro round update
      cases update
    · intro round update
      cases update
  obtain ⟨⟨_, _, kept⟩, refused⟩ :=
    outage_freezes_until_update reachable (by decide +kernel) outage along
  rw [← held]
  exact ⟨kept weth, refused quietDay (List.prefix_refl _) liquidator _ rfl⟩

end Example

end DscProtocol
