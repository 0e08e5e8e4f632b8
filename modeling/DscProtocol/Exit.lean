import DscProtocol.Backing
import DscProtocol.HelperConfig

set_option autoImplicit false

/- Leaving the protocol: everyone repays and withdraws everything, in any interleaving. No exit
disables another, because coins and deposits are backed account by account. -/
namespace DscProtocol

namespace World

/-- The calls with which a position is closed: the whole debt, then every deposit, in any order. -/
def ExitPlan (position : Pledge.Position Address) (calls : List EngineCall) : Prop :=
  ∃ tokens : List Address, tokens.Nodup ∧ (∀ token, token ∈ tokens ↔ 0 < position.held token) ∧
    calls = (if position.debt = 0 then [] else [.burnDsc position.debt]) ++
      tokens.map fun token => .redeemCollateral token (position.held token)

/-- Fresh feeds with answers in [0, 2^96), at most 1024 of them, and token supplies below 2^112. -/
structure Moderate (w : World) : Prop where
  feeds : ∀ token ∈ w.engine.collateralTokens, ∃ round,
    w.latestRoundData (w.engine.priceFeeds token) = .ok round ∧ w.Fresh round ∧
      0 ≤ round.answer.toInt ∧ round.answer.toInt < 2 ^ 96
  supplies : ∀ token ∈ w.engine.collateralTokens, (w.tokens token).totalSupply < 2 ^ 112
  few : w.engine.collateralTokens.length ≤ 1024

/-- The account holds its debt in coins and has approved the engine for it. -/
def CanRepay (w : World) (account : Address) : Prop :=
  w.engine.dscMinted account ≤ (w.tokens w.engine.dsc).balances account ∧
    w.engine.dscMinted account ≤ (w.tokens w.engine.dsc).allowances account w.engineAddress

/-- What every exit keeps, from the state in which the first one starts. -/
structure Leaving (accounts : Finset Address) (start w : World) : Prop where
  same : SameSetting start w
  orderly : w.Orderly
  backed : ∀ token, w.deposits token ≤ w.held token
  moderate : w.Moderate
  solvent : ∀ account ∈ accounts, w.CanRepay account
  conserved : ∀ account, account ≠ w.engineAddress → ∀ token ∈ w.engine.collateralTokens,
    (w.tokens token).balances account + w.engine.collateralDeposited account token =
      (start.tokens token).balances account + start.engine.collateralDeposited account token

variable {w start : World} {account token : Address} {accounts : Finset Address}

/-- The first call of a plan: the repayment if there is a debt, else one deposit. -/
theorem ExitPlan.cons {position : Pledge.Position Address} {call : EngineCall}
    {rest : List EngineCall} (plan : ExitPlan position (call :: rest)) :
    (position.debt ≠ 0 ∧ call = .burnDsc position.debt ∧ ExitPlan ⟨position.held, 0⟩ rest) ∨
    (position.debt = 0 ∧ ∃ token, 0 < position.held token ∧
      call = .redeemCollateral token (position.held token) ∧
      ExitPlan ⟨Function.update position.held token 0, 0⟩ rest) := by
  obtain ⟨tokens, distinct, deposits, planned⟩ := plan
  by_cases clear : position.debt = 0
  · right
    simp only [clear, ↓reduceIte, List.nil_append] at planned
    cases tokens with
    | nil => cases planned
    | cons token others =>
        obtain ⟨rfl, rfl⟩ := List.cons.inj planned
        obtain ⟨absent, distinct⟩ := List.nodup_cons.mp distinct
        refine ⟨clear, token, (deposits token).mp List.mem_cons_self, rfl, others, distinct, ?_, ?_⟩
        · intro other
          change other ∈ others ↔ 0 < Function.update position.held token 0 other
          by_cases same : other = token
          · subst same
            simp only [absent, Function.update_self, Nat.lt_irrefl]
          · rw [Function.update_of_ne same, ← deposits other, List.mem_cons]
            exact ⟨Or.inr, fun inside => inside.resolve_left same⟩
        · simp only [↓reduceIte, List.nil_append]
          apply List.map_congr_left
          intro other inside
          have apart : other ≠ token := by
            rintro rfl
            exact absent inside
          exact congrArg (EngineCall.redeemCollateral other)
            (Function.update_of_ne apart 0 position.held).symm
  · left
    simp only [clear, ↓reduceIte, List.singleton_append] at planned
    obtain ⟨rfl, rfl⟩ := List.cons.inj planned
    exact ⟨clear, rfl, tokens, distinct, deposits, rfl⟩

/-- A plan with no calls left is that of an empty position. -/
theorem ExitPlan.nil {position : Pledge.Position Address} (plan : ExitPlan position []) :
    position.debt = 0 ∧ ∀ token, position.held token = 0 := by
  obtain ⟨tokens, _, deposits, planned⟩ := plan
  obtain ⟨repaid, redeemed⟩ := List.append_eq_nil_iff.mp planned.symm
  constructor
  · by_contra owed
    simp only [owed, ↓reduceIte] at repaid
    cases repaid
  · intro token
    by_contra some
    have inside := (deposits token).mpr (Nat.pos_of_ne_zero some)
    rw [List.map_eq_nil_iff.mp redeemed] at inside
    cases inside

namespace Moderate

theorem price_lt (moderate : w.Moderate) (listed : token ∈ w.engine.collateralTokens) :
    w.price token < 2 ^ 96 * 10 ^ 10 := by
  obtain ⟨round, read, _, nonneg, small⟩ := moderate.feeds token listed
  rw [price_of_round read]
  exact Nat.mul_lt_mul_of_pos_right (by omega) (by decide)

theorem product_le (moderate : w.Moderate)
    (within : w.engine.collateralDeposited account token ≤ (w.tokens token).totalSupply)
    (listed : token ∈ w.engine.collateralTokens) :
    w.price token * w.engine.collateralDeposited account token ≤ 2 ^ 96 * 10 ^ 10 * 2 ^ 112 := by
  have small := moderate.supplies token listed
  exact Nat.mul_le_mul (Nat.le_of_lt (moderate.price_lt listed)) (by omega)

/-- The whole value stays far enough below a word to be scaled to a health factor. -/
theorem value_lt (moderate : w.Moderate)
    (within : ∀ token, w.engine.collateralDeposited account token ≤ (w.tokens token).totalSupply) :
    w.value account < 2 ^ 192 := by
  have each : ∀ token ∈ w.engine.collateralTokens,
      Pledge.worth DSCEngine.precision (w.price token)
        (w.engine.collateralDeposited account token) ≤
          2 ^ 96 * 10 ^ 10 * 2 ^ 112 / DSCEngine.precision :=
    fun token listed => Nat.div_le_div_right (moderate.product_le (within token) listed)
  have sum := Pledge.value_le each
  have count := Nat.mul_le_mul_right (2 ^ 96 * 10 ^ 10 * 2 ^ 112 / DSCEngine.precision)
    moderate.few
  exact Nat.lt_of_le_of_lt (sum.trans count) (by decide)

/-- Nothing in the account's valuation can overflow, -/
theorem valued (moderate : w.Moderate)
    (within : ∀ token, w.engine.collateralDeposited account token ≤ (w.tokens token).totalSupply) :
    w.Valued account := by
  refine ⟨?_, ?_, Nat.lt_trans (moderate.value_lt within) (by decide)⟩
  · intro token listed
    obtain ⟨round, read, fresh, nonneg, _⟩ := moderate.feeds token listed
    exact ⟨round, read, fresh, nonneg,
      Nat.lt_of_lt_of_le (moderate.price_lt listed) (by decide)⟩
  · intro token listed
    exact Nat.lt_of_le_of_lt (moderate.product_le (within token) listed) (by decide)

/-- nor in its health factor. -/
theorem scales (moderate : w.Moderate)
    (within : ∀ token, w.engine.collateralDeposited account token ≤ (w.tokens token).totalSupply) :
    w.value account * DSCEngine.liquidationThreshold < wordLimit ∧
      w.value account * DSCEngine.liquidationThreshold / DSCEngine.liquidationPrecision *
        DSCEngine.precision < wordLimit := by
  have small := moderate.value_lt within
  unfold DSCEngine.liquidationThreshold DSCEngine.liquidationPrecision DSCEngine.precision wordLimit
  omega

end Moderate

namespace Leaving

variable (leaving : Leaving accounts start w)

include leaving

theorem valued (user : Address) : w.Valued user :=
  leaving.moderate.valued (leaving.orderly.deposit_le_supply leaving.backed user)

/-- An account with a debt is a real user. -/
theorem debtor_real (inside : account ∈ accounts) (owed : w.engine.dscMinted account ≠ 0) :
    account ≠ 0 ∧ account ≠ w.engineAddress := by
  have coins := (leaving.solvent account inside).1
  constructor
  · intro same
    rw [same, leaving.orderly.zero_holds_no_dsc] at coins
    rw [same] at owed
    omega
  · intro same
    rw [same] at owed
    exact owed leaving.orderly.engine_owes_nothing

theorem repays (inside : account ∈ accounts) (owed : w.engine.dscMinted account ≠ 0) :
    w.Repays account account (w.engine.dscMinted account) := by
  obtain ⟨coins, approved⟩ := leaving.solvent account inside
  have real := leaving.debtor_real inside owed
  have pulls : (w.tokens w.engine.dsc).Pulls w.engineAddress account w.engineAddress
      (w.engine.dscMinted account) :=
    ⟨Or.inr ⟨approved, real.1, leaving.orderly.engine_ne_zero⟩, real.1,
      leaving.orderly.engine_ne_zero, coins⟩
  exact ⟨Nat.le_refl _, pulls, leaving.orderly.owned, Nat.pos_of_ne_zero owed,
    pulled_held leaving.orderly pulls⟩

/-- Without a debt a whole deposit can always be taken out. -/
theorem releases (some : 0 < w.engine.collateralDeposited account token) :
    w.Releases account account token (w.engine.collateralDeposited account token) := by
  have real := leaving.orderly.deposit_real account token (by omega)
  exact ⟨Nat.le_refl _, leaving.orderly.engine_ne_zero, real.1,
    (Ledger.le_sum (fun user => w.engine.collateralDeposited user token) account).trans
      (leaving.backed token)⟩

/-- A repayment touches the payer's coins and debt and no collateral. -/
theorem repaid (inside : account ∈ accounts) (owed : w.engine.dscMinted account ≠ 0) :
    Leaving accounts start (w.repaid account account (w.engine.dscMinted account)) := by
  have repays := leaving.repays inside owed
  have real := leaving.debtor_real inside owed
  have apart : ∀ {token : Address}, token ∈ w.engine.collateralTokens → token ≠ w.engine.dsc := by
    intro token listed same
    exact leaving.orderly.dsc_not_collateral (same ▸ listed)
  refine ⟨leaving.same.trans (SameSetting.repaid w account account _),
    leaving.orderly.repaid repays, ?_, ?_, ?_, ?_⟩
  · intro token
    have balanced : Balanced token w _ := repaid_balanced leaving.orderly real.2 repays
    have backed := leaving.backed token
    unfold Balanced at balanced
    omega
  · refine ⟨leaving.moderate.feeds, fun token listed => ?_, leaving.moderate.few⟩
    rw [repaid_tokens_of_ne (apart listed)]
    exact leaving.moderate.supplies token listed
  · intro other member
    change (w.repaid account account (w.engine.dscMinted account)).engine.dscMinted other ≤
        ((w.repaid account account (w.engine.dscMinted account)).tokens w.engine.dsc).balances
          other ∧
      (w.repaid account account (w.engine.dscMinted account)).engine.dscMinted other ≤
        ((w.repaid account account (w.engine.dscMinted account)).tokens w.engine.dsc).allowances
          other w.engineAddress
    rw [repaid_minted, repaid_balances leaving.orderly repays, repaid_allowances]
    by_cases same : other = account
    · subst same
      rw [Function.update_self, Nat.sub_self]
      exact ⟨Nat.zero_le _, Nat.zero_le _⟩
    · rw [Function.update_of_ne same, Function.update_of_ne same,
        ERC20.spent_allowances_of_ne same]
      exact leaving.solvent other member
  · intro other user token listed
    rw [repaid_tokens_of_ne (apart listed)]
    exact leaving.conserved other user token listed

/-- A withdrawal touches one deposit and moves exactly that amount to its owner. -/
theorem released (listed : token ∈ w.engine.collateralTokens)
    (some : 0 < w.engine.collateralDeposited account token) :
    Leaving accounts start
      (w.released account account token (w.engine.collateralDeposited account token)) := by
  have releases := leaving.releases some
  have real := leaving.orderly.deposit_real account token (by omega)
  refine ⟨leaving.same.trans (SameSetting.released w account account token _),
    leaving.orderly.released releases, ?_, ?_, ?_, ?_⟩
  · intro other
    have balanced : Balanced other w _ := released_balanced leaving.orderly real.2.1 releases
    have backed := leaving.backed other
    unfold Balanced at balanced
    omega
  · refine ⟨leaving.moderate.feeds, fun other listed => ?_, leaving.moderate.few⟩
    by_cases same : other = token
    · subst same
      rw [released_token]
      exact leaving.moderate.supplies other listed
    · rw [released_tokens_of_ne same]
      exact leaving.moderate.supplies other listed
  · intro other member
    have apart : w.engine.dsc ≠ token := by
      intro same
      exact leaving.orderly.dsc_not_collateral (same ▸ listed)
    unfold CanRepay
    rw [show (w.released account account token _).engine.dsc = w.engine.dsc from rfl,
      released_tokens_of_ne apart]
    exact leaving.solvent other member
  · intro other user elsewhere member
    have before := leaving.conserved other user elsewhere member
    by_cases here : elsewhere = token
    · subst here
      rw [released_balances leaving.orderly releases, released_deposited]
      by_cases own : other = account
      · subst own
        rw [Ledger.move_target _ _ real.2.1.symm, Ledger.assign_self]
        omega
      · have outside : other ≠ w.engineAddress := user
        rw [Ledger.move_other _ _ outside own, Ledger.assign_row _ _ _ _ _ own]
        exact before
    · rw [released_tokens_of_ne here, released_deposited,
        Ledger.assign_column _ _ _ _ _ _ here]
      exact before

/-- One call of a plan succeeds, leaves the rest of the plan and disturbs nobody else's. -/
theorem moves {call : EngineCall} {rest : List EngineCall} (inside : account ∈ accounts)
    (plan : ExitPlan (w.position account) (call :: rest)) :
    ∃ next, call.exec standard account w = .ok next ∧ Leaving accounts start next ∧
      ExitPlan (next.position account) rest ∧
      ∀ other, other ≠ account → ∀ calls, ExitPlan (w.position other) calls →
        ExitPlan (next.position other) calls := by
  rcases plan.cons with ⟨owed, rfl, later⟩ | ⟨clear, token, some, rfl, later⟩
  · have repays := leaving.repays inside owed
    refine ⟨_, DSCEngine.burnDsc_eq_ok.mpr ⟨repays, rfl⟩, leaving.repaid inside owed, ?_, ?_⟩
    · have position : (w.repaid account account (w.engine.dscMinted account)).position account =
          ⟨w.engine.collateralDeposited account, 0⟩ := by
        unfold position
        rw [repaid_minted, Function.update_self, Nat.sub_self]
        rfl
      exact position ▸ later
    · intro other apart calls planned
      exact (@repaid_position_of_ne w other account account (w.engine.dscMinted account)
        apart).symm ▸ planned
  · have listed := leaving.orderly.registered token
      (leaving.orderly.deposit_real account token (Nat.ne_of_gt some)).2.2
    have releases := leaving.releases some
    have next := @Leaving.released w start account token accounts leaving listed some
    have debt : (w.released account account token
        (w.engine.collateralDeposited account token)).engine.dscMinted account = 0 := clear
    have passes : (w.released account account token
        (w.engine.collateralDeposited account token)).Passes account :=
      Passes.of_clear (next.valued account) debt
    refine ⟨_, DSCEngine.redeemCollateral_eq_ok.mpr
      ⟨some, leaving.orderly.idle, releases, passes, rfl⟩, next, ?_, ?_⟩
    · have position : (w.released account account token
          (w.engine.collateralDeposited account token)).position account =
            ⟨Function.update (w.engine.collateralDeposited account) token 0, 0⟩ := by
        unfold position
        rw [debt, released_deposited, Nat.sub_self, Ledger.assign, Function.update_self]
      exact position ▸ later
    · intro other apart calls planned
      exact (@released_position_of_ne w account account token other
        (w.engine.collateralDeposited account token) apart).symm ▸ planned

end Leaving

end World

/-- An engine call as a move of one account in a schedule. -/
def EngineCall.play (sender : Address) (call : EngineCall) (w : World) : Except Revert World :=
  call.exec standard sender w

/-- Any accounts that can repay their debts can all leave, in any interleaving of their exits:
every call succeeds, and each account ends without debt or deposits and, unless it is the engine
that pays them out, with exactly its recorded deposits added to its wallet. -/
theorem everyone_can_leave {w : World} {accounts : Finset Address}
    {schedule : List (Address × EngineCall)} (reachable : Reachable w) (moderate : w.Moderate)
    (solvent : ∀ account ∈ accounts, w.CanRepay account)
    (members : ∀ entry ∈ schedule, entry.1 ∈ accounts)
    (exits : ∀ account ∈ accounts,
      World.ExitPlan (w.position account) (Runs.callsOf schedule account)) :
    ∃ after, Runs.play EngineCall.play w schedule = .ok after ∧
      ∀ account ∈ accounts, after.engine.dscMinted account = 0 ∧
        (∀ token, after.engine.collateralDeposited account token = 0) ∧
        (account ≠ w.engineAddress → ∀ token ∈ w.engine.collateralTokens,
          (after.tokens token).balances account =
            (w.tokens token).balances account + w.engine.collateralDeposited account token) := by
  have start : World.Leaving accounts w w :=
    ⟨World.SameSetting.refl w, reachable.orderly, reachable.backed, moderate, solvent,
      fun _ _ _ _ => rfl⟩
  have moves : ∀ state account call rest, World.Leaving accounts w state → account ∈ accounts →
      World.ExitPlan (state.position account) (call :: rest) →
      ∃ next, EngineCall.play account call state = .ok next ∧ World.Leaving accounts w next ∧
        World.ExitPlan (next.position account) rest ∧
        ∀ other, other ≠ account → ∀ calls, World.ExitPlan (state.position other) calls →
          World.ExitPlan (next.position other) calls :=
    fun _ _ _ _ leaving inside plan => leaving.moves inside plan
  obtain ⟨after, played, left, done⟩ := Runs.play_completes moves start members exits
  refine ⟨after, played, ?_⟩
  intro account inside
  obtain ⟨repaid, emptied⟩ := (done account inside).nil
  refine ⟨repaid, emptied, ?_⟩
  intro user token listed
  have received := left.conserved account (left.same.engineAddress ▸ user) token
    (left.same.collateralTokens ▸ listed)
  have nothing : after.engine.collateralDeposited account token = 0 := emptied token
  omega

section Example

open HelperConfig

/-- A user with 10 ether of collateral against 100 coins, and the deployer with 5 ether. -/
def occupied : World :=
  Runs.run step anvil.start
    [.issue weth user (100 * 10 ^ 18),
      .callToken user weth (.approve anvil.engineAddress (10 * 10 ^ 18)),
      .callEngine user (.depositCollateralAndMintDsc weth (10 * 10 ^ 18) (100 * 10 ^ 18)),
      .callToken user anvil.dscAddress (.approve anvil.engineAddress (100 * 10 ^ 18)),
      .issue weth deployer (10 * 10 ^ 18),
      .callToken deployer weth (.approve anvil.engineAddress (5 * 10 ^ 18)),
      .callEngine deployer (.depositCollateral weth (5 * 10 ^ 18))]

theorem occupied_reachable : Reachable occupied :=
  ⟨anvil, anvil.start, _, anvil.run_ok, by decide +kernel, rfl⟩

theorem occupied_moderate : occupied.Moderate := by
  refine ⟨?_, ?_, ?_⟩
  · apply forall_listed
    · exact ⟨MockV3Aggregator.deployed ethUsdPrice 1000000, rfl, by decide +kernel,
        by decide +kernel, by decide +kernel⟩
    · exact ⟨MockV3Aggregator.deployed btcUsdPrice 1000000, rfl, by decide +kernel,
        by decide +kernel, by decide +kernel⟩
  · apply forall_listed <;> decide +kernel
  · have tokens : occupied.engine.collateralTokens = [weth, wbtc] := anvil_tokens _
    rw [tokens]
    decide

/-- Both accounts have deposits in ether only. -/
theorem occupied_deposits {account : Address}
    (wethDeposited : 0 < occupied.engine.collateralDeposited account weth)
    (wbtcUnused : occupied.engine.collateralDeposited account wbtc = 0) (token : Address) :
    token ∈ [weth] ↔ 0 < (occupied.position account).held token := by
  change token ∈ [weth] ↔ 0 < occupied.engine.collateralDeposited account token
  rw [List.mem_singleton]
  constructor
  · intro same
    rw [same]
    exact wethDeposited
  · intro some
    by_contra other
    have nothing : occupied.engine.collateralDeposited account token = 0 :=
      only_ether_deposited _ occupied_reachable.orderly wbtcUnused other
    omega

/-- The deployer's withdrawal comes between the user's repayment and withdrawal. -/
def interleaved : List (Address × EngineCall) :=
  [(user, .burnDsc (100 * 10 ^ 18)), (deployer, .redeemCollateral weth (5 * 10 ^ 18)),
    (user, .redeemCollateral weth (10 * 10 ^ 18))]

theorem everyone_can_leave_interleaved :
    ∃ after, Runs.play EngineCall.play occupied interleaved = .ok after ∧
      (after.tokens weth).balances user =
        (occupied.tokens weth).balances user +
          occupied.engine.collateralDeposited user weth := by
  have solvent : ∀ account ∈ ({user, deployer} : Finset Address), occupied.CanRepay account := by
    intro account inside
    rcases Finset.mem_insert.mp inside with rfl | rest
    · exact ⟨by decide +kernel, by decide +kernel⟩
    · obtain rfl := Finset.mem_singleton.mp rest
      exact ⟨by decide +kernel, by decide +kernel⟩
  have members : ∀ entry ∈ interleaved, entry.1 ∈ ({user, deployer} : Finset Address) := by
    decide +kernel
  have exits : ∀ account ∈ ({user, deployer} : Finset Address),
      World.ExitPlan (occupied.position account) (Runs.callsOf interleaved account) := by
    intro account inside
    rcases Finset.mem_insert.mp inside with rfl | rest
    · exact ⟨[weth], by decide, occupied_deposits (by decide +kernel) (by decide +kernel),
        by decide +kernel⟩
    · obtain rfl := Finset.mem_singleton.mp rest
      exact ⟨[weth], by decide, occupied_deposits (by decide +kernel) (by decide +kernel),
        by decide +kernel⟩
  obtain ⟨after, played, left⟩ :=
    everyone_can_leave occupied_reachable occupied_moderate solvent members exits
  have listed : weth ∈ occupied.engine.collateralTokens := by
    have tokens : occupied.engine.collateralTokens = [weth, wbtc] := anvil_tokens _
    rw [tokens]
    exact List.mem_cons_self
  exact ⟨after, played,
    (left user (Finset.mem_insert_self _ _)).2.2 (by decide +kernel) weth listed⟩

end Example

end DscProtocol
