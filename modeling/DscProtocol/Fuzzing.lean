import DscProtocol.Handler
import DscProtocol.Solvency
import DscProtocol.VaultCalls
import Mathlib.Data.List.GetD

set_option autoImplicit false

/- What one call of the handler does: a few permitted actions at unmoved prices, or nothing. -/
namespace DscProtocol

/-- What an action issues of a token. -/
def Action.issues (token : Address) (action : Action) : Nat :=
  match action with
  | issue address _ amount => if address = token then amount else 0
  | _ => 0

namespace World

/-- A state that a run without news leads to. -/
structure Fuzzing (start w : World) : Prop where
  reachable : Reachable w
  healthy : w.AllHealthy
  contracts : SameContracts start w
  feeds : w.feeds = start.feeds
  timestamp : w.timestamp = start.timestamp

variable {start w after : World} {action : Action} {token : Address}

theorem rising_of_quiet (permitted : Permitted w action) (quiet : ¬ action.News) :
    Rising w action := by
  refine ⟨permitted, ?_⟩
  cases action with
  | updateFeed priceFeed round => exact absurd (Or.inl ⟨priceFeed, round, rfl⟩) quiet
  | callEngine | callToken | callCoin | withdraw | issue | advance => trivial

theorem Fuzzing.exec (fuzzing : Fuzzing start w) (permitted : Permitted w action)
    (quiet : ¬ action.News) (success : action.exec w = .ok after) : Fuzzing start after := by
  have stepped : step w action = after := Runs.commit_eq_of_ok success
  have same : after.feeds = w.feeds ∧ after.timestamp = w.timestamp := by
    rcases Action.exec_cases fuzzing.reachable.orderly.owned permitted success with
      ⟨sender, call, _, _, returned⟩ | ⟨address, contract, _, rfl⟩ | ⟨news, _⟩
    · have setting := SameSetting.exec returned
      exact ⟨setting.feeds, setting.timestamp⟩
    · exact ⟨rfl, rfl⟩
    · exact absurd news quiet
  refine ⟨?_, ?_, fuzzing.contracts.trans (SameContracts.exec success),
    same.1.trans fuzzing.feeds, same.2.trans fuzzing.timestamp⟩
  · rw [← stepped]
    exact @Reachable.run w [action] fuzzing.reachable ⟨permitted, trivial⟩
  · rw [← stepped]
    exact fuzzing.healthy.step (rising_of_quiet permitted quiet)

/-- There is more of a collateral token only where it is issued. -/
theorem exec_totalSupply (orderly : w.Orderly) (permitted : Permitted w action)
    (notCoin : token ≠ w.engine.dsc) (success : action.exec w = .ok after) :
    (after.tokens token).totalSupply =
      (w.tokens token).totalSupply + action.issues token := by
  rcases Action.exec_cases orderly.owned permitted success with
    ⟨sender, call, rfl, _, returned⟩ | ⟨address, contract, change, rfl⟩ |
    ⟨news, feeds, timestamp, rfl⟩
  · have all : token ≠ after.engine.dsc ∧
        (after.tokens token).totalSupply = (w.tokens token).totalSupply := by
      apply EngineCall.exec_preserves (fun state => token ≠ state.engine.dsc ∧
        (state.tokens token).totalSupply = (w.tokens token).totalSupply) _ _ _ _
        ⟨notCoin, rfl⟩ returned
      · intro state other amount before _ _
        refine ⟨before.1, Eq.trans ?_ before.2⟩
        by_cases here : token = other
        · rw [here, received_token, ERC20.pulled_totalSupply]
        · rw [received_tokens_of_ne here]
      · intro state source target other amount before _ _
        refine ⟨before.1, Eq.trans ?_ before.2⟩
        by_cases here : token = other
        · rw [here, released_token]
          rfl
        · rw [released_tokens_of_ne here]
      · intro state amount before _ _
        refine ⟨before.1, Eq.trans ?_ before.2⟩
        rw [issued_tokens_of_ne before.1]
      · intro state onBehalfOf amount before _ _
        refine ⟨before.1, Eq.trans ?_ before.2⟩
        rw [repaid_tokens_of_ne before.1]
    exact all.2
  · by_cases here : token = address
    · subst here
      rw [tokens_setToken]
      cases change with
      | transferFrom pulls => exact ERC20.pulled_totalSupply
      | burnFrom => exact absurd rfl notCoin
      | issue real fits =>
          simp only [Action.issues, ↓reduceIte]
          rfl
      | transfer | approve | withdraw => rfl
    · have none : action.issues token = 0 := by
        cases change with
        | issue real fits => simp only [Action.issues, Ne.symm here, ↓reduceIte]
        | _ => rfl
      rw [tokens_setToken_of_ne contract here, none, Nat.add_zero]
  · have none : action.issues token = 0 := by
      rcases news with ⟨priceFeed, round, rfl⟩ | ⟨seconds, rfl⟩
      · rfl
      · rfl
    rw [none, Nat.add_zero]
    rfl

/-- Feeds that were fine when the campaign started are still fine. -/
theorem Fuzzing.moderate (fuzzing : Fuzzing start w) (moderate : start.Moderate)
    (supplies : ∀ token ∈ w.engine.collateralTokens, (w.tokens token).totalSupply < 2 ^ 112) :
    w.Moderate where
  feeds := by
    intro token listed
    rw [fuzzing.contracts.collateralTokens] at listed
    obtain ⟨round, read, fresh, bounds⟩ := moderate.feeds token listed
    refine ⟨round, ?_, ?_, bounds⟩
    · rw [fuzzing.contracts.priceFeeds]
      unfold latestRoundData at read ⊢
      rw [fuzzing.feeds]
      exact read
    · unfold Fresh
      rw [fuzzing.timestamp]
      exact fresh
  supplies := supplies
  few := by
    rw [fuzzing.contracts.collateralTokens]
    exact moderate.few

end World

namespace Handler

open Checked

variable {c after : Campaign} {sender : Address} {seed amount : Nat}

theorem picked_mem {users : List Address} (some : users.length ≠ 0) :
    users.getD (seed % users.length) 0 ∈ users := by
  have inside := Nat.mod_lt seed (Nat.pos_of_ne_zero some)
  rw [List.getD_eq_getElem users 0 inside]
  exact List.getElem_mem inside

/-- A call of `mintDSC` that returns mints for one of the depositors, or does nothing. -/
theorem mintDSC_returns (returned : mintDSC amount seed c = .ok after) :
    after = c ∨ ∃ user ∈ c.handler.usersWithCollateralDeposited, ∃ minted w,
      (Action.callEngine user (.mintDsc minted)).exec c.world = .ok w ∧
      after = { world := w
                handler := { c.handler with
                  timesMintIsCalled := c.handler.timesMintIsCalled + 1 } } := by
  unfold mintDSC at returned
  dsimp only at returned
  split at returned
  · cases returned
    exact Or.inl rfl
  · rename_i some
    obtain ⟨⟨debt, value⟩, _, returned⟩ := bind_eq_ok.mp returned
    obtain ⟨most, _, returned⟩ := bind_eq_ok.mp returned
    split at returned
    · cases returned
      exact Or.inl rfl
    · obtain ⟨minted, _, returned⟩ := bind_eq_ok.mp returned
      split at returned
      · cases returned
        exact Or.inl rfl
      · obtain ⟨w, played, returned⟩ := bind_eq_ok.mp returned
        obtain ⟨times, counted, returned⟩ := bind_eq_ok.mp returned
        obtain ⟨_, rfl⟩ := add_eq_ok.mp counted
        cases returned
        exact Or.inr ⟨_, picked_mem some, minted, w, played, rfl⟩

/-- A call of `depositCollateral` that returns has issued, approved and deposited. -/
theorem depositCollateral_returns (word : amount < wordLimit)
    (returned : depositCollateral sender seed amount c = .ok after) :
    ∃ bounded first second third, bounded ≤ maxDepositSize ∧
      (Action.issue (c.handler.getCollateralFromSeed seed) sender bounded).exec c.world =
        .ok first ∧
      (Action.callToken sender (c.handler.getCollateralFromSeed seed)
        (.approve first.engineAddress bounded)).exec first = .ok second ∧
      (Action.callEngine sender (.depositCollateral (c.handler.getCollateralFromSeed seed)
        bounded)).exec second = .ok third ∧
      after = { world := third
                handler := { c.handler with usersWithCollateralDeposited :=
                  c.handler.usersWithCollateralDeposited ++ [sender] } } := by
  obtain ⟨bounded, bounds, returned⟩ := bind_eq_ok.mp returned
  obtain ⟨first, issued, returned⟩ := bind_eq_ok.mp returned
  obtain ⟨second, approved, returned⟩ := bind_eq_ok.mp returned
  obtain ⟨third, deposited, returned⟩ := bind_eq_ok.mp returned
  obtain ⟨result, lands, _, high, _⟩ :=
    @StdUtils.bound_within amount 1 maxDepositSize (by decide) (by decide) word
  rw [lands] at bounds
  cases bounds
  cases returned
  exact ⟨bounded, first, second, third, high, issued, approved, deposited, rfl⟩

theorem redeemCollateral_returns
    (returned : redeemCollateral sender seed amount c = .ok after) :
    after = c ∨ ∃ bounded w, (Action.callEngine c.handler.address
        (.redeemCollateral (c.handler.getCollateralFromSeed seed) bounded)).exec c.world = .ok w ∧
      after = { c with world := w } := by
  obtain ⟨bounded, _, returned⟩ := bind_eq_ok.mp returned
  split at returned
  · cases returned
    exact Or.inl rfl
  · obtain ⟨w, redeemed, returned⟩ := bind_eq_ok.mp returned
    cases returned
    exact Or.inr ⟨bounded, w, redeemed, rfl⟩

end Handler

namespace Campaign

/-- A campaign from `start` in which this many calls can still be made without the tokens issued to
depositors getting out of bounds. -/
structure Sound (start : World) (left : Nat) (c : Campaign) : Prop where
  fuzzing : World.Fuzzing start c.world
  tokens : c.world.engine.collateralTokens = [c.handler.weth, c.handler.wbtc]
  outside : c.handler.address ≠ c.world.engineAddress
  room : ∀ token ∈ c.world.engine.collateralTokens,
    (c.world.tokens token).totalSupply + left * Handler.maxDepositSize < 2 ^ 112
  real : ∀ user ∈ c.handler.usersWithCollateralDeposited,
    user ≠ 0 ∧ user ≠ c.world.engineAddress
  counted : c.handler.timesMintIsCalled + left < wordLimit

open Handler

variable {start w first : World} {left seed amount : Nat} {c after : Campaign}
  {sender token : Address}

/-- Unused room stays room. -/
theorem Sound.less (sound : Sound start (left + 1) c) : Sound start left c where
  fuzzing := sound.fuzzing
  tokens := sound.tokens
  outside := sound.outside
  room := by
    intro token listed
    have room := sound.room token listed
    rw [Nat.succ_mul] at room
    omega
  real := sound.real
  counted := by
    have counted := sound.counted
    omega

theorem Sound.seed_listed (sound : Sound start left c) :
    c.handler.getCollateralFromSeed seed ∈ c.world.engine.collateralTokens := by
  rw [sound.tokens]
  unfold getCollateralFromSeed
  split
  · exact List.mem_cons_self
  · exact List.mem_cons_of_mem _ List.mem_cons_self

theorem Sound.moderate (sound : Sound start left c) (moderate : start.Moderate) :
    c.world.Moderate := by
  apply sound.fuzzing.moderate moderate
  intro token listed
  have room := sound.room token listed
  omega

theorem call_permitted (user : sender ≠ w.engineAddress) (call : EngineCall) :
    Permitted w (.callEngine sender call) :=
  ⟨fun same => user (Option.some.inj same), trivial⟩

/-- An engine call leaves the supply of the collateral tokens alone. -/
theorem call_room {call : EngineCall} (sound : Sound start (left + 1) c)
    (user : sender ≠ c.world.engineAddress)
    (success : (Action.callEngine sender call).exec c.world = .ok w) :
    ∀ token ∈ w.engine.collateralTokens,
      (w.tokens token).totalSupply + left * maxDepositSize < 2 ^ 112 := by
  intro token listed
  have orderly := sound.fuzzing.reachable.orderly
  rw [(SameContracts.exec success).collateralTokens] at listed
  rw [World.exec_totalSupply orderly (call_permitted user call) (orderly.listed_ne_dsc listed)
    success]
  exact sound.less.room token listed

theorem mint_sound (sound : Sound start (left + 1) c)
    (returned : mintDSC amount seed c = .ok after) : Sound start left after := by
  rcases mintDSC_returns returned with rfl | ⟨user, inside, minted, w, success, rfl⟩
  · exact sound.less
  · have real := sound.real user inside
    have same := SameContracts.exec success
    have counted := sound.counted
    have next := sound.fuzzing.exec (call_permitted real.2 _) (Action.quiet nofun nofun) success
    refine ⟨next, ?_, ?_, call_room sound real.2 success, ?_, ?_⟩
    · rw [same.collateralTokens]
      exact sound.tokens
    · rw [same.engineAddress]
      exact sound.outside
    · rw [same.engineAddress]
      exact sound.real
    · change c.handler.timesMintIsCalled + 1 + left < wordLimit
      omega

theorem redeem_sound (sound : Sound start (left + 1) c)
    (returned : redeemCollateral sender seed amount c = .ok after) : Sound start left after := by
  rcases redeemCollateral_returns returned with rfl | ⟨bounded, w, success, rfl⟩
  · exact sound.less
  · have same := SameContracts.exec success
    have next := sound.fuzzing.exec (call_permitted sound.outside _) (Action.quiet nofun nofun)
      success
    refine ⟨next, ?_, ?_, call_room sound sound.outside success, ?_, sound.less.counted⟩
    · rw [same.collateralTokens]
      exact sound.tokens
    · rw [same.engineAddress]
      exact sound.outside
    · rw [same.engineAddress]
      exact sound.real

theorem issue_real (success : (Action.issue token sender amount).exec w = .ok first) :
    sender ≠ 0 := by
  obtain ⟨_, minted, _⟩ := Checked.bind_eq_ok.mp success
  exact (ERC20.mintInternal_eq_ok.mp minted).1

/-- The two actions before a deposit. -/
structure Approves (start : World) (sender token : Address) (amount : Nat)
    (w first second : World) : Prop where
  mayIssue : Permitted w (.issue token sender amount)
  mayApprove : Permitted first (.callToken sender token (.approve first.engineAddress amount))
  middle : World.Fuzzing start first
  fuzzing : World.Fuzzing start second
  sameFirst : SameContracts w first
  same : SameContracts w second

theorem approves (fuzzing : World.Fuzzing start w) (notCoin : token ≠ w.engine.dsc)
    (user : sender ≠ w.engineAddress) (word : amount < wordLimit) {second : World}
    (issued : (Action.issue token sender amount).exec w = .ok first)
    (approved : (Action.callToken sender token (.approve first.engineAddress amount)).exec first =
      .ok second) : Approves start sender token amount w first second := by
  have sameFirst := SameContracts.exec issued
  have mayIssue : Permitted w (.issue token sender amount) := ⟨nofun, notCoin, user⟩
  have mayApprove : Permitted first
      (.callToken sender token (.approve first.engineAddress amount)) := by
    refine ⟨fun own => user ?_, word⟩
    rw [← sameFirst.engineAddress]
    exact Option.some.inj own
  have middle := fuzzing.exec mayIssue (Action.quiet nofun nofun) issued
  exact ⟨mayIssue, mayApprove, middle,
    middle.exec mayApprove (Action.quiet nofun nofun) approved, sameFirst,
    sameFirst.trans (SameContracts.exec approved)⟩

theorem Sound.notCoin (sound : Sound start left c)
    (listed : token ∈ c.world.engine.collateralTokens) : token ≠ c.world.engine.dsc :=
  sound.fuzzing.reachable.orderly.listed_ne_dsc listed

/-- Of the three actions behind a deposit only the first issues anything. -/
theorem deposit_sound (sound : Sound start (left + 1) c) (user : sender ≠ c.world.engineAddress)
    (word : amount < wordLimit) (returned : depositCollateral sender seed amount c = .ok after) :
    Sound start left after := by
  obtain ⟨bounded, first, second, third, small, issued, approved, deposited, rfl⟩ :=
    depositCollateral_returns word returned
  have notCoin := sound.notCoin (@Sound.seed_listed start left seed c sound.less)
  have path := approves sound.fuzzing notCoin user (Nat.lt_of_le_of_lt small (by decide)) issued
    approved
  have same := path.same.trans (SameContracts.exec deposited)
  have mayDeposit : Permitted second (.callEngine sender
      (.depositCollateral (c.handler.getCollateralFromSeed seed) bounded)) := by
    apply call_permitted
    rw [path.same.engineAddress]
    exact user
  refine ⟨path.fuzzing.exec mayDeposit (Action.quiet nofun nofun) deposited, ?_, ?_, ?_, ?_,
    sound.less.counted⟩
  · rw [same.collateralTokens]
    exact sound.tokens
  · rw [same.engineAddress]
    exact sound.outside
  · intro token inside
    rw [same.collateralTokens] at inside
    have coin := sound.notCoin inside
    have room := sound.room token inside
    have grown : (third.tokens token).totalSupply =
        (c.world.tokens token).totalSupply +
          Action.issues token (.issue (c.handler.getCollateralFromSeed seed) sender bounded) := by
      rw [World.exec_totalSupply path.fuzzing.reachable.orderly mayDeposit
          (by rw [path.same.dsc]; exact coin) deposited,
        World.exec_totalSupply path.middle.reachable.orderly path.mayApprove
          (by rw [path.sameFirst.dsc]; exact coin) approved,
        World.exec_totalSupply sound.fuzzing.reachable.orderly path.mayIssue coin issued]
      rfl
    have most : Action.issues token (.issue (c.handler.getCollateralFromSeed seed) sender bounded) ≤
        maxDepositSize := by
      change (if _ = token then bounded else 0) ≤ maxDepositSize
      split
      · exact small
      · exact Nat.zero_le _
    rw [Nat.succ_mul] at room
    rw [grown]
    omega
  · intro account inside
    rw [same.engineAddress]
    rcases List.mem_append.mp inside with before | now
    · exact sound.real account before
    · rw [List.mem_singleton.mp now]
      exact ⟨issue_real issued, user⟩

/-- Every call of the fuzzer uses up the room for one deposit at most. -/
theorem Sound.step {entry : Address × HandlerCall} (sound : Sound start (left + 1) c)
    (fuzzed : Fuzzed c entry) : Sound start left (Campaign.step c entry) := by
  apply Runs.commit_preserves sound.less
  intro next returned
  obtain ⟨sender, call⟩ := entry
  cases call with
  | mintDSC amount seed => exact mint_sound sound returned
  | depositCollateral seed amount => exact deposit_sound sound fuzzed.1 fuzzed.2 returned
  | redeemCollateral seed amount => exact redeem_sound sound returned

theorem Sound.run {calls : List (Address × HandlerCall)}
    (sound : Sound start (left + calls.length) c)
    (along : Runs.Along Campaign.step Fuzzed c calls) :
    Sound start left (Runs.run Campaign.step c calls) := by
  have spends : ∀ left (state : Campaign) entry, Sound start (left + 1) state →
      Fuzzed state entry → Sound start left (Campaign.step state entry) :=
    fun _ _ _ sound fuzzed => sound.step fuzzed
  exact Runs.countdown spends sound along

end Campaign

end DscProtocol
