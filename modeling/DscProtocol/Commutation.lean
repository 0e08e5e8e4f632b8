import DscProtocol.AccountView

set_option autoImplicit false

/- Calls of different users commute: each is decided by its caller's view, leaves every other view
alone, and the views together with the backing make up the whole state. -/
namespace DscProtocol

attribute [ext] ERC20 DSCEngine World

namespace World

variable {w first second : World} {sender account token : Address} {call : EngineCall}

theorem exec_outside (own : call.Own) (apart : account ≠ sender) :
    Locality.Outside Action.exec (fun w => account ≠ w.engineAddress) (SameView account)
      (.callEngine sender call) :=
  fun _ _ notEngine success =>
    exec_view success apart notEngine (own account) (fun _ => own)

/-- The engine itself has no position. -/
theorem Orderly.engine_position (orderly : w.Orderly) :
    w.position w.engineAddress = ⟨fun _ => 0, 0⟩ := by
  have nothing : w.engine.collateralDeposited w.engineAddress = fun _ => 0 := by
    funext token
    by_contra some
    exact (orderly.deposit_real w.engineAddress token some).2.1 rfl
  unfold position
  rw [nothing, orderly.engine_owes_nothing]

/-- All positions together are the engine's two tables. -/
theorem positions_eq (same : ∀ account, second.position account = first.position account) :
    second.engine.collateralDeposited = first.engine.collateralDeposited ∧
      second.engine.dscMinted = first.engine.dscMinted :=
  ⟨funext fun account => congrArg Pledge.Position.held (same account),
    funext fun account => congrArg Pledge.Position.debt (same account)⟩

/-- Two orderly states that every user sees alike and in which the engine holds the same tokens
are the same state. -/
theorem eq_of_views (orderly : first.Orderly) (orderly' : second.Orderly)
    (setting : SameSetting first second)
    (views : ∀ account, account ≠ first.engineAddress → SameView account first second)
    (held : ∀ token, second.deposits token = first.deposits token →
      second.held token = first.held token) : second = first := by
  have positions : ∀ account, second.position account = first.position account := by
    intro account
    by_cases engine : account = first.engineAddress
    · subst engine
      have there := orderly'.engine_position
      rw [setting.engineAddress] at there
      rw [orderly.engine_position, there]
    · exact (views account engine).position
  obtain ⟨deposits, debts⟩ := positions_eq positions
  have balances : ∀ token, (second.tokens token).balances = (first.tokens token).balances := by
    intro token
    funext account
    by_cases engine : account = first.engineAddress
    · subst engine
      have paid := held token (deposits_of_collateralDeposited_eq deposits)
      unfold World.held at paid
      rw [setting.engineAddress] at paid
      exact paid
    · exact ((views account engine).wallet token).1
  have tokens : second.tokens = first.tokens := by
    funext token
    apply ERC20.ext (balances token)
    · funext account
      by_cases engine : account = first.engineAddress
      · subst engine
        funext spender
        have there := orderly'.engine_allows_nothing token spender
        rw [setting.engineAddress] at there
        rw [orderly.engine_allows_nothing, there]
      · exact ((views account engine).wallet token).2
    · rw [← (orderly.sound token).conserved, ← (orderly'.sound token).conserved, balances token]
  have engine : second.engine = first.engine :=
    DSCEngine.ext setting.status setting.priceFeeds deposits debts setting.collateralTokens
      setting.dsc setting.poolAddress
  exact World.ext setting.engineAddress engine setting.pool tokens setting.dscOwner setting.feeds
    setting.etherBalance setting.timestamp

/-- A step of a user keeps holdings and deposits in step. -/
theorem step_balanced (orderly : w.Orderly) (user : sender ≠ w.engineAddress) (token : Address) :
    Balanced token w (step w (.callEngine sender call)) :=
  @Runs.commit_preserves World Action Revert Action.exec (Balanced token w) w
    (.callEngine sender call) (Balanced.refl token w)
    (fun _ success => exec_balanced orderly user success)

theorem SameSetting.step (w : World) (sender : Address) (call : EngineCall) :
    SameSetting w (step w (.callEngine sender call)) :=
  @Runs.commit_preserves World Action Revert Action.exec (SameSetting w) w
    (.callEngine sender call) (SameSetting.refl w) (fun _ success => SameSetting.exec success)

theorem step_supply_le (orderly : w.Orderly) (own : call.Own) :
    (step w (.callEngine sender call)).supply ≤ w.supply + call.minting sender w :=
  @Runs.commit_preserves World Action Revert Action.exec
    (fun next => next.supply ≤ w.supply + call.minting sender w) w (.callEngine sender call)
    (Nat.le_add_right _ _) (fun _ success => exec_supply_le orderly own success)

end World

section Pair

variable {w : World} {sender other : Address} {call otherCall : EngineCall}

/-- After the other call this one is as ready as before. -/
theorem Reachable.ready_after (reachable : Reachable w) (apart : sender ≠ other)
    (user : sender ≠ w.engineAddress) (otherUser : other ≠ w.engineAddress)
    (otherOwn : otherCall.Own)
    (room : w.supply + call.minting sender w + otherCall.minting other w < wordLimit) :
    World.Ready sender call w ∧
      World.Ready sender call (step w (.callEngine other otherCall)) := by
  have view : World.SameView sender w (step w (.callEngine other otherCall)) :=
    (World.exec_outside otherOwn apart).commit (World.SameView.equivalence sender) user
  have supply := @World.step_supply_le w other otherCall reachable.orderly otherOwn
  have minting : call.minting sender (step w (.callEngine other otherCall)) =
      call.minting sender w := view.minting_eq user
  refine ⟨⟨reachable.sturdy, user, by omega⟩, ⟨(reachable.call otherUser otherCall).sturdy, ?_,
    by omega⟩⟩
  rw [view.setting.engineAddress]
  exact user

/-- The caller sees its own call end the same before and after the other one. -/
theorem Reachable.caller_views_agree (reachable : Reachable w) (apart : sender ≠ other)
    (user : sender ≠ w.engineAddress) (otherUser : other ≠ w.engineAddress) (own : call.Own)
    (otherOwn : otherCall.Own)
    (room : w.supply + call.minting sender w + otherCall.minting other w < wordLimit) :
    World.SameView sender
      (step (step w (.callEngine sender call)) (.callEngine other otherCall))
      (step (step w (.callEngine other otherCall)) (.callEngine sender call)) := by
  obtain ⟨ready, readyAfter⟩ := reachable.ready_after apart user otherUser otherOwn room
  have there := (World.SameSetting.step w sender call).engineAddress
  exact Locality.views_agree (World.SameView.equivalence sender) (World.exec_local own)
    (World.exec_outside otherOwn apart) ready user readyAfter (there.symm ▸ user)

/-- Calls keep what the engine holds in step with the deposits, in whatever order they come. -/
theorem Reachable.balanced_after (reachable : Reachable w) (user : sender ≠ w.engineAddress)
    (otherUser : other ≠ w.engineAddress) (token : Address) :
    World.Balanced token w
      (step (step w (.callEngine sender call)) (.callEngine other otherCall)) := by
  have there := (World.SameSetting.step w sender call).engineAddress
  exact (World.step_balanced reachable.orderly user token).trans
    (World.step_balanced (reachable.call user call).orderly (there.symm ▸ otherUser) token)

end Pair

section Orders

variable {w : World} {first second : Address} {firstCall secondCall : EngineCall}

/-- Every account but the engine sees the same after both orders. -/
theorem Reachable.all_views_agree (reachable : Reachable w) (apart : first ≠ second)
    (firstUser : first ≠ w.engineAddress) (secondUser : second ≠ w.engineAddress)
    (firstOwn : firstCall.Own) (secondOwn : secondCall.Own)
    (room : w.supply + firstCall.minting first w + secondCall.minting second w < wordLimit)
    {account : Address} (notEngine : account ≠ w.engineAddress) :
    World.SameView account
      (step (step w (.callEngine second secondCall)) (.callEngine first firstCall))
      (step (step w (.callEngine first firstCall)) (.callEngine second secondCall)) := by
  by_cases isFirst : account = first
  · subst isFirst
    exact (reachable.caller_views_agree apart firstUser secondUser firstOwn secondOwn room).symm
  by_cases isSecond : account = second
  · subst isSecond
    have swapped : w.supply + secondCall.minting account w + firstCall.minting first w <
        wordLimit := by omega
    exact reachable.caller_views_agree apart.symm secondUser firstUser secondOwn firstOwn swapped
  have firstThere := (World.SameSetting.step w first firstCall).engineAddress
  have secondThere := (World.SameSetting.step w second secondCall).engineAddress
  exact Locality.bystander_views_agree (World.SameView.equivalence account)
    (World.exec_outside secondOwn isSecond) (World.exec_outside firstOwn isFirst) notEngine
    (secondThere.symm ▸ notEngine) (firstThere.symm ▸ notEngine)

end Orders

/-- Calls of two users about their own positions commute: neither enables or disables the other,
and both orders end in the same state, as long as the supply has room for what both mint. -/
theorem calls_commute {w : World} {first second : Address} {firstCall secondCall : EngineCall}
    (reachable : Reachable w) (apart : first ≠ second) (firstUser : first ≠ w.engineAddress)
    (secondUser : second ≠ w.engineAddress) (firstOwn : firstCall.Own)
    (secondOwn : secondCall.Own)
    (room : w.supply + firstCall.minting first w + secondCall.minting second w < wordLimit) :
    ((∃ next, firstCall.exec standard first w = .ok next) ↔
        ∃ next, firstCall.exec standard first (step w (.callEngine second secondCall)) =
          .ok next) ∧
      ((∃ next, secondCall.exec standard second w = .ok next) ↔
        ∃ next, secondCall.exec standard second (step w (.callEngine first firstCall)) =
          .ok next) ∧
      step (step w (.callEngine second secondCall)) (.callEngine first firstCall) =
        step (step w (.callEngine first firstCall)) (.callEngine second secondCall) := by
  have swapped : w.supply + secondCall.minting second w + firstCall.minting first w <
      wordLimit := by omega
  obtain ⟨ready, readyAfter⟩ :=
    reachable.ready_after apart firstUser secondUser secondOwn room
  obtain ⟨readyToo, readyTooAfter⟩ :=
    reachable.ready_after apart.symm secondUser firstUser firstOwn swapped
  refine ⟨?_, ?_, ?_⟩
  · exact Locality.returns_after_iff (World.SameView.equivalence first)
      (World.exec_local firstOwn) (World.exec_outside secondOwn apart) ready firstUser readyAfter
  · exact Locality.returns_after_iff (World.SameView.equivalence second)
      (World.exec_local secondOwn) (World.exec_outside firstOwn apart.symm) readyToo secondUser
      readyTooAfter
  · have same := World.SameSetting.step w
    have firstThere := (same first firstCall).engineAddress
    have secondThere := (same second secondCall).engineAddress
    have forward := (same first firstCall).trans (World.SameSetting.step _ second secondCall)
    have backward := (same second secondCall).trans (World.SameSetting.step _ first firstCall)
    apply World.eq_of_views
      ((reachable.call firstUser firstCall).call (firstThere.symm ▸ secondUser) secondCall).orderly
      ((reachable.call secondUser secondCall).call (secondThere.symm ▸ firstUser)
        firstCall).orderly
      (forward.symm.trans backward)
    · intro account notEngine
      exact (reachable.all_views_agree apart firstUser secondUser firstOwn secondOwn room
        (forward.engineAddress ▸ notEngine)).symm
    · intro token deposits
      have left := @Reachable.balanced_after w first second firstCall secondCall reachable
        firstUser secondUser token
      have right := @Reachable.balanced_after w second first secondCall firstCall reachable
        secondUser firstUser token
      unfold World.Balanced at left right
      omega

section Example

open HelperConfig

/-- The deployer is about to join the user who already owes 100 coins. -/
def twoUsers : World :=
  Runs.run step anvil.start
    (indebted ++ [.issue weth deployer (10 * 10 ^ 18),
      .callToken deployer weth (.approve anvil.engineAddress (5 * 10 ^ 18))])

theorem calls_commute_for_two :
    (step (step twoUsers (.callEngine deployer
        (.depositCollateralAndMintDsc weth (5 * 10 ^ 18) (1000 * 10 ^ 18))))
      (.callEngine user (.mintDsc (50 * 10 ^ 18)))).supply = 1150 * 10 ^ 18 ∧
    step (step twoUsers (.callEngine user (.mintDsc (50 * 10 ^ 18)))) (.callEngine deployer
        (.depositCollateralAndMintDsc weth (5 * 10 ^ 18) (1000 * 10 ^ 18))) =
      step (step twoUsers (.callEngine deployer
          (.depositCollateralAndMintDsc weth (5 * 10 ^ 18) (1000 * 10 ^ 18))))
        (.callEngine user (.mintDsc (50 * 10 ^ 18))) := by
  have reachable : Reachable twoUsers :=
    ⟨anvil, anvil.start, _, anvil.run_ok, by decide +kernel, rfl⟩
  have mintOwn : (EngineCall.mintDsc (50 * 10 ^ 18)).Own := by
    intro user liquidating
    obtain ⟨_, _, impossible⟩ := liquidating
    cases impossible
  have depositOwn : (EngineCall.depositCollateralAndMintDsc weth (5 * 10 ^ 18)
      (1000 * 10 ^ 18)).Own := by
    intro user liquidating
    obtain ⟨_, _, impossible⟩ := liquidating
    cases impossible
  refine ⟨by decide +kernel, ?_⟩
  exact (calls_commute reachable (by decide) (by decide +kernel) (by decide +kernel) depositOwn
    mintOwn (by decide +kernel)).2.2

end Example

end DscProtocol
