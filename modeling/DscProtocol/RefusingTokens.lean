import DscProtocol.Callback
import DscProtocol.Lib.Simulation

set_option autoImplicit false

/- Collateral tokens that may refuse to move: paused ones, ones that block accounts, and the mocks
of the unit tests, whose transfers report failure. Whatever they refuse, they lead the protocol
nowhere that standard tokens do not lead it. -/
namespace DscProtocol

/-- Each transfer is that of a standard token, or is reported as failed and changes nothing, or
reverts. When it does which may depend on everything. -/
structure TokenCode.Refusing (code : TokenCode) : Prop where
  transfer : ∀ {address sender target : Address} {amount : Nat} {w after : World} {success : Bool},
    code.transfer address sender target amount w = .ok (success, after) →
    success = true ∧ standard.transfer address sender target amount w = .ok (true, after) ∨
      success = false ∧ after = w
  transferFrom : ∀ {address sender source target : Address} {amount : Nat} {w after : World}
    {success : Bool},
    code.transferFrom address sender source target amount w = .ok (success, after) →
    success = true ∧
        standard.transferFrom address sender source target amount w = .ok (true, after) ∨
      success = false ∧ after = w

/-- No payment in this token is ever reported as made. -/
def TokenCode.Stops (code : TokenCode) (token : Address) : Prop :=
  ∀ sender target amount w after, code.transfer token sender target amount w ≠ .ok (true, after)

/-- The token an engine call pays out. -/
def EngineCall.paysOut? : EngineCall → Option Address
  | redeemCollateral token _ => some token
  | redeemCollateralForDsc token _ _ => some token
  | liquidate collateral _ _ => some collateral
  | _ => none

/-- `MockFailedTransfer.sol`: a token that takes in and pays nothing out. -/
def mockFailedTransfer : TokenCode :=
  { standard with transfer := fun _ _ _ _ w => .ok (false, w) }

/-- `MockFailedTransferFrom.sol`. -/
def mockFailedTransferFrom : TokenCode :=
  { standard with transferFrom := fun _ _ _ _ _ w => .ok (false, w) }

/-- An action where this code stands behind every token, called directly or by the contracts. -/
def Action.execThrough (code : TokenCode) (w : World) (action : Action) : Except Revert World :=
  match action with
  | callEngine sender call => call.exec code sender w
  | callToken sender address (.transfer target amount) => do
      let (_, w) ← code.transfer address sender target amount w
      .ok w
  | callToken sender address (.transferFrom source target amount) => do
      let (_, w) ← code.transferFrom address sender source target amount w
      .ok w
  | withdraw sender collateral amount => DSCPool.withdraw code sender collateral amount w
  | _ => action.exec w

def stepThrough (code : TokenCode) : World → Action → World := Runs.commit (Action.execThrough code)

section Codes

open Checked

variable {code : TokenCode} {w after : World} {address sender source target token user : Address}
  {amount : Nat} {success : Bool}

theorem standard_refusing : standard.Refusing where
  transfer := by
    intro address sender target amount w after success returned
    obtain ⟨rfl, rest⟩ := standard_transfer_eq_ok.mp returned
    exact Or.inl ⟨rfl, returned⟩
  transferFrom := by
    intro address sender source target amount w after success returned
    obtain ⟨rfl, rest⟩ := standard_transferFrom_eq_ok.mp returned
    exact Or.inl ⟨rfl, returned⟩

theorem mockFailedTransfer_refusing : mockFailedTransfer.Refusing where
  transfer := by
    intro address sender target amount w after success returned
    cases returned
    exact Or.inr ⟨rfl, rfl⟩
  transferFrom := standard_refusing.transferFrom

theorem mockFailedTransfer_stops (token : Address) : mockFailedTransfer.Stops token := by
  intro sender target amount w after paid
  cases paid

theorem mockFailedTransferFrom_refusing : mockFailedTransferFrom.Refusing where
  transfer := standard_refusing.transfer
  transferFrom := by
    intro address sender source target amount w after success returned
    cases returned
    exact Or.inr ⟨rfl, rfl⟩

/-- A transfer whose answer is checked: only a payment that was made gets through. -/
theorem checked_within {reason : Revert} {weaker plain : Except Revert (Bool × World)}
    (follows : ∀ moved, weaker = .ok (true, moved) → plain = .ok (true, moved)) :
    Within
      (weaker >>= fun answer => do
        Checked.require answer.1 reason
        .ok answer.2)
      (plain >>= fun answer => do
        Checked.require answer.1 reason
        .ok answer.2) := by
  intro result returned
  obtain ⟨⟨success, moved⟩, transferred, checked⟩ := bind_eq_ok.mp returned
  obtain ⟨_, reported, _⟩ := bind_eq_ok.mp checked
  have done : success = true := require_eq_ok.mp reported
  subst done
  exact bind_eq_ok.mpr ⟨(true, moved), follows moved transferred, checked⟩

theorem checked_transfer {reason : Revert} (refusing : code.Refusing) :
    Within
      (code.transfer address sender target amount w >>= fun answer => do
        Checked.require answer.1 reason
        .ok answer.2)
      (standard.transfer address sender target amount w >>= fun answer => do
        Checked.require answer.1 reason
        .ok answer.2) := by
  apply checked_within
  intro moved transferred
  rcases refusing.transfer transferred with ⟨_, moves⟩ | ⟨refused, _⟩
  · exact moves
  · cases refused

theorem checked_transferFrom {reason : Revert} (refusing : code.Refusing) :
    Within
      (code.transferFrom address sender source target amount w >>= fun answer => do
        Checked.require answer.1 reason
        .ok answer.2)
      (standard.transferFrom address sender source target amount w >>= fun answer => do
        Checked.require answer.1 reason
        .ok answer.2) := by
  apply checked_within
  intro moved transferred
  rcases refusing.transferFrom transferred with ⟨_, moves⟩ | ⟨refused, _⟩
  · exact moves
  · cases refused

namespace DSCEngine

theorem redeemCollateralInternal_within (refusing : code.Refusing) :
    Within (redeemCollateralInternal code source target token amount w)
      (redeemCollateralInternal standard source target token amount w) := by
  apply Within.bind (Within.refl _)
  intro deposited _
  exact checked_transfer refusing

theorem nonReentrant_within {body other : World → Except Revert World}
    (inside : ∀ state, Within (body state) (other state)) :
    Within (ReentrancyGuard.nonReentrant body w) (ReentrancyGuard.nonReentrant other w) := by
  apply Within.bind (Within.refl _)
  intro entered _
  apply Within.bind (inside entered)
  intro left _
  exact Within.refl _

theorem depositCollateral_within (refusing : code.Refusing) :
    Within (depositCollateral code sender token amount w)
      (depositCollateral standard sender token amount w) := by
  apply Within.bind (Within.refl _)
  intro _ _
  apply Within.bind (Within.refl _)
  intro _ _
  apply nonReentrant_within
  intro entered
  apply Within.bind (Within.refl _)
  intro deposited _
  exact checked_transferFrom refusing

theorem redeemCollateral_within (refusing : code.Refusing) :
    Within (redeemCollateral code sender token amount w)
      (redeemCollateral standard sender token amount w) := by
  apply Within.bind (Within.refl _)
  intro _ _
  apply nonReentrant_within
  intro entered
  apply Within.bind (redeemCollateralInternal_within refusing)
  intro released _
  exact Within.refl _

theorem liquidate_within (refusing : code.Refusing) :
    Within (liquidate code sender token user amount w)
      (liquidate standard sender token user amount w) := by
  apply Within.bind (Within.refl _)
  intro _ _
  apply nonReentrant_within
  intro entered
  apply Within.bind (Within.refl _)
  intro starting _
  apply Within.bind (Within.refl _)
  intro _ _
  apply Within.bind (Within.refl _)
  intro covered _
  apply Within.bind (Within.refl _)
  intro bonus _
  apply Within.bind (Within.refl _)
  intro bonusCollateral _
  apply Within.bind (Within.refl _)
  intro total _
  apply Within.bind (redeemCollateralInternal_within refusing)
  intro paid _
  apply Within.bind (redeemCollateralInternal_within refusing)
  intro swept _
  exact Within.refl _

end DSCEngine

theorem exec_within (refusing : code.Refusing) (call : EngineCall) :
    Within (call.exec code sender w) (call.exec standard sender w) := by
  cases call with
  | depositCollateral token amount => exact DSCEngine.depositCollateral_within refusing
  | depositCollateralAndMintDsc token amountCollateral amountDscToMint =>
      apply Within.bind (DSCEngine.depositCollateral_within refusing)
      intro deposited _
      exact Within.refl _
  | mintDsc amount => exact Within.refl _
  | burnDsc amount => exact Within.refl _
  | redeemCollateral token amount => exact DSCEngine.redeemCollateral_within refusing
  | redeemCollateralForDsc token amountCollateral amountDscToBurn =>
      apply Within.bind (Within.refl _)
      intro burned _
      exact DSCEngine.redeemCollateral_within refusing
  | liquidate collateral user debtToCover => exact DSCEngine.liquidate_within refusing

theorem withdraw_within (refusing : code.Refusing) :
    Within (DSCPool.withdraw code sender token amount w)
      (DSCPool.withdraw standard sender token amount w) := by
  apply Within.bind (Within.refl _)
  intro _ _
  apply Within.bind (Within.refl _)
  intro _ _
  exact checked_transfer refusing

theorem callToken_transfer_exec :
    (Action.callToken sender address (.transfer target amount)).exec w =
      standard.transfer address sender target amount w >>= fun answer => .ok answer.2 := by
  change (w.tokens address).transfer sender target amount >>= _ =
    ((w.tokens address).transfer sender target amount >>= _) >>= _
  cases (w.tokens address).transfer sender target amount with
  | error reason => rfl
  | ok answer => rfl

theorem callToken_transferFrom_exec :
    (Action.callToken sender address (.transferFrom source target amount)).exec w =
      standard.transferFrom address sender source target amount w >>= fun answer =>
        .ok answer.2 := by
  change (w.tokens address).transferFrom sender source target amount >>= _ =
    ((w.tokens address).transferFrom sender source target amount >>= _) >>= _
  cases (w.tokens address).transferFrom sender source target amount with
  | error reason => rfl
  | ok answer => rfl

/-- What an action does where tokens may refuse it does where they are standard, or nothing. -/
theorem Action.execThrough_cases {action : Action} (refusing : code.Refusing)
    (returned : action.execThrough code w = .ok after) : action.exec w = .ok after ∨ after = w := by
  cases action with
  | callEngine sender call => exact Or.inl (exec_within refusing call after returned)
  | callToken sender address call =>
      cases call with
      | transfer target amount =>
          obtain ⟨⟨success, moved⟩, transferred, same⟩ := bind_eq_ok.mp returned
          cases same
          rcases refusing.transfer transferred with ⟨_, moves⟩ | ⟨_, unmoved⟩
          · left
            rw [callToken_transfer_exec, moves]
            rfl
          · exact Or.inr unmoved
      | transferFrom source target amount =>
          obtain ⟨⟨success, moved⟩, transferred, same⟩ := bind_eq_ok.mp returned
          cases same
          rcases refusing.transferFrom transferred with ⟨_, moves⟩ | ⟨_, unmoved⟩
          · left
            rw [callToken_transferFrom_exec, moves]
            rfl
          · exact Or.inr unmoved
      | approve | increaseAllowance | decreaseAllowance => exact Or.inl returned
  | withdraw sender collateral amount => exact Or.inl (withdraw_within refusing after returned)
  | callCoin | issue | updateFeed | advance => exact Or.inl returned

/-- Each step is the standard one, or none. -/
theorem stepThrough_cases {action : Action} (refusing : code.Refusing) :
    stepThrough code w action = step w action ∨ stepThrough code w action = w := by
  cases played : action.execThrough code w with
  | error reason => exact Or.inr (Runs.commit_eq_of_error played)
  | ok after =>
      have here : stepThrough code w action = after := Runs.commit_eq_of_ok played
      rw [here]
      rcases Action.execThrough_cases refusing played with returned | unmoved
      · have there : step w action = after := Runs.commit_eq_of_ok returned
        exact Or.inl there.symm
      · exact Or.inr unmoved

end Codes

/-- Each run is one of standard tokens with fewer actions. -/
theorem stepThrough_matched {code : TokenCode} {w : World} {actions : List Action}
    (refusing : code.Refusing) (along : Runs.Along (stepThrough code) Permitted w actions) :
    ∃ kept, List.Sublist kept actions ∧ Runs.Along step Permitted w kept ∧
      Runs.run step w kept = Runs.run (stepThrough code) w actions := by
  have skips : ∀ state action, Permitted state action →
      stepThrough code state action = step state action ∨
        stepThrough code state action = state := fun _ _ _ => stepThrough_cases refusing
  exact Runs.skipping skips along

/-- Tokens that refuse to move reach nothing new: what a run leads to with them, the actions of
this run that they let through lead to with standard tokens. So it is reachable, and whatever
holds in every reachable state holds with them. -/
theorem refusing_tokens_reach_nothing_new {code : TokenCode} {w : World} {actions : List Action}
    (refusing : code.Refusing) (reachable : Reachable w)
    (along : Runs.Along (stepThrough code) Permitted w actions) :
    (∃ kept, List.Sublist kept actions ∧ Runs.Along step Permitted w kept ∧
      Runs.run step w kept = Runs.run (stepThrough code) w actions) ∧
    Reachable (Runs.run (stepThrough code) w actions) := by
  have matched := stepThrough_matched refusing along
  refine ⟨matched, ?_⟩
  obtain ⟨kept, _, permitted, reached⟩ := matched
  rw [← reached]
  exact reachable.run permitted

section Stopped

open Checked

variable {code : TokenCode} {w after : World} {sender source target token user : Address}
  {amount : Nat}

theorem DSCEngine.redeemCollateralInternal_stopped (stops : code.Stops token) :
    redeemCollateralInternal code source target token amount w ≠ .ok after := by
  intro returned
  obtain ⟨deposited, _, rest⟩ := bind_eq_ok.mp returned
  obtain ⟨⟨success, moved⟩, transferred, checked⟩ := bind_eq_ok.mp rest
  obtain ⟨_, reported, _⟩ := bind_eq_ok.mp checked
  have done : success = true := require_eq_ok.mp reported
  rw [done] at transferred
  exact stops _ _ _ _ _ transferred

theorem DSCEngine.redeemCollateral_stopped (stops : code.Stops token) :
    redeemCollateral code sender token amount w ≠ .ok after := by
  intro returned
  obtain ⟨_, _, guarded⟩ := bind_eq_ok.mp returned
  obtain ⟨_, inside, played, _⟩ := ReentrancyGuard.nonReentrant_eq_ok.mp guarded
  obtain ⟨_, paid, _⟩ := bind_eq_ok.mp played
  exact redeemCollateralInternal_stopped stops paid

/-- Neither its owner nor a liquidator gets a deposit of a stopped token out. -/
theorem EngineCall.stopped {call : EngineCall} (stops : code.Stops token)
    (pays : call.paysOut? = some token) : call.exec code sender w ≠ .ok after := by
  intro returned
  cases call with
  | redeemCollateral other amount =>
      cases pays
      exact DSCEngine.redeemCollateral_stopped stops returned
  | redeemCollateralForDsc other amountCollateral amountDscToBurn =>
      cases pays
      obtain ⟨_, _, redeemed⟩ := bind_eq_ok.mp returned
      exact DSCEngine.redeemCollateral_stopped stops redeemed
  | liquidate collateral user debtToCover =>
      cases pays
      obtain ⟨_, _, guarded⟩ := bind_eq_ok.mp returned
      obtain ⟨_, inside, played, _⟩ := ReentrancyGuard.nonReentrant_eq_ok.mp guarded
      obtain ⟨starting, _, played⟩ := bind_eq_ok.mp played
      obtain ⟨_, _, played⟩ := bind_eq_ok.mp played
      obtain ⟨covered, _, played⟩ := bind_eq_ok.mp played
      obtain ⟨bonus, _, played⟩ := bind_eq_ok.mp played
      obtain ⟨bonusCollateral, _, played⟩ := bind_eq_ok.mp played
      obtain ⟨total, _, played⟩ := bind_eq_ok.mp played
      obtain ⟨_, paid, _⟩ := bind_eq_ok.mp played
      exact DSCEngine.redeemCollateralInternal_stopped stops paid
  | _ => cases pays

namespace World

/-- No deposit of the token is smaller afterwards. -/
def Keeps (token : Address) (w after : World) : Prop :=
  ∀ user, w.engine.collateralDeposited user token ≤ after.engine.collateralDeposited user token

theorem Keeps.refl (token : Address) (w : World) : Keeps token w w := fun _ => Nat.le_refl _

theorem Keeps.trans {first second third : World} (left : Keeps token first second)
    (right : Keeps token second third) : Keeps token first third :=
  fun user => (left user).trans (right user)

theorem received_keeps {other : Address} : Keeps token w (w.received sender other amount) := by
  intro user
  rw [received_deposited, Ledger.assign_apply]
  split
  · rename_i cell
    rw [cell.1, cell.2]
    exact Nat.le_add_right _ _
  · exact Nat.le_refl _

theorem released_keeps {other : Address} (apart : token ≠ other) :
    Keeps token w (w.released source target other amount) := by
  intro user
  rw [released_deposited, Ledger.assign_column _ _ _ _ _ _ apart]

theorem liquidated_keeps {collateral : Address} (apart : token ≠ collateral) :
    Keeps token w (w.liquidated sender collateral user amount) := by
  intro account
  rw [liquidated_deposited, Ledger.assign_column _ _ _ _ _ _ apart]

/-- Only what a call pays out can leave the deposits smaller. -/
theorem call_keeps {call : EngineCall} (unpaid : call.paysOut? ≠ some token)
    (success : call.exec standard sender w = .ok after) : Keeps token w after := by
  cases call with
  | depositCollateral other amount =>
      obtain ⟨_, _, _, _, rfl⟩ := DSCEngine.depositCollateral_eq_ok.mp success
      exact received_keeps
  | depositCollateralAndMintDsc other amountCollateral amountDscToMint =>
      obtain ⟨_, deposited, minted⟩ := DSCEngine.depositCollateralAndMintDsc_eq_ok.mp success
      obtain ⟨_, _, _, _, rfl⟩ := DSCEngine.depositCollateral_eq_ok.mp deposited
      obtain ⟨_, _, _, rfl⟩ := DSCEngine.mintDsc_eq_ok.mp minted
      exact received_keeps
  | mintDsc amount =>
      obtain ⟨_, _, _, rfl⟩ := DSCEngine.mintDsc_eq_ok.mp success
      exact Keeps.refl token w
  | burnDsc amount =>
      obtain ⟨_, rfl⟩ := DSCEngine.burnDsc_eq_ok.mp success
      exact Keeps.refl token w
  | redeemCollateral other amount =>
      have apart : token ≠ other := fun same => unpaid (congrArg some same.symm)
      obtain ⟨_, _, _, _, rfl⟩ := DSCEngine.redeemCollateral_eq_ok.mp success
      exact released_keeps apart
  | redeemCollateralForDsc other amountCollateral amountDscToBurn =>
      have apart : token ≠ other := fun same => unpaid (congrArg some same.symm)
      obtain ⟨_, burned, redeemed⟩ := DSCEngine.redeemCollateralForDsc_eq_ok.mp success
      obtain ⟨_, rfl⟩ := DSCEngine.burnDsc_eq_ok.mp burned
      obtain ⟨_, _, _, _, rfl⟩ := DSCEngine.redeemCollateral_eq_ok.mp redeemed
      have burned : Keeps token w (w.repaid sender sender amountDscToBurn) := Keeps.refl token w
      exact burned.trans (released_keeps apart)
  | liquidate collateral user debtToCover =>
      have apart : token ≠ collateral := fun same => unpaid (congrArg some same.symm)
      obtain ⟨_, rfl⟩ := DSCEngine.liquidate_eq_ok.mp success
      exact liquidated_keeps apart

end World

/-- One step where the token is stopped. -/
theorem stepThrough_keeps {action : Action} (refusing : code.Refusing) (stops : code.Stops token)
    (owned : w.dscOwner = w.engineAddress) (permitted : Permitted w action) :
    World.Keeps token w (stepThrough code w action) := by
  apply Runs.commit_preserves (World.Keeps.refl token w)
  intro next played
  rcases Action.execThrough_cases refusing played with returned | unmoved
  · rcases Action.exec_cases owned permitted returned with
      ⟨sender, call, rfl, _, success⟩ | ⟨address, contract, _, rfl⟩ | ⟨_, feeds, time, rfl⟩
    · have unpaid : call.paysOut? ≠ some token := fun pays => EngineCall.stopped stops pays played
      exact World.call_keeps unpaid success
    · exact World.Keeps.refl token w
    · exact World.Keeps.refl token w
  · rw [unmoved]
    exact World.Keeps.refl token w

end Stopped

/-- Once a token pays nothing out its deposits are locked in: whatever anyone does, none of them
gets smaller, no call that would pay the token out returns, a liquidation no more than a withdrawal,
and the engine parts with none of what it holds. -/
theorem stopped_token_locks_deposits {code : TokenCode} {w : World} {actions : List Action}
    {token : Address} (refusing : code.Refusing) (stops : code.Stops token)
    (reachable : Reachable w) (along : Runs.Along (stepThrough code) Permitted w actions) :
    World.Keeps token w (Runs.run (stepThrough code) w actions) ∧
      w.held token ≤ (Runs.run (stepThrough code) w actions).held token ∧
      ∀ sender call after, EngineCall.paysOut? call = some token →
        call.exec code sender (Runs.run (stepThrough code) w actions) ≠ .ok after := by
  have start : w.Orderly ∧ World.Keeps token w w := ⟨reachable.orderly, World.Keeps.refl token w⟩
  have keeps : ∀ state action, state.Orderly ∧ World.Keeps token w state → Permitted state action →
      (stepThrough code state action).Orderly ∧
        World.Keeps token w (stepThrough code state action) := by
    intro state action sofar permitted
    obtain ⟨orderly, kept⟩ := sofar
    have later := stepThrough_keeps refusing stops orderly.owned permitted
    refine ⟨?_, kept.trans later⟩
    rcases @stepThrough_cases code state action refusing with same | skipped
    · rw [same]
      exact orderly.step permitted
    · rw [skipped]
      exact orderly
  have kept := Runs.invariant keeps start along
  refine ⟨kept.2, ?_, fun sender call after pays => EngineCall.stopped stops pays⟩
  obtain ⟨through, _, permitted, reached⟩ := stepThrough_matched refusing along
  have held := @World.run_held w token through reachable.orderly permitted
  have recorded : w.deposits token ≤ (Runs.run (stepThrough code) w actions).deposits token :=
    Finset.sum_le_sum fun user _ => kept.2 user
  rw [reached] at held
  omega

section Example

open HelperConfig

/-- 5 ether are deposited. -/
def fiveDeposited : List Action :=
  [.issue weth deployer (10 * 10 ^ 18),
    .callToken deployer weth (.approve anvil.engineAddress (5 * 10 ^ 18)),
    .callEngine deployer (.depositCollateral weth (5 * 10 ^ 18))]

/-- 1 ether is asked for. -/
def oneAskedFor : List Action := [.callEngine deployer (.redeemCollateral weth (10 ^ 18))]

theorem refusing_tokens_reach_nothing_new_mock :
    (∃ kept, List.Sublist kept (fiveDeposited ++ oneAskedFor) ∧
      (Runs.run step anvil.start kept).engine.collateralDeposited deployer weth = 5 * 10 ^ 18) ∧
    Reachable (Runs.run (stepThrough mockFailedTransfer) anvil.start
      (fiveDeposited ++ oneAskedFor)) := by
  have along : Runs.Along (stepThrough mockFailedTransfer) Permitted anvil.start
      (fiveDeposited ++ oneAskedFor) := by decide +kernel
  have reachable : Reachable anvil.start := ⟨anvil, anvil.start, [], anvil.run_ok, trivial, rfl⟩
  obtain ⟨⟨kept, within, _, reached⟩, reaches⟩ :=
    refusing_tokens_reach_nothing_new mockFailedTransfer_refusing reachable along
  refine ⟨⟨kept, within, ?_⟩, reaches⟩
  rw [reached]
  decide +kernel

theorem stopped_token_locks_deposits_mock :
    5 * 10 ^ 18 ≤ (Runs.run (stepThrough mockFailedTransfer)
      (Runs.run step anvil.start fiveDeposited) oneAskedFor).engine.collateralDeposited deployer
        weth := by
  have reachable : Reachable anvil.start := ⟨anvil, anvil.start, [], anvil.run_ok, trivial, rfl⟩
  have deposited : Runs.Along step Permitted anvil.start fiveDeposited := by decide +kernel
  have along : Runs.Along (stepThrough mockFailedTransfer) Permitted
      (Runs.run step anvil.start fiveDeposited) oneAskedFor := by decide +kernel
  have kept := (stopped_token_locks_deposits mockFailedTransfer_refusing
    (mockFailedTransfer_stops weth) (reachable.run deposited) along).1 deployer
  have before : (Runs.run step anvil.start fiveDeposited).engine.collateralDeposited deployer weth =
      5 * 10 ^ 18 := by decide +kernel
  rw [before] at kept
  exact kept

/-- As the unit tests expect it. -/
example :
    DSCEngine.redeemCollateral mockFailedTransfer deployer weth (10 ^ 18)
      (Runs.run step anvil.start fiveDeposited) = .error (.engine .transferFailed) := by
  rfl

end Example

end DscProtocol
