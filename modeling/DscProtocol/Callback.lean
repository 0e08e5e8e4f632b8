import DscProtocol.Lib.Nesting
import DscProtocol.Supply

set_option autoImplicit false

/- Collateral tokens that call out while they are being called, and what such calls can do to an
engine that is in the middle of one of its own. -/
namespace DscProtocol

/-- An action where this code stands behind the tokens. A token that is called directly moves what
the library moves; the calls it makes itself stand around it in the tree of calls. -/
def Action.execWith (code : TokenCode) (w : World) (action : Action) : Except Revert World :=
  match action with
  | callEngine sender call => call.exec code sender w
  | _ => action.exec w

/-- What a token calls before and after it moves: the token, its caller, the call and the state
decide. `code` is what the engine would find behind the tokens if it were called from there. -/
structure Callbacks where
  code : TokenCode
  before : Address → Address → TokenCall → World → List (Nesting.Call Action)
  after : Address → Address → TokenCall → World → List (Nesting.Call Action)

namespace Callbacks

/-- All calls of one callback, the reverted ones caught. -/
def run (callbacks : Callbacks) (calls : List (Nesting.Call Action)) (w : World) : World :=
  Nesting.run (Action.execWith callbacks.code) calls w

/-- A move with what is called before and after it. -/
def around (callbacks : Callbacks) (token caller : Address) (call : TokenCall)
    (move : World → Except Revert (Bool × World)) (w : World) : Except Revert (Bool × World) := do
  let w := callbacks.run (callbacks.before token caller call w) w
  let (success, w) ← move w
  .ok (success, callbacks.run (callbacks.after token caller call w) w)

/-- The code of a token that moves balances as a standard one does and calls out around it. -/
def calling (callbacks : Callbacks) : TokenCode where
  transfer := fun address sender target amount =>
    callbacks.around address sender (.transfer target amount)
      (standard.transfer address sender target amount)
  transferFrom := fun address sender source target amount =>
    callbacks.around address sender (.transferFrom source target amount)
      (standard.transferFrom address sender source target amount)

/-- A token that calls nobody. -/
def none : Callbacks where
  code := standard
  before := fun _ _ _ _ => []
  after := fun _ _ _ _ => []

end Callbacks

/-- An action of anyone but the engine, the feeds and the clock. -/
def Outside (w : World) (action : Action) : Prop := Permitted w action ∧ ¬ action.News

def Callbacks.Permitted (callbacks : Callbacks) (w : World) : Prop :=
  ∀ token caller call state, Nesting.Every (Outside w) (callbacks.before token caller call state) ∧
    Nesting.Every (Outside w) (callbacks.after token caller call state)

/-- `burnDsc` is the one entry point that reaches no `nonReentrant` function. -/
def EngineCall.guarded (call : EngineCall) : Bool :=
  match call with
  | burnDsc _ => false
  | _ => true

def Action.guarded (action : Action) : Bool :=
  match action with
  | callEngine _ call => call.guarded
  | _ => false

/-- The same callbacks without the calls to guarded entry points. -/
def Callbacks.unguarded (callbacks : Callbacks) : Callbacks where
  code := callbacks.code
  before := fun token caller call w =>
    Nesting.kept (fun action => !action.guarded) (callbacks.before token caller call w)
  after := fun token caller call w =>
    Nesting.kept (fun action => !action.guarded) (callbacks.after token caller call w)

theorem Action.execWith_cases {code : TokenCode} {action : Action} {w after : World}
    (returned : action.execWith code w = .ok after) :
    (∃ sender call, action = .callEngine sender call ∧ call.exec code sender w = .ok after) ∨
      (∀ sender call, action ≠ .callEngine sender call) ∧ action.exec w = .ok after := by
  cases action with
  | callEngine sender call => exact Or.inl ⟨sender, call, rfl, returned⟩
  | _ => exact Or.inr ⟨nofun, returned⟩

theorem Callbacks.calling_none : Callbacks.none.calling = standard := by
  unfold Callbacks.calling
  congr
  · funext address sender target amount w
    exact Checked.bind_ok (standard.transfer address sender target amount w)
  · funext address sender source target amount w
    exact Checked.bind_ok (standard.transferFrom address sender source target amount w)

section Codes

variable {callbacks : Callbacks} {token caller : Address} {call : TokenCall}
  {move : World → Except Revert (Bool × World)} {success : Bool} {w after : World}

theorem Callbacks.around_eq_ok :
    callbacks.around token caller call move w = .ok (success, after) ↔
      ∃ moved, move (callbacks.run (callbacks.before token caller call w) w) =
          .ok (success, moved) ∧
        callbacks.run (callbacks.after token caller call moved) moved = after := by
  simp only [around, Checked.bind_eq_ok, Prod.exists, Except.ok.injEq, Prod.mk.injEq]
  constructor
  · intro returned
    obtain ⟨_, moved, took, rfl, same⟩ := returned
    exact ⟨moved, took, same⟩
  · intro returned
    obtain ⟨moved, took, same⟩ := returned
    exact ⟨success, moved, took, rfl, same⟩

end Codes

namespace DSCEngine

variable {code : TokenCode} {sender token : Address} {amount : Nat} {w after : World}

/- Whatever code stands behind the tokens, no guarded entry point gets past a locked guard -/

theorem depositCollateral_idle
    (success : depositCollateral code sender token amount w = .ok after) :
    w.engine.status = .notEntered := by
  obtain ⟨_, _, success⟩ := Checked.bind_eq_ok.mp success
  obtain ⟨_, _, success⟩ := Checked.bind_eq_ok.mp success
  exact (ReentrancyGuard.nonReentrant_eq_ok.mp success).1

theorem redeemCollateral_idle
    (success : redeemCollateral code sender token amount w = .ok after) :
    w.engine.status = .notEntered := by
  obtain ⟨_, _, success⟩ := Checked.bind_eq_ok.mp success
  exact (ReentrancyGuard.nonReentrant_eq_ok.mp success).1

theorem liquidate_idle {user : Address}
    (success : liquidate code sender token user amount w = .ok after) :
    w.engine.status = .notEntered := by
  obtain ⟨_, _, success⟩ := Checked.bind_eq_ok.mp success
  exact (ReentrancyGuard.nonReentrant_eq_ok.mp success).1

end DSCEngine

/-- While the engine is entered only `burnDsc` returns. -/
theorem EngineCall.guarded_fails {code : TokenCode} {sender : Address} {call : EngineCall}
    {w after : World} (entered : w.engine.status = .entered)
    (success : call.exec code sender w = .ok after) : ∃ amount, call = .burnDsc amount := by
  have locked : w.engine.status ≠ .notEntered := by
    rw [entered]
    decide
  cases call with
  | depositCollateral token amount => exact absurd (DSCEngine.depositCollateral_idle success) locked
  | depositCollateralAndMintDsc token amountCollateral amountDscToMint =>
      obtain ⟨_, deposited, _⟩ := Checked.bind_eq_ok.mp success
      exact absurd (DSCEngine.depositCollateral_idle deposited) locked
  | mintDsc amount => exact absurd (DSCEngine.mintDsc_eq_ok.mp success).1 locked
  | burnDsc amount => exact ⟨amount, rfl⟩
  | redeemCollateral token amount => exact absurd (DSCEngine.redeemCollateral_idle success) locked
  | redeemCollateralForDsc token amountCollateral amountDscToBurn =>
      obtain ⟨_, burned, redeemed⟩ := Checked.bind_eq_ok.mp success
      obtain ⟨_, rfl⟩ := DSCEngine.burnDsc_eq_ok.mp burned
      exact absurd (DSCEngine.redeemCollateral_idle redeemed) locked
  | liquidate collateral user debtToCover =>
      exact absurd (DSCEngine.liquidate_idle success) locked

theorem LedgerChange.setStatus {w : World} {action : Action} {address : Address} {contract : ERC20}
    (change : LedgerChange w action address contract) (status : ReentrancyStatus) :
    LedgerChange (w.setStatus status) action address contract := by
  cases change with
  | transfer real receiver enough => exact .transfer real receiver enough
  | transferFrom pulls => exact .transferFrom pulls
  | approve nothing => exact .approve nothing
  | burnFrom allowed real enough => exact .burnFrom allowed real enough
  | withdraw real receiver enough => exact .withdraw real receiver enough
  | issue real fits => exact .issue real fits

namespace World

/-- The engine is in the middle of a call; apart from that all is in order. -/
structure Locked (w : World) : Prop where
  entered : w.engine.status = .entered
  orderly : (w.setStatus .notEntered).Orderly

/-- What calls from within a token can do: no deposit moves, debts only fall, the engine loses no
tokens and the supply falls at least as far as the debts. -/
structure Calm (w after : World) : Prop where
  setting : SameSetting w after
  deposited : after.engine.collateralDeposited = w.engine.collateralDeposited
  owed : ∀ user, after.engine.dscMinted user ≤ w.engine.dscMinted user
  held : ∀ token, w.held token ≤ after.held token
  matched : after.supply + w.debts ≤ after.debts + w.supply

variable {w after : World} {action : Action} {code : TokenCode} {callbacks : Callbacks}

theorem Calm.refl (w : World) : Calm w w :=
  ⟨SameSetting.refl w, rfl, fun _ => Nat.le_refl _, fun _ => Nat.le_refl _,
    Nat.le_of_eq (Nat.add_comm _ _)⟩

theorem Calm.trans {first second third : World} (left : Calm first second)
    (right : Calm second third) : Calm first third where
  setting := left.setting.trans right.setting
  deposited := right.deposited.trans left.deposited
  owed := fun user => (right.owed user).trans (left.owed user)
  held := fun token => (left.held token).trans (right.held token)
  matched := by
    have before := left.matched
    have later := right.matched
    omega

/-- A burn on behalf of anyone, paid by anyone but the engine. -/
theorem repaid_calm {onBehalfOf dscFrom : Address} {amount : Nat} (locked : w.Locked)
    (payer : dscFrom ≠ w.engineAddress) (repays : w.Repays onBehalfOf dscFrom amount) :
    Calm w (w.repaid onBehalfOf dscFrom amount) ∧ (w.repaid onBehalfOf dscFrom amount).Locked := by
  have unlocked : (w.setStatus .notEntered).Repays onBehalfOf dscFrom amount :=
    (w.repays_setStatus _ _ _ .notEntered).mpr repays
  refine ⟨⟨SameSetting.repaid w onBehalfOf dscFrom amount, rfl, repaid_minted_le, ?_, ?_⟩,
    locked.entered, locked.orderly.repaid unlocked⟩
  · intro token
    have balanced : Balanced token (w.setStatus .notEntered)
        ((w.setStatus .notEntered).repaid onBehalfOf dscFrom amount) :=
      repaid_balanced locked.orderly payer unlocked
    have recorded : (w.repaid onBehalfOf dscFrom amount).deposits token = w.deposits token :=
      deposits_of_collateralDeposited_eq rfl
    change (w.repaid onBehalfOf dscFrom amount).held token + w.deposits token =
      w.held token + (w.repaid onBehalfOf dscFrom amount).deposits token at balanced
    omega
  · have matched : Matched (w.setStatus .notEntered)
        ((w.setStatus .notEntered).repaid onBehalfOf dscFrom amount) :=
      repaid_matched locked.orderly unlocked
    change (w.repaid onBehalfOf dscFrom amount).debts + w.supply =
      w.debts + (w.repaid onBehalfOf dscFrom amount).supply at matched
    omega

theorem change_calm {address : Address} {contract : ERC20} (locked : w.Locked)
    (permitted : Permitted w action) (change : LedgerChange w action address contract) :
    Calm w (w.setToken address contract) ∧ (w.setToken address contract).Locked := by
  have unlocked := change.setStatus .notEntered
  have allowed : Permitted (w.setStatus .notEntered) action := permitted
  refine ⟨⟨SameSetting.setToken w address contract, rfl, fun _ => Nat.le_refl _, ?_, ?_⟩,
    locked.entered, locked.orderly.change allowed unlocked⟩
  · intro token
    by_cases here : token = address
    · subst here
      have gained : contract.balances w.engineAddress =
          w.held token + action.sent token w.engineAddress :=
        change_held locked.orderly allowed unlocked
      have now : (w.setToken token contract).held token = contract.balances w.engineAddress :=
        congrArg (fun ledger : ERC20 => ledger.balances w.engineAddress) (tokens_setToken contract)
      omega
    · have now : (w.setToken address contract).held token = w.held token :=
        held_of_tokens_eq (tokens_setToken_of_ne contract here) rfl
      omega
  · have debts : (w.setToken address contract).debts = w.debts := debts_of_dscMinted_eq rfl
    have burned : (w.setToken address contract).supply + action.burned = w.supply :=
      change_supply locked.orderly allowed unlocked
    omega

/-- One call from within a token, whatever it is and whoever makes it. -/
theorem nested_calm (locked : w.Locked) (outside : Outside w action)
    (success : action.execWith code w = .ok after) : Calm w after ∧ after.Locked := by
  obtain ⟨permitted, notNews⟩ := outside
  rcases Action.execWith_cases success with ⟨sender, call, rfl, returned⟩ | ⟨notEngine, returned⟩
  · have user : sender ≠ w.engineAddress := fun same => permitted.1 (congrArg some same)
    obtain ⟨amount, rfl⟩ := EngineCall.guarded_fails locked.entered returned
    obtain ⟨repays, rfl⟩ := DSCEngine.burnDsc_eq_ok.mp returned
    exact repaid_calm locked user repays
  · have owned : w.dscOwner = w.engineAddress := locked.orderly.owned
    rcases Action.exec_cases owned permitted returned with
      ⟨sender, call, same, _⟩ | ⟨address, contract, change, rfl⟩ | ⟨news, _⟩
    · exact absurd same (notEngine sender call)
    · exact change_calm locked permitted change
    · exact absurd news notNews

theorem outside_eq (same : SameSetting w after) : Outside after = Outside w := by
  unfold Outside Permitted
  rw [same.engineAddress, same.dsc]

theorem permitted_of_same (permitted : callbacks.Permitted w) (same : SameSetting w after) :
    callbacks.Permitted after := by
  unfold Callbacks.Permitted
  rw [outside_eq same]
  exact permitted

/-- All calls of one callback together. -/
theorem callbacks_calm {calls : List (Nesting.Call Action)} (locked : w.Locked)
    (outside : Nesting.Every (Outside w) calls) :
    Calm w (callbacks.run calls w) ∧ (callbacks.run calls w).Locked := by
  have keeps : ∀ state action next, Calm w state ∧ state.Locked → Outside w action →
      action.execWith callbacks.code state = .ok next → Calm w next ∧ next.Locked := by
    intro state action next sofar outside success
    obtain ⟨calm, locked⟩ := sofar
    rw [← outside_eq calm.setting] at outside
    obtain ⟨step, later⟩ := nested_calm locked outside success
    exact ⟨calm.trans step, later⟩
  exact Nesting.run_keeps keeps outside ⟨Calm.refl w, locked⟩

/-- Calls, a move that keeps the engine's books in order, calls. -/
theorem around_calls {token caller : Address} {call : TokenCall} {success : Bool}
    {move : World → Except Revert (Bool × World)} (locked : w.Locked)
    (permitted : callbacks.Permitted w)
    (keeps : ∀ before moved, before.Locked → move before = .ok (success, moved) →
      moved.Locked ∧ SameSetting before moved)
    (returned : callbacks.around token caller call move w = .ok (success, after)) :
    ∃ before moved, Calm w before ∧ before.Locked ∧ move before = .ok (success, moved) ∧
      Calm moved after ∧ after.Locked := by
  obtain ⟨moved, took, rfl⟩ := Callbacks.around_eq_ok.mp returned
  obtain ⟨calm, lockedBefore⟩ :=
    @callbacks_calm w callbacks _ locked (permitted token caller call w).1
  obtain ⟨lockedMoved, same⟩ := keeps _ moved lockedBefore took
  have outsiders := permitted_of_same permitted (calm.setting.trans same)
  obtain ⟨later, lockedAfter⟩ :=
    @callbacks_calm moved callbacks _ lockedMoved (outsiders token caller call moved).2
  exact ⟨_, moved, calm, lockedBefore, took, later, lockedAfter⟩

/-- `transfer` out of the engine, of a token that calls out. -/
theorem transfer_calls {token target : Address} {amount : Nat} {success : Bool} (locked : w.Locked)
    (permitted : callbacks.Permitted w)
    (returned : callbacks.calling.transfer token w.engineAddress target amount w =
      .ok (success, after)) :
    ∃ before, Calm w before ∧ before.Locked ∧
      amount ≤ (before.tokens token).balances w.engineAddress ∧
      Calm (before.setToken token ((before.tokens token).moved w.engineAddress target amount))
        after ∧ after.Locked := by
  have keeps : ∀ before moved, before.Locked →
      standard.transfer token w.engineAddress target amount before = .ok (success, moved) →
        moved.Locked ∧ SameSetting before moved := by
    intro before moved locked took
    obtain ⟨_, real, receiver, enough, rfl⟩ := standard_transfer_eq_ok.mp took
    exact ⟨⟨locked.entered, locked.orderly.withLedgers
      (locked.orderly.moved_ledgers real receiver enough)⟩, SameSetting.setToken before token _⟩
  obtain ⟨before, moved, calm, lockedBefore, took, later, lockedAfter⟩ :=
    around_calls locked permitted keeps returned
  obtain ⟨_, _, _, enough, rfl⟩ := standard_transfer_eq_ok.mp took
  exact ⟨before, calm, lockedBefore, enough, later, lockedAfter⟩

/-- `transferFrom` into the engine, of a token that calls out. -/
theorem transferFrom_calls {token source : Address} {amount : Nat} {success : Bool}
    (locked : w.Locked) (permitted : callbacks.Permitted w)
    (returned : callbacks.calling.transferFrom token w.engineAddress source w.engineAddress amount
      w = .ok (success, after)) :
    ∃ before, Calm w before ∧ before.Locked ∧
      (before.tokens token).Pulls w.engineAddress source w.engineAddress amount ∧
      Calm (before.setToken token
        ((before.tokens token).pulled w.engineAddress source w.engineAddress amount)) after ∧
      after.Locked := by
  have keeps : ∀ before moved, before.Locked →
      standard.transferFrom token w.engineAddress source w.engineAddress amount before =
        .ok (success, moved) → moved.Locked ∧ SameSetting before moved := by
    intro before moved locked took
    obtain ⟨_, pulls, rfl⟩ := standard_transferFrom_eq_ok.mp took
    exact ⟨⟨locked.entered, locked.orderly.withLedgers (locked.orderly.pulled_ledgers pulls)⟩,
      SameSetting.setToken before token _⟩
  obtain ⟨before, moved, calm, lockedBefore, took, later, lockedAfter⟩ :=
    around_calls locked permitted keeps returned
  obtain ⟨_, pulls, rfl⟩ := standard_transferFrom_eq_ok.mp took
  exact ⟨before, calm, lockedBefore, pulls, later, lockedAfter⟩

theorem transferFrom_source_ne_zero {token source : Address} {amount : Nat} {success : Bool}
    (returned : callbacks.calling.transferFrom token w.engineAddress source w.engineAddress amount
      w = .ok (success, after)) : source ≠ 0 := by
  obtain ⟨_, took, _⟩ := Callbacks.around_eq_ok.mp returned
  obtain ⟨_, pulls, _⟩ := standard_transferFrom_eq_ok.mp took
  exact pulls.source_ne_zero

end World

/- Guarded calls from within might as well not be made -/

section Unguarded

variable {callbacks : Callbacks} {w after : World} {sender source target token user : Address}
  {amount : Nat} {success : Bool}

/-- Nothing called from within opens the guard, and nothing guarded returns. -/
theorem Action.keeps_entered {code : TokenCode} {action : Action}
    (entered : w.engine.status = .entered) (returned : action.execWith code w = .ok after) :
    after.engine.status = .entered ∧ action.guarded = false := by
  rcases Action.execWith_cases returned with ⟨sender, call, rfl, returned⟩ | ⟨notEngine, returned⟩
  · obtain ⟨amount, rfl⟩ := EngineCall.guarded_fails entered returned
    obtain ⟨_, rfl⟩ := DSCEngine.burnDsc_eq_ok.mp returned
    exact ⟨entered, rfl⟩
  · rcases Action.exec_frame returned with ⟨sender, call, impossible, _⟩ | ⟨engine, _⟩
    · exact absurd impossible (notEngine sender call)
    · rw [engine]
      refine ⟨entered, ?_⟩
      cases action with
      | callEngine sender call => exact absurd rfl (notEngine sender call)
      | _ => rfl

theorem Callbacks.run_entered {calls : List (Nesting.Call Action)} {outsider : Action → Prop}
    (all : Nesting.Every outsider calls) (entered : w.engine.status = .entered) :
    (callbacks.run calls w).engine.status = .entered ∧
      callbacks.run (Nesting.kept (fun action => !action.guarded) calls) w =
        callbacks.run calls w := by
  have keeps : ∀ (state : World) (action : Action) (next : World),
      state.engine.status = .entered → outsider action →
        action.execWith callbacks.code state = .ok next → next.engine.status = .entered :=
    fun _ _ _ entered _ returned => (Action.keeps_entered entered returned).1
  refine ⟨Nesting.run_keeps keeps all entered, Nesting.run_kept keeps ?_ all entered⟩
  intro state action next entered _ returned
  rw [(Action.keeps_entered entered returned).2]
  rfl

/-- While the engine is entered both codes do the same and leave it entered. -/
structure SameWithin (first second : TokenCode) : Prop where
  transfer : ∀ token sender target amount (w : World), w.engine.status = .entered →
    first.transfer token sender target amount w = second.transfer token sender target amount w
  transferFrom : ∀ token sender source target amount (w : World), w.engine.status = .entered →
    first.transferFrom token sender source target amount w =
      second.transferFrom token sender source target amount w
  keeps : ∀ {token sender target amount} {w : World} {success after},
    w.engine.status = .entered → first.transfer token sender target amount w =
      .ok (success, after) → after.engine.status = .entered

theorem Callbacks.around_unguarded {token caller : Address} {call : TokenCall}
    {move : World → Except Revert (Bool × World)} {outsider : Action → Prop}
    (all : ∀ state, Nesting.Every outsider (callbacks.before token caller call state) ∧
      Nesting.Every outsider (callbacks.after token caller call state))
    (keeps : ∀ before moved, before.engine.status = .entered → move before = .ok moved →
      moved.2.engine.status = .entered) (entered : w.engine.status = .entered) :
    callbacks.around token caller call move w =
      callbacks.unguarded.around token caller call move w := by
  obtain ⟨there, same⟩ := @run_entered callbacks w _ outsider (all w).1 entered
  have same' : callbacks.unguarded.run (callbacks.unguarded.before token caller call w) w =
    callbacks.run (callbacks.before token caller call w) w := same
  unfold around
  rw [same']
  apply Checked.bind_congr
  intro result took
  have later := (@run_entered callbacks result.2 _ outsider (all result.2).2
    (keeps _ result there took)).2
  exact congrArg (fun final => Except.ok (result.1, final)) later.symm

theorem standard_transfer_entered {result : Bool × World} (entered : w.engine.status = .entered)
    (took : standard.transfer token sender target amount w = .ok result) :
    result.2.engine.status = .entered := by
  obtain ⟨_, _, _, _, same⟩ := standard_transfer_eq_ok.mp took
  rw [same]
  exact entered

theorem standard_transferFrom_entered {result : Bool × World}
    (entered : w.engine.status = .entered)
    (took : standard.transferFrom token sender source target amount w = .ok result) :
    result.2.engine.status = .entered := by
  obtain ⟨_, _, same⟩ := standard_transferFrom_eq_ok.mp took
  rw [same]
  exact entered

theorem Callbacks.unguarded_sameWithin (permitted : callbacks.Permitted w) :
    SameWithin callbacks.calling callbacks.unguarded.calling where
  transfer := fun _ _ _ _ _ entered => around_unguarded (fun state => permitted _ _ _ state)
    (fun _ _ there took => standard_transfer_entered there took) entered
  transferFrom := fun _ _ _ _ _ _ entered => around_unguarded (fun state => permitted _ _ _ state)
    (fun _ _ there took => standard_transferFrom_entered there took) entered
  keeps := by
    intro token sender target amount state success after entered returned
    obtain ⟨moved, took, rfl⟩ := around_eq_ok.mp returned
    obtain ⟨before, later⟩ := permitted token sender (.transfer target amount) state
    have there := (@run_entered callbacks state _ _ before entered).1
    obtain ⟨_, after⟩ := permitted token sender (.transfer target amount) moved
    exact (@run_entered callbacks moved _ _ after (standard_transfer_entered there took)).1

namespace DSCEngine

variable {first second : TokenCode}

theorem nonReentrant_congr {first second : World → Except Revert World}
    (agree : ∀ inside, inside.engine.status = .entered → first inside = second inside) :
    ReentrancyGuard.nonReentrant first w = ReentrancyGuard.nonReentrant second w := by
  apply Checked.bind_congr
  intro inside locked
  simp only [ReentrancyGuard.nonReentrantBefore, Checked.bind_eq_ok, Except.ok.injEq] at locked
  obtain ⟨_, _, rfl⟩ := locked
  rw [agree _ rfl]

theorem redeemCollateralInternal_congr (same : SameWithin first second)
    (entered : w.engine.status = .entered) :
    redeemCollateralInternal first source target token amount w =
      redeemCollateralInternal second source target token amount w := by
  apply Checked.bind_congr
  intro deposited _
  have there : (w.setDeposited source token deposited).engine.status = .entered := entered
  dsimp only
  rw [same.transfer _ _ _ _ _ there]

theorem redeemCollateralInternal_entered (same : SameWithin first second)
    (entered : w.engine.status = .entered)
    (returned : redeemCollateralInternal first source target token amount w = .ok after) :
    after.engine.status = .entered := by
  obtain ⟨deposited, _, returned⟩ := Checked.bind_eq_ok.mp returned
  obtain ⟨result, took, returned⟩ := Checked.bind_eq_ok.mp returned
  obtain ⟨_, _, done⟩ := Checked.bind_eq_ok.mp returned
  cases done
  have there : (w.setDeposited source token deposited).engine.status = .entered := entered
  exact same.keeps there took

theorem depositCollateral_congr (same : SameWithin first second) :
    depositCollateral first sender token amount w =
      depositCollateral second sender token amount w := by
  apply Checked.bind_congr
  intro _ _
  apply Checked.bind_congr
  intro _ _
  apply nonReentrant_congr
  intro inside entered
  apply Checked.bind_congr
  intro deposited _
  have there : (inside.setDeposited sender token deposited).engine.status = .entered := entered
  dsimp only
  rw [same.transferFrom _ _ _ _ _ _ there]

theorem redeemCollateral_congr (same : SameWithin first second) :
    redeemCollateral first sender token amount w =
      redeemCollateral second sender token amount w := by
  apply Checked.bind_congr
  intro _ _
  apply nonReentrant_congr
  intro inside entered
  rw [redeemCollateralInternal_congr same entered]

theorem liquidate_congr (same : SameWithin first second) :
    liquidate first sender token user amount w = liquidate second sender token user amount w := by
  apply Checked.bind_congr
  intro _ _
  apply nonReentrant_congr
  intro inside entered
  iterate 6
    apply Checked.bind_congr
    intro _ _
  rw [← redeemCollateralInternal_congr same entered]
  apply Checked.bind_congr
  intro paid payout
  have there := redeemCollateralInternal_entered same entered payout
  unfold sentAmountLeftToDscPool
  rw [redeemCollateralInternal_congr same there]

end DSCEngine

/-- The engine calls its tokens only while it is entered: that is all their code can differ in. -/
theorem EngineCall.exec_congr {first second : TokenCode} (same : SameWithin first second)
    (sender : Address) (call : EngineCall) (w : World) :
    call.exec first sender w = call.exec second sender w := by
  cases call with
  | depositCollateral token amount => exact DSCEngine.depositCollateral_congr same
  | depositCollateralAndMintDsc token amountCollateral amountDscToMint =>
      simp only [exec, DSCEngine.depositCollateralAndMintDsc,
        DSCEngine.depositCollateral_congr same]
  | mintDsc amount => rfl
  | burnDsc amount => rfl
  | redeemCollateral token amount => exact DSCEngine.redeemCollateral_congr same
  | redeemCollateralForDsc token amountCollateral amountDscToBurn =>
      simp only [exec, DSCEngine.redeemCollateralForDsc, DSCEngine.redeemCollateral_congr same]
  | liquidate collateral user debtToCover => exact DSCEngine.liquidate_congr same

end Unguarded

end DscProtocol
