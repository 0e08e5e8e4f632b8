import DscProtocol.Backing

set_option autoImplicit false

/- The debt ledger: what users owe is the supply of the stable coin plus what was burned past
the engine. -/
namespace DscProtocol

namespace World

/-- The sum of all recorded debts. -/
def debts (w : World) : Nat := ∑ user, w.engine.dscMinted user

def supply (w : World) : Nat := (w.tokens w.engine.dsc).totalSupply

/-- Debts and supply move by the same amount. -/
def Matched (w after : World) : Prop := after.debts + w.supply = w.debts + after.supply

end World

/-- What successful `burnFrom` calls made directly on the coin destroy. -/
def burnedDirectly : World → Action → Nat :=
  Runs.charge Action.exec fun _ action => action.burned

namespace World

variable {w after : World} {sender source target token account onBehalfOf dscFrom : Address}
  {amount : Nat}

theorem Matched.refl (w : World) : Matched w w := rfl

theorem Matched.trans {first second third : World} (left : Matched first second)
    (right : Matched second third) : Matched first third := by
  unfold Matched at *
  omega

theorem debts_of_dscMinted_eq (same : after.engine.dscMinted = w.engine.dscMinted) :
    after.debts = w.debts := by
  unfold debts
  rw [same]

theorem supply_setToken {contract : ERC20}
    (same : contract.totalSupply = (w.tokens token).totalSupply) :
    (w.setToken token contract).supply = w.supply := by
  change (Function.update w.tokens token contract w.engine.dsc).totalSupply = w.supply
  by_cases here : w.engine.dsc = token
  · rw [here, Function.update_self, same, ← here]
    rfl
  · rw [Function.update_of_ne here]
    rfl

theorem received_matched : Matched w (w.received sender token amount) := by
  have debts : (w.received sender token amount).debts = w.debts := debts_of_dscMinted_eq rfl
  have supply : (w.received sender token amount).supply = w.supply :=
    @supply_setToken (w.setDeposited sender token _) token _ ERC20.pulled_totalSupply
  unfold Matched
  omega

theorem released_matched : Matched w (w.released source target token amount) := by
  have debts : (w.released source target token amount).debts = w.debts :=
    debts_of_dscMinted_eq rfl
  have supply : (w.released source target token amount).supply = w.supply :=
    @supply_setToken (w.setDeposited source token _) token _ rfl
  unfold Matched
  omega

theorem issued_matched : Matched w (w.issued account amount) := by
  have debts : (w.issued account amount).debts + w.engine.dscMinted account =
      w.debts + (w.engine.dscMinted account + amount) :=
    Ledger.sum_update w.engine.dscMinted account _
  have supply : (w.issued account amount).supply = w.supply + amount := issued_totalSupply
  unfold Matched
  omega

theorem repaid_matched (orderly : w.Orderly) (repays : w.Repays onBehalfOf dscFrom amount) :
    Matched w (w.repaid onBehalfOf dscFrom amount) := by
  have debts : (w.repaid onBehalfOf dscFrom amount).debts + w.engine.dscMinted onBehalfOf =
      w.debts + (w.engine.dscMinted onBehalfOf - amount) :=
    Ledger.sum_update w.engine.dscMinted onBehalfOf _
  have supply : (w.repaid onBehalfOf dscFrom amount).supply = w.supply - amount :=
    repaid_totalSupply orderly repays
  have owed := repays.owed
  have circulating : amount ≤ w.supply := by
    have held := Ledger.le_sum (w.tokens w.engine.dsc).balances dscFrom
    rw [(orderly.sound w.engine.dsc).conserved] at held
    exact repays.pulls.enough.trans held
  unfold Matched
  omega

/-- `mint` credits both ledgers, `burn` debits the debt of one account and the coins of a
possibly different one by the same amount. -/
theorem exec_matched (orderly : w.Orderly) (user : sender ≠ w.engineAddress) {call : EngineCall}
    (success : call.exec standard sender w = .ok after) : Matched w after := by
  have all : Matched w after ∧ after.Orderly := by
    apply orderly.exec_preserves user (Matched w) _ _ _ _ (Matched.refl w) success
    · intro middle other amount _ _ matched _
      exact matched.trans received_matched
    · intro middle source target other amount _ _ matched _
      exact matched.trans released_matched
    · intro middle amount _ _ matched _
      exact matched.trans issued_matched
    · intro middle onBehalfOf amount start _ matched repays
      exact matched.trans (repaid_matched start repays)
  exact all.1

/-- A direct `burnFrom` lowers the supply and no debt. -/
theorem burnedFrom_supply (orderly : w.Orderly)
    (enough : amount ≤ (w.tokens w.engine.dsc).balances account) :
    (w.setToken w.engine.dsc
      (((w.tokens w.engine.dsc).spent account sender amount).burned account amount)).supply +
        amount = w.supply := by
  have circulating := Ledger.le_sum (w.tokens w.engine.dsc).balances account
  rw [(orderly.sound w.engine.dsc).conserved] at circulating
  have sound : ((w.tokens w.engine.dsc).spent account sender amount).Sound :=
    (orderly.sound w.engine.dsc).spent
  have lowered := sound.burned_totalSupply (show amount ≤
    ((w.tokens w.engine.dsc).spent account sender amount).balances account by
      rw [ERC20.spent_balances]
      exact enough)
  rw [ERC20.spent_totalSupply] at lowered
  have now : (w.setToken w.engine.dsc
      (((w.tokens w.engine.dsc).spent account sender amount).burned account amount)).supply =
        (((w.tokens w.engine.dsc).spent account sender amount).burned account amount).totalSupply :=
    congrArg ERC20.totalSupply (tokens_setToken _)
  unfold supply at now ⊢
  omega

/-- Outside the engine only `burnFrom` changes the supply: nobody else mints or burns the coin,
and test tokens are not the coin. -/
theorem change_supply (orderly : w.Orderly) {action : Action} {contract : ERC20}
    (permitted : Permitted w action) (change : LedgerChange w action token contract) :
    (w.setToken token contract).supply + action.burned = w.supply := by
  cases change with
  | transfer real receiver enough => exact supply_setToken rfl
  | transferFrom pulls => exact supply_setToken ERC20.pulled_totalSupply
  | approve nothing => exact supply_setToken rfl
  | burnFrom allowed real enough => exact burnedFrom_supply orderly enough
  | withdraw real receiver enough => exact supply_setToken rfl
  | @issue _ target amount real fits =>
      have notCoin : w.engine.dsc ≠ token := permitted.2.1.symm
      exact congrArg ERC20.totalSupply (tokens_setToken_of_ne _ notCoin)

/-- One committed action: debts and supply drift apart only by what is burned directly. -/
theorem exec_debts (orderly : w.Orderly) {action : Action} (permitted : Permitted w action)
    (success : action.exec w = .ok after) :
    after.debts + w.supply = w.debts + after.supply + action.burned := by
  rcases Action.exec_cases orderly.owned permitted success with
    ⟨sender, call, rfl, user, returned⟩ | ⟨address, contract, change, rfl⟩ |
    ⟨news, feeds, timestamp, rfl⟩
  · have matched : Matched w after := exec_matched orderly user returned
    have none : (Action.callEngine sender call).burned = 0 := rfl
    unfold Matched at matched
    omega
  · have supply := change_supply orderly permitted change
    have debts : (w.setToken address contract).debts = w.debts := debts_of_dscMinted_eq rfl
    omega
  · have none := news.burned
    have debts : (w.withFeeds feeds timestamp).debts = w.debts := debts_of_dscMinted_eq rfl
    have supply : (w.withFeeds feeds timestamp).supply = w.supply :=
      congrArg ERC20.totalSupply rfl
    omega

/-- One step, also when it reverts. -/
theorem step_debts (orderly : w.Orderly) {action : Action} (permitted : Permitted w action) :
    (step w action).debts + w.supply =
      w.debts + (step w action).supply + burnedDirectly w action := by
  have drifts : ∀ next, action.exec w = .ok next →
      next.debts + w.supply = w.debts + next.supply + action.burned :=
    fun _ success => exec_debts orderly permitted success
  exact Runs.commit_drift debts supply (fun (_ : World) (action : Action) => action.burned) drifts

/-- A whole run, from any orderly state. -/
theorem run_debts {actions : List Action} (orderly : w.Orderly)
    (along : Runs.Along step Permitted w actions) :
    (Runs.run step w actions).debts + w.supply =
      w.debts + (Runs.run step w actions).supply + Runs.total step burnedDirectly w actions := by
  have drifts : ∀ state action, state.Orderly → Permitted state action →
      (step state action).debts + state.supply =
        state.debts + (step state action).supply + burnedDirectly state action :=
    fun _ _ orderly permitted => step_debts orderly permitted
  exact Runs.drift debts supply burnedDirectly
    (fun _ _ orderly permitted => orderly.step permitted) drifts orderly along

/-- No deposit is ever recorded in the stable coin. -/
theorem no_dsc_deposits (orderly : w.Orderly) : w.deposits w.engine.dsc = 0 := by
  apply Finset.sum_eq_zero
  intro user _
  by_contra some
  obtain ⟨_, _, known⟩ := orderly.deposit_real user w.engine.dsc some
  exact orderly.dsc_not_collateral (orderly.registered w.engine.dsc known)

end World

/-- From the deployed state debts and coins differ only by what was burned directly. -/
theorem Deployment.debts_eq {d : Deployment} {start : World} {actions : List Action}
    (deployed : d.run = .ok start) (along : Runs.Along step Permitted start actions) :
    (Runs.run step start actions).debts =
      (Runs.run step start actions).supply + Runs.total step burnedDirectly start actions := by
  obtain ⟨orderly, _, minted, coin, _⟩ := Deployment.run_eq_ok deployed
  have moved := World.run_debts orderly along
  have noDebt : start.debts = 0 := by
    unfold World.debts
    rw [minted]
    exact Finset.sum_const_zero
  have noSupply : start.supply = 0 := by
    unfold World.supply
    rw [coin]
    rfl
  omega

theorem Reachable.supply_le_debts {w : World} (reachable : Reachable w) : w.supply ≤ w.debts := by
  obtain ⟨d, start, actions, deployed, along, rfl⟩ := reachable
  have matched := Deployment.debts_eq deployed along
  omega

/-- Debts are the supply plus what `burnFrom` destroyed, the supply is the sum of all balances,
and the engine itself holds only the coins that were sent to it directly. -/
theorem debt_ledger_matches_supply {d : Deployment} {start : World} {actions : List Action}
    (deployed : d.run = .ok start) (along : Runs.Along step Permitted start actions) :
    (Runs.run step start actions).debts =
        (Runs.run step start actions).supply + Runs.total step burnedDirectly start actions ∧
      ∑ account, ((Runs.run step start actions).tokens
          (Runs.run step start actions).engine.dsc).balances account =
        (Runs.run step start actions).supply ∧
      (Runs.run step start actions).held (Runs.run step start actions).engine.dsc =
        Runs.total step (directlySent start.engine.dsc) start actions := by
  have reached := (Deployment.run_eq_ok deployed).1.run along
  have engineCoins := Deployment.held_eq deployed along (Runs.run step start actions).engine.dsc
  have noDeposit := World.no_dsc_deposits reached
  refine ⟨Deployment.debts_eq deployed along, (reached.sound _).conserved, ?_⟩
  rw [← (SameContracts.run start actions).dsc]
  omega

section Example

open HelperConfig

/-- The deployer mints 100 coins, burns 30 of them past the engine through an approved helper
and sends the engine 10. -/
def burnAndGift : List Action :=
  [.issue weth deployer (10 * 10 ^ 18),
    .callToken deployer weth (.approve anvil.engineAddress (5 * 10 ^ 18)),
    .callEngine deployer (.depositCollateralAndMintDsc weth (5 * 10 ^ 18) (100 * 10 ^ 18)),
    .callToken deployer anvil.dscAddress (.approve 0xabc (30 * 10 ^ 18)),
    .callCoin 0xabc (.burnFrom deployer (30 * 10 ^ 18)),
    .callToken deployer anvil.dscAddress (.transfer anvil.engineAddress (10 * 10 ^ 18))]

theorem debt_ledger_after_burn_from :
    (Runs.run step anvil.start burnAndGift).supply = 70 * 10 ^ 18 ∧
      (Runs.run step anvil.start burnAndGift).debts = 100 * 10 ^ 18 := by
  have along : Runs.Along step Permitted anvil.start burnAndGift := by decide +kernel
  have debts := (debt_ledger_matches_supply anvil.run_ok along).1
  have supply : (Runs.run step anvil.start burnAndGift).supply = 70 * 10 ^ 18 := by
    decide +kernel
  have destroyed : Runs.total step burnedDirectly anvil.start burnAndGift = 30 * 10 ^ 18 := by
    decide +kernel
  refine ⟨supply, ?_⟩
  omega

end Example

end DscProtocol
