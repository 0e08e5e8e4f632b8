import DscProtocol.LedgerEffects
import DscProtocol.Lib.Simulation
import DscProtocol.Lib.Vault
import DscProtocol.Reachability

set_option autoImplicit false

/- The protocol is an implementation of the abstract vault: forgetting coins, allowances, clocks
and addresses, every run of transactions is a run of vault moves. -/
namespace DscProtocol

open Vault (Move)

/-- The vault the engine implements for its listed tokens. -/
def vaultRules (collateralTokens : List Address) : Vault.Rules Address :=
  { terms with
    goods := collateralTokens
    bonusNum := DSCEngine.liquidationBonus
    bonusDen := DSCEngine.liquidationPrecision }

/-- What is left of the state when only positions and prices are seen. -/
def World.vault (w : World) : Vault.State Address Address := ⟨w.book, w.price⟩

/-- The moves a call makes when it succeeds. -/
def EngineCall.moves (sender : Address) (call : EngineCall) : List (Move Address Address) :=
  match call with
  | depositCollateral token amount => [.pledge sender token amount]
  | depositCollateralAndMintDsc token amountCollateral amountDscToMint =>
      [.pledge sender token amountCollateral, .borrow sender amountDscToMint]
  | mintDsc amount => [.borrow sender amount]
  | burnDsc amount => [.repay sender amount]
  | redeemCollateral token amount => [.take sender token amount]
  | redeemCollateralForDsc token amountCollateral amountDscToBurn =>
      [.repay sender amountDscToBurn, .take sender token amountCollateral]
  | liquidate collateral user debtToCover => [.close sender user collateral debtToCover]

/-- Outside the engine only a feed is seen by the vault. -/
def Action.moves (w : World) (action : Action) : List (Move Address Address) :=
  match action with
  | callEngine sender call => call.moves sender
  | updateFeed priceFeed round =>
      [.reprice ({ w with feeds := Function.update w.feeds priceFeed (some round) } : World).price]
  | _ => []

namespace World

variable {w after : World} {sender source target token account user onBehalfOf dscFrom : Address}
  {amount : Nat} {goods : List Address}

theorem vault_health (listed : w.engine.collateralTokens = goods) (account : Address) :
    w.vault.health (vaultRules goods) account = w.health account := by
  subst listed
  rfl

/-- A call that rewrites one position. -/
theorem vault_write {position : Pledge.Position Address} (same : SameSetting w after)
    (own : after.position account = position)
    (others : ∀ other, other ≠ account → after.position other = w.position other) :
    after.vault = w.vault.write account position := by
  have book : after.book = Function.update w.book account position := by
    funext other
    by_cases here : other = account
    · subst here
      rw [Function.update_self]
      exact own
    · rw [Function.update_of_ne here]
      exact others other here
  unfold vault Vault.State.write
  rw [book, same.price]

theorem received_vault :
    (w.received sender token amount).vault =
      Vault.apply w.vault (.pledge sender token amount) := by
  apply vault_write (SameSetting.received w sender token amount)
  · exact congrArg (fun held => Pledge.Position.mk held (w.engine.dscMinted sender))
      (Function.update_self sender _ w.engine.collateralDeposited)
  · exact fun other apart => received_position_of_ne apart

theorem released_vault :
    (w.released source target token amount).vault =
      Vault.apply w.vault (.take source token amount) := by
  apply vault_write (SameSetting.released w source target token amount)
  · exact congrArg (fun held => Pledge.Position.mk held (w.engine.dscMinted source))
      (Function.update_self source _ w.engine.collateralDeposited)
  · exact fun other apart => released_position_of_ne apart

theorem issued_vault :
    (w.issued account amount).vault = Vault.apply w.vault (.borrow account amount) := by
  apply vault_write (SameSetting.issued w account amount)
  · exact congrArg (Pledge.Position.mk (w.engine.collateralDeposited account))
      (Function.update_self account _ w.engine.dscMinted)
  · exact fun other apart => issued_position_of_ne apart

theorem repaid_vault :
    (w.repaid onBehalfOf dscFrom amount).vault =
      Vault.apply w.vault (.repay onBehalfOf amount) := by
  apply vault_write (SameSetting.repaid w onBehalfOf dscFrom amount)
  · exact congrArg (Pledge.Position.mk (w.engine.collateralDeposited onBehalfOf))
      (Function.update_self onBehalfOf _ w.engine.dscMinted)
  · exact fun other apart => repaid_position_of_ne apart

/-- Payout, sweep and repayment are one move of the vault. -/
theorem liquidated_vault :
    (w.liquidated sender token user amount).vault =
      Vault.apply w.vault (.close sender user token amount) := by
  apply vault_write (SameSetting.liquidated w sender token user amount)
  · unfold position
    rw [liquidated_deposited, liquidated_minted, Ledger.assign, Function.update_self,
      Function.update_self]
    rfl
  · exact fun other apart => liquidated_position_of_ne apart

/- Success of a call is permission of its moves -/

theorem deposit_allowed (success : DSCEngine.depositCollateral standard sender token amount w =
    .ok after) :
    Vault.Allowed (vaultRules goods) w.vault (.pledge sender token amount) ∧
      Vault.apply w.vault (.pledge sender token amount) = after.vault ∧ SameSetting w after := by
  obtain ⟨positive, _, _, _, rfl⟩ := DSCEngine.depositCollateral_eq_ok.mp success
  exact ⟨positive, received_vault.symm, SameSetting.received w sender token amount⟩

theorem mint_allowed (listed : w.engine.collateralTokens = goods)
    (success : DSCEngine.mintDsc sender amount w = .ok after) :
    Vault.Allowed (vaultRules goods) w.vault (.borrow sender amount) ∧
      Vault.apply w.vault (.borrow sender amount) = after.vault ∧ SameSetting w after := by
  obtain ⟨_, issues, passes, rfl⟩ := DSCEngine.mintDsc_eq_ok.mp success
  refine ⟨⟨issues.positive, ?_⟩, issued_vault.symm, SameSetting.issued w sender amount⟩
  rw [← issued_vault, @vault_health (w.issued sender amount) goods listed]
  exact passes.healthy

theorem redeem_allowed (listed : w.engine.collateralTokens = goods)
    (success : DSCEngine.redeemCollateral standard sender token amount w = .ok after) :
    Vault.Allowed (vaultRules goods) w.vault (.take sender token amount) ∧
      Vault.apply w.vault (.take sender token amount) = after.vault ∧ SameSetting w after := by
  obtain ⟨positive, _, releases, passes, rfl⟩ := DSCEngine.redeemCollateral_eq_ok.mp success
  refine ⟨⟨positive, releases.deposited, ?_⟩, released_vault.symm,
    SameSetting.released w sender sender token amount⟩
  rw [← @released_vault w sender sender token amount,
    @vault_health (w.released sender sender token amount) goods listed]
  exact passes.healthy

theorem burn_allowed (success : DSCEngine.burnDsc sender amount w = .ok after) :
    Vault.Allowed (vaultRules goods) w.vault (.repay sender amount) ∧
      Vault.apply w.vault (.repay sender amount) = after.vault ∧ SameSetting w after := by
  obtain ⟨repays, rfl⟩ := DSCEngine.burnDsc_eq_ok.mp success
  exact ⟨⟨repays.positive, repays.owed⟩, repaid_vault.symm,
    SameSetting.repaid w sender sender amount⟩

theorem priced_pos (priced : ∃ round, w.latestRoundData (w.engine.priceFeeds token) = .ok round ∧
    0 < round.answer.toInt) : 0 < w.price token := by
  obtain ⟨round, read, positive⟩ := priced
  rw [price_of_round read]
  exact Nat.mul_pos (by omega) (by decide)

theorem liquidate_allowed (listed : w.engine.collateralTokens = goods)
    (success : DSCEngine.liquidate standard sender token user amount w = .ok after) :
    Vault.Allowed (vaultRules goods) w.vault (.close sender user token amount) ∧
      Vault.apply w.vault (.close sender user token amount) = after.vault := by
  obtain ⟨liquidates, rfl⟩ := DSCEngine.liquidate_eq_ok.mp success
  have debt : amount ≤ w.engine.dscMinted user := liquidates.repays.owed
  have judged : ∀ account, (w.liquidated sender token user amount).vault.health (vaultRules goods)
      account = (w.liquidated sender token user amount).health account :=
    fun account => @vault_health (w.liquidated sender token user amount) goods listed account
  refine ⟨⟨liquidates.positive, ?_, priced_pos liquidates.priced, liquidates.pays.deposited, debt,
    ?_, ?_⟩, liquidated_vault.symm⟩
  · rw [vault_health listed]
    exact liquidates.unhealthy
  · rw [← liquidated_vault, judged, vault_health listed]
    exact liquidates.improved
  · rw [← liquidated_vault, judged]
    exact liquidates.passes.healthy

/-- A successful engine call is matched by its moves; the combined calls make two. -/
theorem call_matched {call : EngineCall} (listed : w.engine.collateralTokens = goods)
    (success : call.exec standard sender w = .ok after) :
    Runs.Along Vault.apply (Vault.Allowed (vaultRules goods)) w.vault (call.moves sender) ∧
      Runs.run Vault.apply w.vault (call.moves sender) = after.vault := by
  cases call with
  | depositCollateral token amount =>
      obtain ⟨allowed, reached, _⟩ := deposit_allowed success
      exact ⟨⟨allowed, trivial⟩, reached⟩
  | depositCollateralAndMintDsc token amountCollateral amountDscToMint =>
      obtain ⟨middle, deposited, minted⟩ := DSCEngine.depositCollateralAndMintDsc_eq_ok.mp success
      obtain ⟨first, halfway, same⟩ := deposit_allowed deposited
      obtain ⟨second, reached, _⟩ := mint_allowed (same.collateralTokens.trans listed) minted
      rw [← halfway] at second reached
      exact ⟨⟨first, second, trivial⟩, reached⟩
  | mintDsc amount =>
      obtain ⟨allowed, reached, _⟩ := mint_allowed listed success
      exact ⟨⟨allowed, trivial⟩, reached⟩
  | burnDsc amount =>
      obtain ⟨allowed, reached, _⟩ := burn_allowed success
      exact ⟨⟨allowed, trivial⟩, reached⟩
  | redeemCollateral token amount =>
      obtain ⟨allowed, reached, _⟩ := redeem_allowed listed success
      exact ⟨⟨allowed, trivial⟩, reached⟩
  | redeemCollateralForDsc token amountCollateral amountDscToBurn =>
      obtain ⟨middle, burned, redeemed⟩ := DSCEngine.redeemCollateralForDsc_eq_ok.mp success
      obtain ⟨first, halfway, same⟩ := burn_allowed burned
      obtain ⟨second, reached, _⟩ := redeem_allowed (same.collateralTokens.trans listed) redeemed
      rw [← halfway] at second reached
      exact ⟨⟨first, second, trivial⟩, reached⟩
  | liquidate collateral user debtToCover =>
      obtain ⟨allowed, reached⟩ := liquidate_allowed listed success
      exact ⟨⟨allowed, trivial⟩, reached⟩

/-- One committed action of anybody. -/
theorem action_matched {action : Action} (listed : w.engine.collateralTokens = goods)
    (success : action.exec w = .ok after) :
    Runs.Along Vault.apply (Vault.Allowed (vaultRules goods)) w.vault (action.moves w) ∧
      Runs.run Vault.apply w.vault (action.moves w) = after.vault := by
  have unseen : after.engine = w.engine → after.feeds = w.feeds → w.vault = after.vault := by
    intro engine feeds
    unfold vault book position price latestRoundData
    rw [engine, feeds]
  rcases Action.exec_frame success with ⟨sender, call, rfl, returned⟩ | ⟨engine, _, _, feeds⟩
  · exact call_matched listed returned
  · cases action with
    | callEngine sender call => exact call_matched listed success
    | updateFeed priceFeed round =>
        cases success
        exact ⟨⟨trivial, trivial⟩, rfl⟩
    | callToken | callCoin | withdraw | issue | advance =>
        exact ⟨trivial, unseen engine (feeds (fun _ _ same => by cases same))⟩

end World

/-- The moves of a whole run, those of reverted transactions left out. -/
def vaultTrace : World → List Action → List (Move Address Address) :=
  Runs.trace Action.exec fun w action => action.moves w

/-- Every run of transactions, by whomever, is a run of allowed vault moves between the views of
its first and its last state. -/
theorem engine_refines_vault (start : World) (actions : List Action) :
    Runs.Along Vault.apply (Vault.Allowed (vaultRules start.engine.collateralTokens)) start.vault
        (vaultTrace start actions) ∧
      Runs.run Vault.apply start.vault (vaultTrace start actions) =
        (Runs.run step start actions).vault := by
  have keeps : ∀ (w : World) (action : Action),
      w.engine.collateralTokens = start.engine.collateralTokens → True →
      (step w action).engine.collateralTokens = start.engine.collateralTokens :=
    fun w action listed _ => (SameContracts.step w action).collateralTokens.trans listed
  exact Runs.simulates keeps (fun _ _ _ listed _ success => World.action_matched listed success)
    rfl (Runs.along_of_forall (fun _ _ => trivial) start actions)

end DscProtocol
