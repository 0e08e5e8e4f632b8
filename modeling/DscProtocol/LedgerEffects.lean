import DscProtocol.Orderly

set_option autoImplicit false

/- The four effects seen from the token ledgers and the engine's two tables. On sound ledgers
nothing wraps, so every cell is a plain sum or difference. -/
namespace DscProtocol

namespace World

variable {w : World} {sender source target token other account user onBehalfOf dscFrom : Address}
  {amount : Nat}

/-- Nobody can draw on the engine's own tokens. -/
theorem Orderly.may_spend_nothing (orderly : w.Orderly)
    (allowed : (w.tokens token).MaySpend w.engineAddress sender amount) : amount = 0 := by
  have allowance := orderly.engine_allows_nothing token sender
  rcases allowed with unlimited | ⟨within, _, _⟩
  · rw [allowance] at unlimited
    exact absurd unlimited (by decide)
  · omega

theorem tokens_setToken (contract : ERC20) :
    (w.setToken token contract).tokens token = contract := Function.update_self _ _ _

theorem tokens_setToken_of_ne (contract : ERC20) (apart : other ≠ token) :
    (w.setToken token contract).tokens other = w.tokens other := Function.update_of_ne apart _ _

theorem received_tokens_of_ne (apart : other ≠ token) :
    (w.received sender token amount).tokens other = w.tokens other :=
  Function.update_of_ne apart _ _

theorem released_tokens_of_ne (apart : other ≠ token) :
    (w.released source target token amount).tokens other = w.tokens other :=
  Function.update_of_ne apart _ _

theorem issued_tokens_of_ne (apart : other ≠ w.engine.dsc) :
    (w.issued account amount).tokens other = w.tokens other := Function.update_of_ne apart _ _

theorem repaid_tokens_of_ne (apart : other ≠ w.engine.dsc) :
    (w.repaid onBehalfOf dscFrom amount).tokens other = w.tokens other :=
  Function.update_of_ne apart _ _

theorem received_token :
    (w.received sender token amount).tokens token =
      (w.tokens token).pulled w.engineAddress sender w.engineAddress amount :=
  Function.update_self _ _ _

theorem released_token :
    (w.released source target token amount).tokens token =
      (w.tokens token).moved w.engineAddress target amount :=
  Function.update_self _ _ _

theorem issued_token :
    (w.issued account amount).tokens w.engine.dsc = (w.tokens w.engine.dsc).minted account amount :=
  Function.update_self _ _ _

theorem repaid_token :
    (w.repaid onBehalfOf dscFrom amount).tokens w.engine.dsc =
      ((w.tokens w.engine.dsc).pulled w.engineAddress dscFrom w.engineAddress amount).burned
        w.engineAddress amount :=
  Function.update_self _ _ _

theorem received_balances (orderly : w.Orderly) (receives : w.Receives sender token amount) :
    ((w.received sender token amount).tokens token).balances =
      Ledger.move (w.tokens token).balances sender w.engineAddress amount := by
  rw [received_token]
  exact (orderly.sound token).pulled_balances receives.pulls.enough

theorem released_balances (orderly : w.Orderly)
    (releases : w.Releases source target token amount) :
    ((w.released source target token amount).tokens token).balances =
      Ledger.move (w.tokens token).balances w.engineAddress target amount := by
  rw [released_token]
  exact (orderly.sound token).moved_balances releases.enough

theorem issued_balances (orderly : w.Orderly) (issues : w.Issues account amount) :
    ((w.issued account amount).tokens w.engine.dsc).balances =
      Function.update (w.tokens w.engine.dsc).balances account
        ((w.tokens w.engine.dsc).balances account + amount) := by
  rw [issued_token]
  exact (orderly.sound w.engine.dsc).minted_balances issues.supply_fits

theorem issued_totalSupply :
    ((w.issued account amount).tokens w.engine.dsc).totalSupply =
      (w.tokens w.engine.dsc).totalSupply + amount := by
  rw [issued_token]
  rfl

/-- The pulled coins are in the engine's balance when it burns them. -/
theorem pulled_held (orderly : w.Orderly)
    (pulls : (w.tokens w.engine.dsc).Pulls w.engineAddress dscFrom w.engineAddress amount) :
    amount ≤ ((w.tokens w.engine.dsc).pulled w.engineAddress dscFrom w.engineAddress
      amount).balances w.engineAddress := by
  rw [(orderly.sound w.engine.dsc).pulled_balances pulls.enough]
  by_cases self : dscFrom = w.engineAddress
  · rw [self, Ledger.move_self _ _ _ (self ▸ pulls.enough)]
    exact self ▸ pulls.enough
  · rw [Ledger.move_target _ _ self]
    exact Nat.le_add_left _ _

/-- Through the engine's balance the coins of the payer are simply gone. -/
theorem repaid_balances (orderly : w.Orderly) (repays : w.Repays onBehalfOf dscFrom amount) :
    ((w.repaid onBehalfOf dscFrom amount).tokens w.engine.dsc).balances =
      Function.update (w.tokens w.engine.dsc).balances dscFrom
        ((w.tokens w.engine.dsc).balances dscFrom - amount) := by
  rw [repaid_token]
  have pulled : ((w.tokens w.engine.dsc).pulled w.engineAddress dscFrom w.engineAddress
      amount).balances = Ledger.move (w.tokens w.engine.dsc).balances dscFrom w.engineAddress
        amount := (orderly.sound w.engine.dsc).pulled_balances repays.pulls.enough
  funext account
  simp only [ERC20.burned, pulled]
  by_cases self : dscFrom = w.engineAddress
  · rw [self, Ledger.move_self _ _ _ (self ▸ repays.pulls.enough)]
  · by_cases engine : account = w.engineAddress
    · rw [engine, Function.update_self, Function.update_of_ne (fun same => self same.symm),
        Ledger.move_target _ _ self, Nat.add_sub_cancel]
    · rw [Function.update_of_ne engine]
      by_cases payer : account = dscFrom
      · rw [payer, Function.update_self, Ledger.move_source _ _ self]
      · rw [Function.update_of_ne payer, Ledger.move_other _ _ payer engine]

theorem repaid_totalSupply (orderly : w.Orderly) (repays : w.Repays onBehalfOf dscFrom amount) :
    ((w.repaid onBehalfOf dscFrom amount).tokens w.engine.dsc).totalSupply =
      (w.tokens w.engine.dsc).totalSupply - amount := by
  have sound : ((w.tokens w.engine.dsc).pulled w.engineAddress dscFrom w.engineAddress
      amount).Sound := (orderly.sound w.engine.dsc).pulled repays.pulls.enough
  rw [repaid_token, sound.burned_totalSupply repays.held, ERC20.pulled_totalSupply]

theorem repaid_allowances :
    ((w.repaid onBehalfOf dscFrom amount).tokens w.engine.dsc).allowances =
      ((w.tokens w.engine.dsc).spent dscFrom w.engineAddress amount).allowances := by
  rw [repaid_token, ERC20.burned_allowances, ERC20.pulled_allowances]

/- The balances of the account whose effect it is -/

theorem received_own_balance (orderly : w.Orderly) (user : sender ≠ w.engineAddress)
    (receives : w.Receives sender token amount) (other : Address) :
    ((w.received sender token amount).tokens other).balances sender =
      if other = token then (w.tokens other).balances sender - amount
      else (w.tokens other).balances sender := by
  split
  · rename_i here
    subst here
    rw [received_balances orderly receives, Ledger.move_source _ _ user]
  · rename_i elsewhere
    rw [received_tokens_of_ne elsewhere]

theorem released_own_balance (orderly : w.Orderly) (outside : target ≠ w.engineAddress)
    (releases : w.Releases source target token amount) (other : Address) :
    ((w.released source target token amount).tokens other).balances target =
      if other = token then (w.tokens other).balances target + amount
      else (w.tokens other).balances target := by
  split
  · rename_i here
    subst here
    rw [released_balances orderly releases, Ledger.move_target _ _ outside.symm]
  · rename_i elsewhere
    rw [released_tokens_of_ne elsewhere]

theorem issued_own_balance (orderly : w.Orderly) (issues : w.Issues account amount)
    (other : Address) :
    ((w.issued account amount).tokens other).balances account =
      if other = w.engine.dsc then (w.tokens other).balances account + amount
      else (w.tokens other).balances account := by
  split
  · rename_i here
    subst here
    rw [issued_balances orderly issues, Function.update_self]
  · rename_i elsewhere
    rw [issued_tokens_of_ne elsewhere]

theorem repaid_own_balance (orderly : w.Orderly) (repays : w.Repays onBehalfOf dscFrom amount)
    (other : Address) :
    ((w.repaid onBehalfOf dscFrom amount).tokens other).balances dscFrom =
      if other = w.engine.dsc then (w.tokens other).balances dscFrom - amount
      else (w.tokens other).balances dscFrom := by
  split
  · rename_i here
    subst here
    rw [repaid_balances orderly repays, Function.update_self]
  · rename_i elsewhere
    rw [repaid_tokens_of_ne elsewhere]

theorem received_deposited :
    (w.received sender token amount).engine.collateralDeposited =
      Ledger.assign w.engine.collateralDeposited sender token
        (w.engine.collateralDeposited sender token + amount) := rfl

theorem released_deposited :
    (w.released source target token amount).engine.collateralDeposited =
      Ledger.assign w.engine.collateralDeposited source token
        (w.engine.collateralDeposited source token - amount) := rfl

theorem repaid_minted :
    (w.repaid onBehalfOf dscFrom amount).engine.dscMinted =
      Function.update w.engine.dscMinted onBehalfOf (w.engine.dscMinted onBehalfOf - amount) := rfl

theorem repaid_minted_le (account : Address) :
    (w.repaid onBehalfOf dscFrom amount).engine.dscMinted account ≤ w.engine.dscMinted account := by
  rw [repaid_minted]
  exact update_le_self_iff.mpr (Nat.sub_le _ _) account

theorem received_position_of_ne (apart : user ≠ sender) :
    (w.received sender token amount).position user = w.position user :=
  congrArg (fun held => Pledge.Position.mk held (w.engine.dscMinted user))
    (Ledger.assign_row w.engine.collateralDeposited sender user token _ apart)

theorem released_position_of_ne (apart : user ≠ source) :
    (w.released source target token amount).position user = w.position user :=
  congrArg (fun held => Pledge.Position.mk held (w.engine.dscMinted user))
    (Ledger.assign_row w.engine.collateralDeposited source user token _ apart)

theorem issued_position_of_ne (apart : user ≠ account) :
    (w.issued account amount).position user = w.position user :=
  congrArg (Pledge.Position.mk (w.engine.collateralDeposited user))
    (Function.update_of_ne apart _ w.engine.dscMinted)

theorem repaid_position_of_ne (apart : user ≠ onBehalfOf) :
    (w.repaid onBehalfOf dscFrom amount).position user = w.position user :=
  congrArg (Pledge.Position.mk (w.engine.collateralDeposited user))
    (Function.update_of_ne apart _ w.engine.dscMinted)

/- A liquidation: two releases of the user's deposit and a repayment of its debt -/

theorem SameSetting.liquidated (w : World) (sender collateral user : Address) (debtToCover : Nat) :
    SameSetting w (w.liquidated sender collateral user debtToCover) :=
  ((SameSetting.released w user sender collateral _).trans
    (SameSetting.released _ user _ collateral _)).trans
      (SameSetting.repaid _ user sender debtToCover)

theorem liquidated_position_of_ne {debtToCover : Nat} (apart : account ≠ user) :
    (w.liquidated sender token user debtToCover).position account = w.position account := by
  unfold liquidated swept paidOut
  rw [repaid_position_of_ne apart, released_position_of_ne apart, released_position_of_ne apart]

theorem liquidated_deposited_of_ne {debtToCover : Nat} (apart : account ≠ user) :
    (w.liquidated sender token user debtToCover).engine.collateralDeposited account =
      w.engine.collateralDeposited account := by
  have same := @liquidated_position_of_ne w sender token account user debtToCover apart
  exact congrArg Pledge.Position.held same

theorem liquidated_minted_of_ne {debtToCover : Nat} (apart : account ≠ user) :
    (w.liquidated sender token user debtToCover).engine.dscMinted account =
      w.engine.dscMinted account := by
  have same := @liquidated_position_of_ne w sender token account user debtToCover apart
  exact congrArg Pledge.Position.debt same

/-- Payout and sweep touch one token, the burn only the coin. -/
theorem swept_tokens_of_ne {debtToCover : Nat} (apart : other ≠ token) :
    (w.swept sender token user debtToCover).tokens other = w.tokens other := by
  unfold swept paidOut
  rw [released_tokens_of_ne apart, released_tokens_of_ne apart]

theorem liquidated_tokens_of_ne {debtToCover : Nat} (apart : other ≠ w.engine.dsc) :
    (w.liquidated sender token user debtToCover).tokens other =
      (w.swept sender token user debtToCover).tokens other :=
  Function.update_of_ne apart _ _

/-- Payout and sweep together leave nothing of the deposit. -/
theorem liquidated_deposited {debtToCover : Nat} :
    (w.liquidated sender token user debtToCover).engine.collateralDeposited =
      Ledger.assign w.engine.collateralDeposited user token 0 := by
  change Ledger.assign (Ledger.assign w.engine.collateralDeposited user token _) user token
    (Ledger.assign w.engine.collateralDeposited user token _ user token -
      Ledger.assign w.engine.collateralDeposited user token _ user token) = _
  rw [Ledger.assign_assign, Nat.sub_self]

theorem liquidated_minted {debtToCover : Nat} :
    (w.liquidated sender token user debtToCover).engine.dscMinted =
      Function.update w.engine.dscMinted user (w.engine.dscMinted user - debtToCover) := rfl

end World

end DscProtocol
