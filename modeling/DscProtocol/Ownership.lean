import DscProtocol.HelperConfig
import DscProtocol.LedgerEffects
import DscProtocol.Reachability

set_option autoImplicit false

/- Whose deposits, debts, coins and allowances an engine call can touch. -/
namespace DscProtocol

namespace World

variable {w after : World} {sender source target token other account onBehalfOf dscFrom : Address}
  {amount : Nat}

/-- Outside one contract nothing moved; in it only the parties' balances and the allowances of
one owner did. -/
theorem tokens_frame {contract : ERC20} (balance : contract.balances account =
      (w.tokens token).balances account) :
    ((w.setToken token contract).tokens other).balances account =
      (w.tokens other).balances account := by
  by_cases here : other = token
  · subst here
    rw [tokens_setToken, balance]
  · rw [tokens_setToken_of_ne contract here]

theorem allowances_frame {contract : ERC20} (row : contract.allowances account =
      (w.tokens token).allowances account) :
    ((w.setToken token contract).tokens other).allowances account =
      (w.tokens other).allowances account := by
  by_cases here : other = token
  · subst here
    rw [tokens_setToken, row]
  · rw [tokens_setToken_of_ne contract here]

/-- The wallet of an account in every token, and what it allows others. -/
def SameWallet (account : Address) (w after : World) : Prop :=
  ∀ token, (after.tokens token).balances account = (w.tokens token).balances account ∧
    (after.tokens token).allowances account = (w.tokens token).allowances account

theorem SameWallet.trans {first second third : World} (left : SameWallet account first second)
    (right : SameWallet account second third) : SameWallet account first third :=
  fun token => ⟨(right token).1.trans (left token).1, (right token).2.trans (left token).2⟩

theorem received_wallet (notSender : account ≠ sender) (notEngine : account ≠ w.engineAddress) :
    SameWallet account w (w.received sender token amount) :=
  fun _ => ⟨@tokens_frame (w.setDeposited sender token _) token _ account _
      (ERC20.pulled_balances_of_ne notSender notEngine),
    @allowances_frame (w.setDeposited sender token _) token _ account _
      (ERC20.spent_allowances_of_ne notSender)⟩

theorem released_wallet (notTarget : account ≠ target) (notEngine : account ≠ w.engineAddress) :
    SameWallet account w (w.released source target token amount) :=
  fun _ => ⟨@tokens_frame (w.setDeposited source token _) token _ account _
      (ERC20.moved_balances_of_ne notEngine notTarget),
    @allowances_frame (w.setDeposited source token _) token _ account _ rfl⟩

theorem issued_wallet (notSender : account ≠ sender) :
    SameWallet account w (w.issued sender amount) :=
  fun _ => ⟨@tokens_frame (w.setMinted sender _) w.engine.dsc _ account _
      (ERC20.minted_balances_of_ne notSender),
    @allowances_frame (w.setMinted sender _) w.engine.dsc _ account _ rfl⟩

theorem repaid_wallet (notPayer : account ≠ dscFrom) (notEngine : account ≠ w.engineAddress) :
    SameWallet account w (w.repaid onBehalfOf dscFrom amount) :=
  fun _ => ⟨@tokens_frame (w.setMinted onBehalfOf _) w.engine.dsc _ account _ (by
      rw [ERC20.burned_balances_of_ne notEngine]
      exact ERC20.pulled_balances_of_ne notPayer notEngine),
    @allowances_frame (w.setMinted onBehalfOf _) w.engine.dsc _ account _
      (ERC20.spent_allowances_of_ne notPayer)⟩

/-- A call moves nothing in the wallets of accounts other than the caller, the engine and, in a
liquidation, the pool, whatever they have approved. -/
theorem exec_wallet {call : EngineCall} (success : call.exec standard sender w = .ok after)
    (notSender : account ≠ sender) (notEngine : account ≠ w.engineAddress)
    (notPool : account = w.engine.poolAddress → ∀ user, ¬ call.Liquidating user) :
    SameWallet account w after := by
  have all : SameWallet account w after ∧ SameSetting w after := by
    apply EngineCall.exec_preserves
      (fun middle => SameWallet account w middle ∧ SameSetting w middle)
      _ _ _ _ ⟨fun _ => ⟨rfl, rfl⟩, SameSetting.refl w⟩ success
    · intro middle token amount before _ _
      obtain ⟨wallet, same⟩ := before
      have apart : account ≠ middle.engineAddress := same.engineAddress ▸ notEngine
      exact ⟨wallet.trans (received_wallet notSender apart),
        same.trans (SameSetting.received middle sender token amount)⟩
    · intro middle source target token amount before receiver _
      obtain ⟨wallet, same⟩ := before
      have apart : account ≠ middle.engineAddress := same.engineAddress ▸ notEngine
      have notTarget : account ≠ target := by
        rcases receiver with ⟨_, rfl⟩ | ⟨liquidating, rfl | rfl⟩
        · exact notSender
        · exact notSender
        · intro pool
          exact notPool (pool.trans same.poolAddress) source liquidating
      exact ⟨wallet.trans (released_wallet notTarget apart),
        same.trans (SameSetting.released middle source target token amount)⟩
    · intro middle amount before _ _
      obtain ⟨wallet, same⟩ := before
      exact ⟨wallet.trans (issued_wallet notSender),
        same.trans (SameSetting.issued middle sender amount)⟩
    · intro middle onBehalfOf amount before _ _
      obtain ⟨wallet, same⟩ := before
      have apart : account ≠ middle.engineAddress := same.engineAddress ▸ notEngine
      exact ⟨wallet.trans (repaid_wallet notSender apart),
        same.trans (SameSetting.repaid middle onBehalfOf sender amount)⟩
  exact all.1

/-- Nor does it touch anyone's position but the caller's and that of the account liquidated. -/
theorem exec_position {call : EngineCall} (success : call.exec standard sender w = .ok after)
    (notSender : account ≠ sender) (spared : ¬ call.Liquidating account) :
    after.position account = w.position account := by
  have concerns : ∀ {user : Address}, user = sender ∨ call.Liquidating user → account ≠ user := by
    intro user party same
    rcases party with own | liquidating
    · exact notSender (same.trans own)
    · exact spared (same ▸ liquidating)
  apply EngineCall.exec_preserves (fun middle => middle.position account = w.position account)
    _ _ _ _ rfl success
  · intro middle token amount same _ _
    exact (received_position_of_ne notSender).trans same
  · intro middle source target token amount same receiver _
    have own : source = sender ∨ call.Liquidating source := by
      rcases receiver with ⟨own, _⟩ | ⟨liquidating, _⟩
      · exact Or.inl own
      · exact Or.inr liquidating
    exact (released_position_of_ne (concerns own)).trans same
  · intro middle amount same _ _
    exact (issued_position_of_ne notSender).trans same
  · intro middle onBehalfOf amount same own _
    exact (repaid_position_of_ne (concerns own)).trans same

end World

/-- A bystander keeps its position unless it is liquidated below the line, keeps its wallet and
its allowances, and only the caller, the engine and a liquidation's pool can gain. -/
theorem position_belongs_to_owner {w after : World} {sender account : Address} {call : EngineCall}
    (success : call.exec standard sender w = .ok after) (notSender : account ≠ sender)
    (notEngine : account ≠ w.engineAddress) (notPool : account ≠ w.engine.poolAddress) :
    ((∀ token, after.engine.collateralDeposited account token =
          w.engine.collateralDeposited account token) ∧
        after.engine.dscMinted account = w.engine.dscMinted account ∨
      call.Liquidating account ∧ ∃ factor, DSCEngine.healthFactor w account = .ok factor ∧
        factor < DSCEngine.minHealthFactor) ∧
    (∀ token,
      (w.tokens token).balances account ≤ (after.tokens token).balances account ∧
        ∀ spender, (w.tokens token).allowances account spender ≤
          (after.tokens token).allowances account spender) ∧
    ∀ token holder, (w.tokens token).balances holder < (after.tokens token).balances holder →
      holder = sender ∨ holder = w.engineAddress ∨
        holder = w.engine.poolAddress ∧ ∃ user, call.Liquidating user := by
  refine ⟨?_, ?_, ?_⟩
  · by_cases liquidating : call.Liquidating account
    · obtain ⟨collateral, debtToCover, rfl⟩ := liquidating
      obtain ⟨liquidates, _⟩ := DSCEngine.liquidate_eq_ok.mp success
      exact Or.inr ⟨⟨collateral, debtToCover, rfl⟩, w.health account,
        DSCEngine.healthFactor_eq_ok.mpr ⟨liquidates.valued, liquidates.scales, rfl⟩,
        liquidates.unhealthy⟩
    · have same := World.exec_position success notSender liquidating
      exact Or.inl ⟨fun token => congrFun (congrArg Pledge.Position.held same) token,
        congrArg Pledge.Position.debt same⟩
  · intro token
    have same := World.exec_wallet success notSender notEngine (fun pool => absurd pool notPool)
    refine ⟨Nat.le_of_eq (same token).1.symm, fun spender => ?_⟩
    rw [(same token).2]
  · intro token holder gained
    by_contra stranger
    have notSender : holder ≠ sender := fun same => stranger (Or.inl same)
    have notEngine : holder ≠ w.engineAddress := fun same => stranger (Or.inr (Or.inl same))
    have same := World.exec_wallet success notSender notEngine (fun pool user liquidating =>
      stranger (Or.inr (Or.inr ⟨pool, user, liquidating⟩)))
    rw [(same token).1] at gained
    exact Nat.lt_irrefl _ gained

section Example

open HelperConfig

/-- The liquidated user keeps the 90 ether that were never deposited. -/
theorem position_belongs_to_owner_liquidated :
    ((repriced (18 * 10 ^ 8)).tokens weth).balances user =
        90 * 10 ^ 18 ∧
      90 * 10 ^ 18 ≤ ((step (repriced (18 * 10 ^ 8))
        (.callEngine liquidator (.liquidate weth user (100 * 10 ^ 18)))).tokens
          weth).balances user := by
  have returns : (Action.exec (repriced (18 * 10 ^ 8))
      (.callEngine liquidator (.liquidate weth user (100 * 10 ^ 18)))).toBool = true := by
    decide +kernel
  have success : EngineCall.exec standard liquidator (.liquidate weth user (100 * 10 ^ 18))
      (repriced (18 * 10 ^ 8)) = .ok _ :=
    Runs.commit_of_returns returns
  have wallet : ((repriced (18 * 10 ^ 8)).tokens weth).balances
      user = 90 * 10 ^ 18 := by decide +kernel
  have owner := position_belongs_to_owner success (show user ≠ liquidator by decide)
    (by decide +kernel) (by decide +kernel)
  have kept := (owner.2.1 weth).1
  rw [wallet] at kept
  exact ⟨wallet, kept⟩

end Example

end DscProtocol
