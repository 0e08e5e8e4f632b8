import DscProtocol.Lib.Locality
import DscProtocol.Ownership
import DscProtocol.Supply

set_option autoImplicit false

/- What an account's own calls depend on. The engine's holdings and the coin's supply are shared by
all accounts; in a sturdy state they never decide whether a call goes through. -/
namespace DscProtocol

namespace ERC20

variable {token other : ERC20} {sender source target account owner spender : Address} {amount : Nat}

/- A cell after a transfer, a mint or a burn is a function of that cell before it -/

theorem moved_balances_congr (apart : source ≠ target)
    (same : token.balances account = other.balances account) :
    (token.moved source target amount).balances account =
      (other.moved source target amount).balances account := by
  simp only [moved]
  by_cases receives : account = target
  · subst receives
    rw [Function.update_self, Function.update_self, Function.update_of_ne apart.symm,
      Function.update_of_ne apart.symm, same]
  · rw [Function.update_of_ne receives, Function.update_of_ne receives]
    by_cases pays : account = source
    · subst pays
      rw [Function.update_self, Function.update_self, same]
    · rw [Function.update_of_ne pays, Function.update_of_ne pays, same]

theorem pulled_balances_congr (apart : source ≠ target)
    (same : token.balances account = other.balances account) :
    (token.pulled sender source target amount).balances account =
      (other.pulled sender source target amount).balances account := by
  apply moved_balances_congr apart
  rw [spent_balances, spent_balances, same]

theorem minted_balances_congr (same : token.balances account = other.balances account) :
    (token.minted account amount).balances account =
      (other.minted account amount).balances account := by
  simp only [minted, Function.update_self, same]

theorem spent_allowances_congr (same : token.allowances owner = other.allowances owner) :
    (token.spent owner spender amount).allowances owner =
      (other.spent owner spender amount).allowances owner := by
  unfold spent
  rw [same]
  split
  · simp only [approved, Ledger.assign, Function.update_self, same]
  · exact same

theorem maySpend_congr (same : token.allowances owner = other.allowances owner) :
    token.MaySpend owner spender amount ↔ other.MaySpend owner spender amount := by
  unfold MaySpend
  rw [same]

theorem pulls_congr (balance : token.balances source = other.balances source)
    (row : token.allowances source = other.allowances source) :
    token.Pulls sender source target amount ↔ other.Pulls sender source target amount := by
  constructor
  · intro pulls
    exact ⟨(maySpend_congr row).mp pulls.allowed, pulls.source_ne_zero, pulls.target_ne_zero,
      balance ▸ pulls.enough⟩
  · intro pulls
    exact ⟨(maySpend_congr row).mpr pulls.allowed, pulls.source_ne_zero, pulls.target_ne_zero,
      balance.symm ▸ pulls.enough⟩

end ERC20

namespace World

/-- Orderly, and every deposit is backed. -/
structure Sturdy (w : World) : Prop extends w.Orderly where
  backed : ∀ token, w.deposits token ≤ w.held token

/-- The view of an account: the setting, its position and its wallet with its approvals. -/
structure SameView (account : Address) (w after : World) : Prop where
  setting : SameSetting w after
  position : after.position account = w.position account
  wallet : SameWallet account w after

variable {w after : World} {sender account token : Address} {amount : Nat}

theorem SameSetting.symm (same : SameSetting w after) : SameSetting after w where
  engineAddress := same.engineAddress.symm
  status := same.status.symm
  priceFeeds := same.priceFeeds.symm
  collateralTokens := same.collateralTokens.symm
  dsc := same.dsc.symm
  poolAddress := same.poolAddress.symm
  pool := same.pool.symm
  dscOwner := same.dscOwner.symm
  feeds := same.feeds.symm
  etherBalance := same.etherBalance.symm
  timestamp := same.timestamp.symm

namespace SameView

theorem refl (account : Address) (w : World) : SameView account w w :=
  ⟨SameSetting.refl w, rfl, fun _ => ⟨rfl, rfl⟩⟩

theorem symm (view : SameView account w after) : SameView account after w :=
  ⟨view.setting.symm, view.position.symm, fun token =>
    ⟨(view.wallet token).1.symm, (view.wallet token).2.symm⟩⟩

theorem trans {first second third : World} (left : SameView account first second)
    (right : SameView account second third) : SameView account first third :=
  ⟨left.setting.trans right.setting, right.position.trans left.position,
    left.wallet.trans right.wallet⟩

theorem equivalence (account : Address) : Equivalence (SameView account) :=
  ⟨refl account, symm, trans⟩

variable (view : SameView account w after)

include view

theorem deposited :
    after.engine.collateralDeposited account = w.engine.collateralDeposited account :=
  congrArg Pledge.Position.held view.position

theorem minted : after.engine.dscMinted account = w.engine.dscMinted account :=
  congrArg Pledge.Position.debt view.position

theorem passes_iff : after.Passes account ↔ w.Passes account := by
  have value := view.setting.value_eq view.deposited
  have health : after.health account = w.health account := by
    unfold World.health
    rw [view.setting.collateralTokens, view.setting.price, view.position]
  have scales : after.Scales account ↔ w.Scales account := by
    unfold Scales
    rw [value, view.minted]
  constructor
  · intro passes
    exact ⟨(view.setting.valued_iff view.deposited).mp passes.valued, scales.mp passes.scales,
      health ▸ passes.healthy⟩
  · intro passes
    exact ⟨(view.setting.valued_iff view.deposited).mpr passes.valued, scales.mpr passes.scales,
      health.symm ▸ passes.healthy⟩

end SameView

/- The four effects on an account's own view -/

theorem SameWallet.write {next later : World} {address other : Address} {contract changed : ERC20}
    (wallet : SameWallet account w after) (same : other = address)
    (first : next.tokens = Function.update w.tokens address contract)
    (second : later.tokens = Function.update after.tokens other changed)
    (balance : changed.balances account = contract.balances account)
    (row : changed.allowances account = contract.allowances account) :
    SameWallet account next later := by
  subst same
  intro token
  rw [first, second]
  by_cases here : token = other
  · subst here
    rw [Function.update_self, Function.update_self]
    exact ⟨balance, row⟩
  · rw [Function.update_of_ne here, Function.update_of_ne here]
    exact wallet token

theorem received_position :
    (w.received sender token amount).position sender =
      ⟨Function.update (w.position sender).held token ((w.position sender).held token + amount),
        (w.position sender).debt⟩ :=
  congrArg (fun held => Pledge.Position.mk held (w.engine.dscMinted sender))
    (Function.update_self _ _ _)

theorem released_position :
    (w.released sender sender token amount).position sender =
      ⟨Function.update (w.position sender).held token ((w.position sender).held token - amount),
        (w.position sender).debt⟩ :=
  congrArg (fun held => Pledge.Position.mk held (w.engine.dscMinted sender))
    (Function.update_self _ _ _)

theorem issued_position :
    (w.issued sender amount).position sender =
      ⟨(w.position sender).held, (w.position sender).debt + amount⟩ :=
  congrArg (Pledge.Position.mk (w.engine.collateralDeposited sender)) (Function.update_self _ _ _)

theorem repaid_position :
    (w.repaid sender sender amount).position sender =
      ⟨(w.position sender).held, (w.position sender).debt - amount⟩ :=
  congrArg (Pledge.Position.mk (w.engine.collateralDeposited sender)) (Function.update_self _ _ _)

namespace SameView

variable (view : SameView sender w after)

include view

theorem received (user : sender ≠ w.engineAddress) :
    SameView sender (w.received sender token amount) (after.received sender token amount) := by
  refine ⟨?_, ?_, ?_⟩
  · exact (SameSetting.received w sender token amount).symm.trans
      (view.setting.trans (SameSetting.received after sender token amount))
  · rw [received_position, received_position, view.position]
  · apply view.wallet.write rfl rfl rfl
    · rw [view.setting.engineAddress]
      exact ERC20.pulled_balances_congr user (view.wallet token).1
    · rw [view.setting.engineAddress]
      exact ERC20.spent_allowances_congr (view.wallet token).2

theorem released (user : sender ≠ w.engineAddress) :
    SameView sender (w.released sender sender token amount)
      (after.released sender sender token amount) := by
  refine ⟨?_, ?_, ?_⟩
  · exact (SameSetting.released w sender sender token amount).symm.trans
      (view.setting.trans (SameSetting.released after sender sender token amount))
  · rw [released_position, released_position, view.position]
  · apply view.wallet.write rfl rfl rfl
    · rw [view.setting.engineAddress]
      exact ERC20.moved_balances_congr user.symm (view.wallet token).1
    · exact (view.wallet token).2

theorem issued : SameView sender (w.issued sender amount) (after.issued sender amount) := by
  refine ⟨?_, ?_, ?_⟩
  · exact (SameSetting.issued w sender amount).symm.trans
      (view.setting.trans (SameSetting.issued after sender amount))
  · rw [issued_position, issued_position, view.position]
  · apply view.wallet.write view.setting.dsc rfl rfl
    · rw [view.setting.dsc]
      exact ERC20.minted_balances_congr (view.wallet w.engine.dsc).1
    · rw [view.setting.dsc]
      exact (view.wallet w.engine.dsc).2

theorem repaid (user : sender ≠ w.engineAddress) :
    SameView sender (w.repaid sender sender amount) (after.repaid sender sender amount) := by
  refine ⟨?_, ?_, ?_⟩
  · exact (SameSetting.repaid w sender sender amount).symm.trans
      (view.setting.trans (SameSetting.repaid after sender sender amount))
  · rw [repaid_position, repaid_position, view.position]
  · apply view.wallet.write view.setting.dsc rfl rfl
    · rw [view.setting.dsc, view.setting.engineAddress, ERC20.burned_balances_of_ne user,
        ERC20.burned_balances_of_ne user]
      exact ERC20.pulled_balances_congr user (view.wallet w.engine.dsc).1
    · rw [view.setting.dsc, view.setting.engineAddress]
      exact ERC20.spent_allowances_congr (view.wallet w.engine.dsc).2

end SameView

theorem Sturdy.exec (sturdy : w.Sturdy) (user : sender ≠ w.engineAddress) {call : EngineCall}
    (success : call.exec standard sender w = .ok after) : after.Sturdy := by
  refine ⟨sturdy.toOrderly.execEngine user success, ?_⟩
  intro token
  have balanced : Balanced token w after := exec_balanced sturdy.toOrderly user success
  have backed := sturdy.backed token
  unfold Balanced at balanced
  omega

/- The four entry points decided by the account's own view -/

section Entries

variable {next : World}

theorem deposit_local (view : SameView sender w after) (user : sender ≠ w.engineAddress)
    (success : DSCEngine.depositCollateral standard sender token amount w = .ok next) :
    ∃ later, DSCEngine.depositCollateral standard sender token amount after = .ok later ∧
      SameView sender next later := by
  obtain ⟨positive, listed, idle, receives, rfl⟩ := DSCEngine.depositCollateral_eq_ok.mp success
  have pulls : (after.tokens token).Pulls after.engineAddress sender after.engineAddress
      amount := by
    rw [view.setting.engineAddress]
    exact (ERC20.pulls_congr (view.wallet token).1 (view.wallet token).2).mpr receives.pulls
  refine ⟨_, DSCEngine.depositCollateral_eq_ok.mpr ⟨positive, ?_, ?_, ⟨?_, pulls⟩, rfl⟩,
    view.received user⟩
  · rw [view.setting.priceFeeds]
    exact listed
  · rw [view.setting.status]
    exact idle
  · rw [view.deposited]
    exact receives.fits

theorem mint_local (view : SameView sender w after) (room : after.supply + amount < wordLimit)
    (success : DSCEngine.mintDsc sender amount w = .ok next) :
    ∃ later, DSCEngine.mintDsc sender amount after = .ok later ∧ SameView sender next later := by
  obtain ⟨idle, issues, passes, rfl⟩ := DSCEngine.mintDsc_eq_ok.mp success
  refine ⟨_, DSCEngine.mintDsc_eq_ok.mpr ⟨?_, ⟨?_, ?_, issues.account_ne_zero, issues.positive,
    room⟩, view.issued.passes_iff.mpr passes, rfl⟩, view.issued⟩
  · rw [view.setting.status]
    exact idle
  · rw [view.minted]
    exact issues.debt_fits
  · rw [view.setting.dscOwner, view.setting.engineAddress]
    exact issues.owned

theorem burn_local (view : SameView sender w after) (orderly : after.Orderly)
    (user : sender ≠ w.engineAddress)
    (success : DSCEngine.burnDsc sender amount w = .ok next) :
    ∃ later, DSCEngine.burnDsc sender amount after = .ok later ∧ SameView sender next later := by
  obtain ⟨repays, rfl⟩ := DSCEngine.burnDsc_eq_ok.mp success
  have pulls : (after.tokens after.engine.dsc).Pulls after.engineAddress sender
      after.engineAddress amount := by
    rw [view.setting.engineAddress, view.setting.dsc]
    exact (ERC20.pulls_congr (view.wallet w.engine.dsc).1 (view.wallet w.engine.dsc).2).mpr
      repays.pulls
  refine ⟨_, DSCEngine.burnDsc_eq_ok.mpr ⟨⟨?_, pulls, orderly.owned, repays.positive,
    pulled_held orderly pulls⟩, rfl⟩, view.repaid user⟩
  rw [view.minted]
  exact repays.owed

theorem redeem_local (view : SameView sender w after) (sturdy : after.Sturdy)
    (user : sender ≠ w.engineAddress)
    (success : DSCEngine.redeemCollateral standard sender token amount w = .ok next) :
    ∃ later, DSCEngine.redeemCollateral standard sender token amount after = .ok later ∧
      SameView sender next later := by
  obtain ⟨positive, idle, releases, passes, rfl⟩ := DSCEngine.redeemCollateral_eq_ok.mp success
  have deposited : amount ≤ after.engine.collateralDeposited sender token := by
    rw [view.deposited]
    exact releases.deposited
  -- the engine can pay: the deposit is part of what it holds
  have enough : amount ≤ (after.tokens token).balances after.engineAddress := by
    have part := Ledger.le_sum (fun user => after.engine.collateralDeposited user token) sender
    exact (deposited.trans part).trans (sturdy.backed token)
  have releases : after.Releases sender sender token amount :=
    ⟨deposited, sturdy.engine_ne_zero, releases.target_ne_zero, enough⟩
  have released : SameView sender (w.released sender sender token amount)
      (after.released sender sender token amount) := view.released user
  refine ⟨_, DSCEngine.redeemCollateral_eq_ok.mpr ⟨positive, ?_, releases,
    released.passes_iff.mpr passes, rfl⟩, released⟩
  rw [view.setting.status]
  exact idle

end Entries

end World

/-- What a call of this account mints, if the health check lets it. -/
def EngineCall.minting (sender : Address) (call : EngineCall) (w : World) : Nat :=
  match call with
  | mintDsc amount =>
      if (DSCEngine.revertIfHealthFactorIsBroken (w.issued sender amount) sender).toBool then amount
      else 0
  | depositCollateralAndMintDsc token amountCollateral amountDscToMint =>
      if (DSCEngine.revertIfHealthFactorIsBroken
          ((w.received sender token amountCollateral).issued sender amountDscToMint)
          sender).toBool then amountDscToMint
      else 0
  | _ => 0

/-- Not a liquidation: one of the six calls about the caller's own position. -/
def EngineCall.Own (call : EngineCall) : Prop := ∀ user, ¬ call.Liquidating user

namespace World

variable {w after next : World} {sender account : Address} {call : EngineCall}

theorem passes_iff_toBool :
    (DSCEngine.revertIfHealthFactorIsBroken w sender).toBool = true ↔ w.Passes sender := by
  constructor
  · intro returned
    cases result : DSCEngine.revertIfHealthFactorIsBroken w sender with
    | ok done => exact DSCEngine.revertIfHealthFactorIsBroken_eq_ok.mp result
    | error reason =>
        rw [result] at returned
        cases returned
  · intro passes
    have result : DSCEngine.revertIfHealthFactorIsBroken w sender = .ok () :=
      DSCEngine.revertIfHealthFactorIsBroken_eq_ok.mpr passes
    rw [result]
    rfl

theorem SameView.toBool_eq (view : SameView sender w after) :
    (DSCEngine.revertIfHealthFactorIsBroken after sender).toBool =
      (DSCEngine.revertIfHealthFactorIsBroken w sender).toBool := by
  rw [Bool.eq_iff_iff, passes_iff_toBool, passes_iff_toBool]
  exact view.passes_iff

theorem SameView.minting_eq (view : SameView sender w after) (user : sender ≠ w.engineAddress) :
    call.minting sender after = call.minting sender w := by
  cases call with
  | mintDsc amount => simp only [EngineCall.minting, view.issued.toBool_eq]
  | depositCollateralAndMintDsc token amountCollateral amountDscToMint =>
      simp only [EngineCall.minting, (view.received user).issued.toBool_eq]
  | _ => rfl

/-- A call raises the supply by no more than that. -/
theorem exec_supply_le (orderly : w.Orderly) (own : call.Own)
    (success : call.exec standard sender w = .ok after) :
    after.supply ≤ w.supply + call.minting sender w := by
  have deposit : ∀ {w after : World} {token : Address} {amount : Nat},
      DSCEngine.depositCollateral standard sender token amount w = .ok after →
        after.supply = w.supply := by
    intro w after token amount success
    obtain ⟨_, _, _, _, rfl⟩ := DSCEngine.depositCollateral_eq_ok.mp success
    exact @supply_setToken (w.setDeposited sender token _) token _ ERC20.pulled_totalSupply
  have burn : ∀ {after : World} {amount : Nat},
      DSCEngine.burnDsc sender amount w = .ok after → after.supply ≤ w.supply := by
    intro after amount success
    obtain ⟨repays, rfl⟩ := DSCEngine.burnDsc_eq_ok.mp success
    exact (Nat.le_of_eq (repaid_totalSupply orderly repays)).trans (Nat.sub_le _ _)
  have redeem : ∀ {w after : World} {token : Address} {amount : Nat},
      DSCEngine.redeemCollateral standard sender token amount w = .ok after →
        after.supply = w.supply := by
    intro w after token amount success
    obtain ⟨_, _, _, _, rfl⟩ := DSCEngine.redeemCollateral_eq_ok.mp success
    exact @supply_setToken (w.setDeposited sender token _) token _ rfl
  cases call with
  | depositCollateral token amount => exact Nat.le_of_eq (deposit success)
  | depositCollateralAndMintDsc token amountCollateral amountDscToMint =>
      obtain ⟨middle, deposited, minted⟩ := DSCEngine.depositCollateralAndMintDsc_eq_ok.mp success
      have same := deposit deposited
      obtain ⟨_, _, _, _, rfl⟩ := DSCEngine.depositCollateral_eq_ok.mp deposited
      obtain ⟨_, _, passes, rfl⟩ := DSCEngine.mintDsc_eq_ok.mp minted
      simp only [EngineCall.minting, passes_iff_toBool.mpr passes, ↓reduceIte]
      rw [← same]
      exact Nat.le_of_eq issued_totalSupply
  | mintDsc amount =>
      obtain ⟨_, _, passes, rfl⟩ := DSCEngine.mintDsc_eq_ok.mp success
      simp only [EngineCall.minting, passes_iff_toBool.mpr passes, ↓reduceIte]
      exact Nat.le_of_eq issued_totalSupply
  | burnDsc amount => exact burn success
  | redeemCollateral token amount => exact Nat.le_of_eq (redeem success)
  | redeemCollateralForDsc token amountCollateral amountDscToBurn =>
      obtain ⟨middle, burned, redeemed⟩ := DSCEngine.redeemCollateralForDsc_eq_ok.mp success
      exact (Nat.le_of_eq (redeem redeemed)).trans (burn burned)
  | liquidate collateral user debtToCover => exact absurd ⟨collateral, debtToCover, rfl⟩ (own user)

/-- Enough is backed, and there is room for what the call mints. -/
structure Ready (sender : Address) (call : EngineCall) (w : World) : Prop extends w.Sturdy where
  user : sender ≠ w.engineAddress
  room : w.supply + call.minting sender w < wordLimit

/-- A call of an account about its own position depends on nothing but its view. -/
theorem exec_local (own : call.Own) :
    Locality.Local Action.exec (Ready sender call) (SameView sender)
      (.callEngine sender call) := by
  intro w after next ready later view success
  have user := ready.user
  have orderly := later.toSturdy.toOrderly
  cases call with
  | depositCollateral token amount => exact deposit_local view user success
  | depositCollateralAndMintDsc token amountCollateral amountDscToMint =>
      obtain ⟨middle, deposited, minted⟩ := DSCEngine.depositCollateralAndMintDsc_eq_ok.mp success
      obtain ⟨elsewhere, returned, agree⟩ := deposit_local view user deposited
      have room : elsewhere.supply + amountDscToMint < wordLimit := by
        have bound := later.room
        obtain ⟨_, _, _, _, rfl⟩ := DSCEngine.depositCollateral_eq_ok.mp deposited
        obtain ⟨_, _, _, _, rfl⟩ := DSCEngine.depositCollateral_eq_ok.mp returned
        obtain ⟨_, _, passes, _⟩ := DSCEngine.mintDsc_eq_ok.mp minted
        have there := passes_iff_toBool.mpr (agree.issued.passes_iff.mpr passes)
        simp only [EngineCall.minting, there, ↓reduceIte] at bound
        have same : (after.received sender token amountCollateral).supply = after.supply :=
          @supply_setToken (after.setDeposited sender token _) token _ ERC20.pulled_totalSupply
        omega
      obtain ⟨final, returned', agree⟩ := mint_local agree room minted
      exact ⟨final,
        DSCEngine.depositCollateralAndMintDsc_eq_ok.mpr ⟨elsewhere, returned, returned'⟩, agree⟩
  | mintDsc amount =>
      have room : after.supply + amount < wordLimit := by
        have bound := later.room
        obtain ⟨_, _, passes, _⟩ := DSCEngine.mintDsc_eq_ok.mp success
        have there := passes_iff_toBool.mpr (view.issued.passes_iff.mpr passes)
        simp only [EngineCall.minting, there, ↓reduceIte] at bound
        exact bound
      exact mint_local view room success
  | burnDsc amount => exact burn_local view orderly user success
  | redeemCollateral token amount => exact redeem_local view later.toSturdy user success
  | redeemCollateralForDsc token amountCollateral amountDscToBurn =>
      obtain ⟨middle, burned, redeemed⟩ := DSCEngine.redeemCollateralForDsc_eq_ok.mp success
      obtain ⟨elsewhere, returned, agree⟩ := burn_local view orderly user burned
      have sturdy : elsewhere.Sturdy :=
        @Sturdy.exec _ _ _ later.toSturdy later.user (.burnDsc amountDscToBurn) returned
      have userThere : sender ≠ middle.engineAddress := by
        obtain ⟨_, rfl⟩ := DSCEngine.burnDsc_eq_ok.mp burned
        exact user
      obtain ⟨final, returned', agree⟩ := redeem_local agree sturdy userThere redeemed
      exact ⟨final, DSCEngine.redeemCollateralForDsc_eq_ok.mpr ⟨elsewhere, returned, returned'⟩,
        agree⟩
  | liquidate collateral user debtToCover => exact absurd ⟨collateral, debtToCover, rfl⟩ (own user)

end World

theorem Reachable.sturdy {w : World} (reachable : Reachable w) : w.Sturdy :=
  ⟨reachable.orderly, reachable.backed⟩

namespace World

variable {w after : World} {sender account : Address} {call : EngineCall}

/-- A call of another account leaves the view alone, liquidations of the account and of anyone in
favour of a pool apart. -/
theorem exec_view (success : call.exec standard sender w = .ok after)
    (notSender : account ≠ sender) (notEngine : account ≠ w.engineAddress)
    (spared : ¬ call.Liquidating account)
    (notPool : account = w.engine.poolAddress → call.Own) : SameView account w after :=
  ⟨SameSetting.exec success, exec_position success notSender spared,
    exec_wallet success notSender notEngine notPool⟩

end World

end DscProtocol
