import DscProtocol.Exit

set_option autoImplicit false

/- The health of an account as the getters tell it: which of them return, and that they tell
what `mintDsc`, `redeemCollateral` and `liquidate` decide on. -/
namespace DscProtocol

namespace Revert

/-- A reason that no check of the engine gives. -/
def External (reason : Revert) : Prop := ∀ error, reason ≠ .engine error

/-- Any reason but that of the first check of `liquidate`. -/
def NotFine (reason : Revert) : Prop := reason ≠ .engine .healthFactorIsFine

theorem External.notFine {reason : Revert} (outside : reason.External) : reason.NotFine :=
  outside .healthFactorIsFine

theorem External.never_fine {α : Type} {result : Except Revert α}
    (fails : Checked.FailsOnly External result) : Checked.FailsOnly NotFine result :=
  fails.mono fun _ => External.notFine

end Revert

namespace World

/-- What the entry points make of a health factor: a mint or a withdrawal is reverted below the
line, a liquidation at it or above. -/
structure DecidedBy (w : World) (user : Address) (factor : Nat) : Prop where
  broken : DSCEngine.revertIfHealthFactorIsBroken w user =
    if factor < DSCEngine.minHealthFactor then .error (.engine (.breaksHealthFactor factor))
    else .ok ()
  fine : ∀ sender collateral debtToCover, 0 < debtToCover →
    (DSCEngine.liquidate standard sender collateral user debtToCover w =
      .error (.engine .healthFactorIsFine) ↔ DSCEngine.minHealthFactor ≤ factor)

/-- The purpose of the getters: all return, and the factor calculated from what one of them tells
is the factor the other tells, on which the account is judged. -/
def HealthViewsAgree (w : World) (user : Address) : Prop :=
  ∃ debt value factor, DSCEngine.getAccountInformation w user = .ok (debt, value) ∧
    DSCEngine.getHealthFactor w user = .ok factor ∧
    DSCEngine.calculateHealthFactor debt value = .ok factor ∧ w.DecidedBy user factor

end World

open Checked ReentrancyGuard

section External

variable {w : World} {token : ERC20} {coin : DecentralisedStableCoin}
  {sender source target account user address : Address} {amount : Nat}

theorem panic_external {code : Panic} : (Revert.panic code).External := fun _ => nofun

theorem require_external {condition : Prop} [Decidable condition] {message : String} :
    FailsOnly Revert.External (Checked.require condition (.require message)) :=
  .require fun _ _ => nofun

namespace ERC20

theorem transferInternal_external :
    FailsOnly Revert.External (token.transferInternal source target amount) := by
  refine .bind require_external fun _ _ => ?_
  refine .bind require_external fun _ _ => ?_
  exact .bind require_external fun _ _ => .ok

theorem approveInternal_external :
    FailsOnly Revert.External (token.approveInternal source target amount) := by
  refine .bind require_external fun _ _ => ?_
  exact .bind require_external fun _ _ => .ok

theorem spendAllowance_external :
    FailsOnly Revert.External (token.spendAllowance source target amount) := by
  unfold spendAllowance
  dsimp only
  split
  · exact .bind require_external fun _ _ => approveInternal_external
  · exact .ok

theorem burnInternal_external :
    FailsOnly Revert.External (token.burnInternal account amount) := by
  refine .bind require_external fun _ _ => ?_
  exact .bind require_external fun _ _ => .ok

end ERC20

theorem standard_transfer_external :
    FailsOnly Revert.External (standard.transfer address sender target amount w) :=
  .bind (.bind ERC20.transferInternal_external fun _ _ => .ok) fun _ _ => .ok

namespace DecentralisedStableCoin

theorem transferFrom_external :
    FailsOnly Revert.External (coin.transferFrom sender source target amount) := by
  refine .bind (.bind ERC20.spendAllowance_external fun _ _ => ?_) fun _ _ => .ok
  exact .bind ERC20.transferInternal_external fun _ _ => .ok

theorem burn_external : FailsOnly Revert.External (coin.burn sender amount) := by
  refine .bind require_external fun _ _ => ?_
  refine .bind (.require fun _ _ => nofun) fun _ _ => ?_
  refine .bind (.require fun _ _ => nofun) fun _ _ => ?_
  exact .bind ERC20.burnInternal_external fun _ _ => .ok

end DecentralisedStableCoin

theorem World.latestRoundData_external : FailsOnly Revert.External (w.latestRoundData address) := by
  unfold World.latestRoundData
  split
  · exact .error fun _ => nofun
  · split
    · exact .ok
    · exact .error fun _ => nofun

namespace DSCEngine

theorem getUsdValue_external : FailsOnly Revert.External (getUsdValue w address amount) := by
  refine .bind (.bind World.latestRoundData_external fun _ _ => ?_) fun _ _ => ?_
  · refine .bind (.sub panic_external) fun _ _ => ?_
    exact .bind (.require fun _ _ => nofun) fun _ _ => .ok
  · refine .bind (.mul panic_external) fun _ _ => ?_
    exact .bind (.mul panic_external) fun _ _ => .div panic_external

theorem getTokenAmountFromUsd_external :
    FailsOnly Revert.External (getTokenAmountFromUsd w address amount) := by
  refine .bind World.latestRoundData_external fun _ _ => ?_
  refine .bind (.mul panic_external) fun _ _ => ?_
  exact .bind (.mul panic_external) fun _ _ => .div panic_external

theorem calculateHealthFactor_external {debt value : Nat} :
    FailsOnly Revert.External (calculateHealthFactor debt value) := by
  refine .bind (.mul panic_external) fun _ _ => ?_
  refine .bind (.div panic_external) fun _ _ => ?_
  exact .bind (.mul panic_external) fun _ _ => .div panic_external

/-- Where a health factor cannot be told, no check of the engine is to blame. -/
theorem healthFactor_external : FailsOnly Revert.External (healthFactor w user) := by
  have value : FailsOnly Revert.External (getAccountCollateralValue w user) :=
    .foldlM (fun _ _ => .bind getUsdValue_external fun _ _ => .add panic_external) 0
  refine .bind (.bind value fun _ _ => .ok) fun information _ => ?_
  dsimp only
  split
  · exact .ok
  · exact calculateHealthFactor_external

end DSCEngine

end External

section Decisions

variable {w : World} {sender source target token collateral user : Address}
  {amount debtToCover factor : Nat}

namespace DSCEngine

theorem redeemCollateralInternal_notFine :
    FailsOnly Revert.NotFine (redeemCollateralInternal standard source target token amount w) := by
  refine .bind (.sub panic_external.notFine) fun _ _ => ?_
  refine .bind (Revert.External.never_fine standard_transfer_external) fun _ _ => ?_
  exact .bind (.require fun _ => nofun) fun _ _ => .ok

theorem burnDscInternal_notFine :
    FailsOnly Revert.NotFine (burnDscInternal user sender amount w) := by
  refine .bind (.sub panic_external.notFine) fun _ _ => ?_
  refine .bind (Revert.External.never_fine DecentralisedStableCoin.transferFrom_external)
    fun _ _ => ?_
  refine .bind (.require fun _ => nofun) fun _ _ => ?_
  exact .bind (Revert.External.never_fine DecentralisedStableCoin.burn_external)
    fun _ _ => .ok

theorem revertIfHealthFactorIsBroken_notFine :
    FailsOnly Revert.NotFine (revertIfHealthFactorIsBroken w user) := by
  refine .bind (Revert.External.never_fine healthFactor_external) fun _ _ => ?_
  exact .require fun _ => nofun

/-- The health factor is told the same from within a call. -/
theorem healthFactor_setStatus (w : World) (user : Address) (status : ReentrancyStatus) :
    healthFactor (w.setStatus status) user = healthFactor w user := rfl

/-- Past its first check `liquidate` fails for other reasons. -/
theorem liquidate_notFine (returned : healthFactor w user = .ok factor)
    (low : factor < minHealthFactor) :
    FailsOnly Revert.NotFine (liquidate standard sender collateral user debtToCover w) := by
  refine .bind (.require fun _ => nofun) fun _ _ => ?_
  refine .bind (.bind (.require fun _ => nofun) fun _ _ => .ok) fun entered entering => ?_
  have inside : healthFactor entered user = .ok factor := by
    obtain ⟨_, _, same⟩ := bind_eq_ok.mp entering
    rw [← Except.ok.inj same, healthFactor_setStatus]
    exact returned
  refine .bind ?_ fun _ _ => .ok
  refine .bind (Revert.External.never_fine healthFactor_external) fun starting told => ?_
  -- the factor read inside is the given one, so the first check passes
  have below : starting < minHealthFactor := by
    rw [Except.ok.inj (told.symm.trans inside)]
    exact low
  refine .bind (.require fun high => absurd below (by omega)) fun _ _ => ?_
  refine .bind (Revert.External.never_fine getTokenAmountFromUsd_external) fun _ _ => ?_
  refine .bind (.mul panic_external.notFine) fun _ _ => ?_
  refine .bind (.div panic_external.notFine) fun _ _ => ?_
  refine .bind (.add panic_external.notFine) fun _ _ => ?_
  refine .bind redeemCollateralInternal_notFine fun _ _ => ?_
  refine .bind redeemCollateralInternal_notFine fun _ _ => ?_
  refine .bind burnDscInternal_notFine fun _ _ => ?_
  refine .bind (Revert.External.never_fine healthFactor_external) fun _ _ => ?_
  refine .bind (.require fun _ => nofun) fun _ _ => ?_
  exact .bind revertIfHealthFactorIsBroken_notFine fun _ _ => .ok

/-- `liquidate` is refused as unnecessary exactly at a health factor of at least the line. -/
theorem liquidate_fine_iff (idle : w.engine.status = .notEntered) (positive : 0 < debtToCover)
    (returned : healthFactor w user = .ok factor) :
    liquidate standard sender collateral user debtToCover w =
      .error (.engine .healthFactorIsFine) ↔ minHealthFactor ≤ factor := by
  constructor
  · intro refused
    by_contra low
    exact liquidate_notFine returned (Nat.lt_of_not_le low) _ refused rfl
  · intro high
    have passes : moreThanZero debtToCover = .ok () := moreThanZero_eq_ok.mpr positive
    have enters : nonReentrantBefore w = .ok (w.setStatus .entered) := by
      unfold nonReentrantBefore
      rw [idle]
      rfl
    have told : healthFactor (w.setStatus .entered) user = .ok factor := returned
    unfold liquidate nonReentrant
    simp only [passes, enters, told, ok_bind, Checked.require, high, not_true_eq_false, ↓reduceIte]
    rfl

theorem decidedBy_of_returned (idle : w.engine.status = .notEntered)
    (returned : healthFactor w user = .ok factor) : w.DecidedBy user factor := by
  refine ⟨?_, fun _ _ _ positive => liquidate_fine_iff idle positive returned⟩
  unfold revertIfHealthFactorIsBroken Checked.require
  rw [returned, ok_bind, ite_not]

end DSCEngine

end Decisions

namespace World

variable {w : World} {user : Address}

/-- Two of the getters return for every account, the second what the account is judged on. -/
theorem Moderate.views_return (moderate : w.Moderate) (reachable : Reachable w) (user : Address) :
    DSCEngine.getAccountInformation w user = .ok (w.engine.dscMinted user, w.value user) ∧
      DSCEngine.getHealthFactor w user = .ok (w.health user) ∧
      w.DecidedBy user (w.health user) := by
  have orderly := reachable.orderly
  have within := reachable.deposit_le_supply user
  have valued := moderate.valued within
  have returned : DSCEngine.healthFactor w user = .ok (w.health user) :=
    DSCEngine.healthFactor_eq_ok.mpr ⟨valued, fun _ => moderate.scales within, rfl⟩
  exact ⟨DSCEngine.getAccountInformation_eq_ok.mpr ⟨valued, rfl⟩, returned,
    DSCEngine.decidedBy_of_returned orderly.idle returned⟩

/-- Without a debt the third divides by zero where `_healthFactor` returns the maximum. -/
theorem Moderate.divides_by_zero (moderate : w.Moderate) (reachable : Reachable w)
    (clear : w.engine.dscMinted user = 0) :
    DSCEngine.calculateHealthFactor (w.engine.dscMinted user) (w.value user) =
        .error (.panic .divisionByZero) ∧
      DSCEngine.getHealthFactor w user = .ok uint256Max := by
  have within := reachable.deposit_le_supply user
  obtain ⟨weighted, scaled⟩ := moderate.scales within
  constructor
  · have weighed : checkedMul (w.value user) DSCEngine.liquidationThreshold = .ok _ :=
      mul_eq_ok.mpr ⟨weighted, rfl⟩
    have adjusted : checkedDiv (w.value user * DSCEngine.liquidationThreshold)
        DSCEngine.liquidationPrecision = .ok _ := div_eq_ok.mpr ⟨by decide, rfl⟩
    have widened : checkedMul (w.value user * DSCEngine.liquidationThreshold /
        DSCEngine.liquidationPrecision) DSCEngine.precision = .ok _ := mul_eq_ok.mpr ⟨scaled, rfl⟩
    unfold DSCEngine.calculateHealthFactor
    rw [weighed, ok_bind, adjusted, ok_bind, widened, ok_bind, clear]
    rfl
  · rw [(moderate.views_return reachable user).2.1]
    apply congrArg Except.ok
    simp only [health, position, Pledge.health, Pledge.ratio, clear, ↓reduceIte]
    rfl

end World

open DSCEngine

/-- The getters return and agree exactly for accounts with a debt: `calculateHealthFactor` lacks
the case that `_healthFactor` has for accounts without one. -/
theorem health_views_agree_iff {w : World} {user : Address} (reachable : Reachable w)
    (moderate : w.Moderate) : w.HealthViewsAgree user ↔ w.engine.dscMinted user ≠ 0 := by
  obtain ⟨information, health, decided⟩ := moderate.views_return reachable user
  constructor
  · intro agree clear
    obtain ⟨debt, value, factor, told, _, calculated, _⟩ := agree
    have same := Except.ok.inj (information.symm.trans told)
    obtain ⟨rfl, rfl⟩ := Prod.mk.inj same
    rw [(moderate.divides_by_zero reachable clear).1] at calculated
    cases calculated
  · intro owed
    have within := reachable.deposit_le_supply user
    obtain ⟨weighted, scaled⟩ := moderate.scales within
    exact ⟨_, _, _, information, health,
      calculateHealthFactor_eq_ok.mpr ⟨owed, weighted, scaled, rfl⟩, decided⟩

section Example

open HelperConfig

theorem health_views_agree_of_debtor : occupied.HealthViewsAgree user :=
  (health_views_agree_iff occupied_reachable occupied_moderate).mpr (by decide +kernel)

/-- The deployer has deposited 5 ether and owes nothing: one getter panics on what another tells,
while the third returns the maximum. -/
theorem health_views_disagree_without_debt :
    Reachable occupied ∧ occupied.Moderate ∧
      getAccountInformation occupied deployer = .ok (0, 10000 * 10 ^ 18) ∧
      getHealthFactor occupied deployer = .ok uint256Max ∧
      calculateHealthFactor 0 (10000 * 10 ^ 18) = .error (.panic .divisionByZero) ∧
      ¬ occupied.HealthViewsAgree deployer := by
  have told : getAccountInformation occupied deployer = .ok (0, 10000 * 10 ^ 18) := by
    decide +kernel
  have fails : calculateHealthFactor 0 (10000 * 10 ^ 18) = .error (.panic .divisionByZero) := rfl
  refine ⟨occupied_reachable, occupied_moderate, told, by decide +kernel, fails, ?_⟩
  intro agree
  obtain ⟨debt, value, factor, again, _, calculated, _⟩ := agree
  rw [told] at again
  obtain ⟨rfl, rfl⟩ := Prod.mk.inj (Except.ok.inj again)
  rw [fails] at calculated
  cases calculated

end Example

end DscProtocol
