import DscProtocol.Commutation
import DscProtocol.VaultCalls

set_option autoImplicit false

/- Deposits, mints, repayments and withdrawals in instalments: any number of parts of an amount
succeed exactly when the whole does, and leave the same state. -/
namespace DscProtocol

theorem uncheckedAdd_uncheckedAdd (start first second : Nat) :
    uncheckedAdd (uncheckedAdd start first) second = uncheckedAdd start (first + second) := by
  unfold uncheckedAdd
  rw [Nat.mod_add_mod, Nat.add_assoc]

namespace ERC20

variable {token : ERC20} {sender source target owner spender account : Address} {first second : Nat}

theorem moved_moved (apart : source ≠ target) :
    (token.moved source target first).moved source target second =
      token.moved source target (first + second) := by
  have drawn : (token.moved source target first).balances source =
      token.balances source - first := by
    simp only [moved, Function.update_of_ne apart, Function.update_self]
  ext other
  · by_cases receiver : other = target
    · subst receiver
      simp only [moved, Function.update_self, Function.update_of_ne apart.symm]
      exact uncheckedAdd_uncheckedAdd _ first second
    · by_cases payer : other = source
      · subst payer
        change Function.update (Function.update _ other _) target _ other = _
        rw [drawn]
        simp only [moved, Function.update_of_ne receiver, Function.update_self, Nat.sub_sub]
      · rw [moved_balances_of_ne payer receiver, moved_balances_of_ne payer receiver,
          moved_balances_of_ne payer receiver]
  · rfl
  · rfl

theorem minted_minted :
    (token.minted account first).minted account second = token.minted account (first + second) := by
  ext other
  · simp only [minted, Function.update_self, Function.update_idem, uncheckedAdd_uncheckedAdd]
  · rfl
  · exact Nat.add_assoc token.totalSupply first second

/-- What is left of an allowance after the first part. -/
theorem spent_allowance (word : token.allowances owner spender < wordLimit) (some : 0 < first) :
    token.allowances owner spender = uint256Max ∧ token.spent owner spender first = token ∨
      token.allowances owner spender ≠ uint256Max ∧
        (token.spent owner spender first).allowances owner spender =
          token.allowances owner spender - first ∧
        token.allowances owner spender - first ≠ uint256Max := by
  by_cases unlimited : token.allowances owner spender = uint256Max
  · have whole : token.spent owner spender first = token := by
      unfold spent
      rw [if_neg (not_not.mpr unlimited)]
    exact Or.inl ⟨unlimited, whole⟩
  · have rest : (token.spent owner spender first).allowances owner spender =
        token.allowances owner spender - first := by
      unfold spent
      rw [if_pos unlimited]
      exact Ledger.assign_self _ _ _ _
    refine Or.inr ⟨unlimited, rest, ?_⟩
    unfold uint256Max at unlimited ⊢
    omega

theorem spent_spent (word : token.allowances owner spender < wordLimit) (some : 0 < first) :
    (token.spent owner spender first).spent owner spender second =
      token.spent owner spender (first + second) := by
  rcases @spent_allowance token owner spender first word some with
    ⟨unlimited, whole⟩ | ⟨limited, left, finite⟩
  · rw [whole]
    unfold spent
    rw [if_neg (not_not.mpr unlimited), if_neg (not_not.mpr unlimited)]
  · have start : token.spent owner spender first =
        token.approved owner spender (token.allowances owner spender - first) := by
      unfold spent
      rw [if_pos limited]
    have later : (token.spent owner spender first).spent owner spender second =
        (token.spent owner spender first).approved owner spender
          (token.allowances owner spender - first - second) := by
      unfold spent at left ⊢
      rw [left, if_pos finite]
    have both : token.spent owner spender (first + second) =
        token.approved owner spender (token.allowances owner spender - (first + second)) := by
      unfold spent
      rw [if_pos limited]
    rw [later, start, both, Nat.sub_sub]
    unfold approved
    rw [Ledger.assign_assign]

theorem spent_allowances_eq {left right : ERC20} {amount : Nat}
    (same : left.allowances = right.allowances) :
    (left.spent owner spender amount).allowances =
      (right.spent owner spender amount).allowances := by
  unfold spent approved
  rw [same]
  split
  · rfl
  · exact same

theorem maySpend_parts (word : token.allowances owner spender < wordLimit) (some : 0 < first) :
    token.MaySpend owner spender (first + second) ↔
      token.MaySpend owner spender first ∧
        (token.spent owner spender first).MaySpend owner spender second := by
  unfold MaySpend
  rcases @spent_allowance token owner spender first word some with
    ⟨unlimited, whole⟩ | ⟨limited, left, finite⟩
  · rw [whole]
    simp only [unlimited, true_or, and_self]
  · rw [left]
    simp only [limited, finite, false_or]
    constructor
    · intro allowed
      exact ⟨⟨by omega, allowed.2⟩, by omega, allowed.2⟩
    · intro allowed
      exact ⟨by omega, allowed.1.2⟩

theorem pulled_pulled (apart : source ≠ target)
    (word : token.allowances source sender < wordLimit) (some : 0 < first) :
    (token.pulled sender source target first).pulled sender source target second =
      token.pulled sender source target (first + second) := by
  have commute : ∀ (token : ERC20) (before amount : Nat),
      (token.moved source target before).spent source sender amount =
        (token.spent source sender amount).moved source target before := by
    intro token before amount
    change (if token.allowances source sender ≠ uint256Max then _ else _) =
      ERC20.moved (if token.allowances source sender ≠ uint256Max then _ else _) source target
        before
    by_cases unlimited : token.allowances source sender ≠ uint256Max
    · rw [if_pos unlimited, if_pos unlimited]
      rfl
    · rw [if_neg unlimited, if_neg unlimited]
  unfold pulled
  rw [commute, spent_spent word some, moved_moved apart]

theorem pulled_balance_source (apart : source ≠ target) :
    (token.pulled sender source target first).balances source =
      token.balances source - first := by
  simp only [pulled, moved, spent_balances, Function.update_of_ne apart, Function.update_self]

theorem pulls_parts (apart : source ≠ target)
    (word : token.allowances source sender < wordLimit) (some : 0 < first) :
    token.Pulls sender source target (first + second) ↔
      token.Pulls sender source target first ∧
        (token.pulled sender source target first).Pulls sender source target second := by
  have allowed := @maySpend_parts token source sender first second word some
  have left := @pulled_balance_source token sender source target first apart
  constructor
  · intro pulls
    obtain ⟨now, later⟩ := allowed.mp pulls.allowed
    have enough := pulls.enough
    exact ⟨⟨now, pulls.source_ne_zero, pulls.target_ne_zero, by omega⟩,
      ⟨later, pulls.source_ne_zero, pulls.target_ne_zero, by omega⟩⟩
  · intro both
    obtain ⟨now, later⟩ := both
    have enough := later.enough
    have start := now.enough
    exact ⟨allowed.mpr ⟨now.allowed, later.allowed⟩, now.source_ne_zero, now.target_ne_zero,
      by omega⟩

end ERC20

namespace World

variable {w after : World} {sender token : Address} {first second amount : Nat}

theorem setDeposited_setToken_twice (user : Address) (firstly lastly : Nat)
    (before contract : ERC20) :
    (((w.setDeposited user token firstly).setToken token before).setDeposited user token
      lastly).setToken token contract =
        (w.setDeposited user token lastly).setToken token contract := by
  simp only [setToken, setDeposited, Function.update_idem, Ledger.assign_assign]

theorem setMinted_setToken_twice (user : Address) (firstly lastly : Nat)
    (before contract : ERC20) :
    (((w.setMinted user firstly).setToken token before).setMinted user lastly).setToken token
      contract = (w.setMinted user lastly).setToken token contract := by
  simp only [setToken, setMinted, Function.update_idem]

theorem received_received (user : sender ≠ w.engineAddress)
    (word : (w.tokens token).allowances sender w.engineAddress < wordLimit) (some : 0 < first) :
    (w.received sender token first).received sender token second =
      w.received sender token (first + second) := by
  have deposited : (w.received sender token first).engine.collateralDeposited sender token =
      w.engine.collateralDeposited sender token + first := Ledger.assign_self _ _ _ _
  have contract : (w.received sender token first).tokens token =
      (w.tokens token).pulled w.engineAddress sender w.engineAddress first := received_token
  have twice := @ERC20.pulled_pulled (w.tokens token) w.engineAddress sender w.engineAddress first
    second user word some
  rw [received, deposited, contract, Nat.add_assoc]
  change (((w.setDeposited sender token _).setToken token _).setDeposited sender token _).setToken
    token (((w.tokens token).pulled w.engineAddress sender w.engineAddress first).pulled
      w.engineAddress sender w.engineAddress second) = _
  rw [setDeposited_setToken_twice, twice]
  rfl

theorem released_released (user : sender ≠ w.engineAddress) :
    (w.released sender sender token first).released sender sender token second =
      w.released sender sender token (first + second) := by
  have deposited : (w.released sender sender token first).engine.collateralDeposited sender token =
      w.engine.collateralDeposited sender token - first := Ledger.assign_self _ _ _ _
  have contract : (w.released sender sender token first).tokens token =
      (w.tokens token).moved w.engineAddress sender first := released_token
  have twice := @ERC20.moved_moved (w.tokens token) w.engineAddress sender first second user.symm
  rw [released, deposited, contract, Nat.sub_sub]
  change (((w.setDeposited sender token _).setToken token _).setDeposited sender token _).setToken
    token (((w.tokens token).moved w.engineAddress sender first).moved w.engineAddress sender
      second) = _
  rw [setDeposited_setToken_twice, twice]
  rfl

theorem issued_issued :
    (w.issued sender first).issued sender second = w.issued sender (first + second) := by
  have minted : (w.issued sender first).engine.dscMinted sender =
      w.engine.dscMinted sender + first := Function.update_self _ _ _
  have contract : (w.issued sender first).tokens w.engine.dsc =
      (w.tokens w.engine.dsc).minted sender first := issued_token
  have twice := @ERC20.minted_minted (w.tokens w.engine.dsc) sender first second
  rw [issued, minted, Nat.add_assoc]
  change (((w.setMinted sender _).setToken w.engine.dsc _).setMinted sender _).setToken w.engine.dsc
    (((w.issued sender first).tokens w.engine.dsc).minted sender second) = _
  rw [contract, setMinted_setToken_twice, twice]
  rfl

theorem receives_parts (user : sender ≠ w.engineAddress)
    (word : (w.tokens token).allowances sender w.engineAddress < wordLimit) (some : 0 < first) :
    w.Receives sender token (first + second) ↔
      w.Receives sender token first ∧
        (w.received sender token first).Receives sender token second := by
  have pulls := @ERC20.pulls_parts (w.tokens token) w.engineAddress sender w.engineAddress first
    second user word some
  have deposited : (w.received sender token first).engine.collateralDeposited sender token =
      w.engine.collateralDeposited sender token + first := Ledger.assign_self _ _ _ _
  rw [← received_token] at pulls
  constructor
  · intro receives
    obtain ⟨now, later⟩ := pulls.mp receives.pulls
    have fits := receives.fits
    exact ⟨⟨by omega, now⟩, ⟨by omega, later⟩⟩
  · intro both
    have fits := both.2.fits
    exact ⟨by omega, pulls.mpr ⟨both.1.pulls, both.2.pulls⟩⟩

theorem releases_parts (user : sender ≠ w.engineAddress) :
    w.Releases sender sender token (first + second) ↔
      w.Releases sender sender token first ∧
        (w.released sender sender token first).Releases sender sender token second := by
  have deposited : (w.released sender sender token first).engine.collateralDeposited sender token =
      w.engine.collateralDeposited sender token - first := Ledger.assign_self _ _ _ _
  have held : ((w.released sender sender token first).tokens token).balances w.engineAddress =
      (w.tokens token).balances w.engineAddress - first := by
    rw [released_token]
    simp only [ERC20.moved, Function.update_of_ne user.symm, Function.update_self]
  constructor
  · intro releases
    have enough := releases.enough
    have within := releases.deposited
    exact ⟨⟨by omega, releases.engine_ne_zero, releases.target_ne_zero, by omega⟩,
      ⟨by omega, releases.engine_ne_zero, releases.target_ne_zero, by
        change second ≤ ((w.released sender sender token first).tokens token).balances
          w.engineAddress
        omega⟩⟩
  · intro both
    obtain ⟨now, later⟩ := both
    have enough : second ≤ ((w.released sender sender token first).tokens token).balances
        w.engineAddress := later.enough
    have within := later.deposited
    have start := now.enough
    have inside := now.deposited
    exact ⟨by omega, now.engine_ne_zero, now.target_ne_zero, by omega⟩

theorem repays_parts (orderly : w.Orderly) (user : sender ≠ w.engineAddress)
    (word : (w.tokens w.engine.dsc).allowances sender w.engineAddress < wordLimit)
    (some : 0 < first) (more : 0 < second) :
    w.Repays sender sender (first + second) ↔
      w.Repays sender sender first ∧
        (w.repaid sender sender first).Repays sender sender second := by
  have pulls := @ERC20.pulls_parts (w.tokens w.engine.dsc) w.engineAddress sender w.engineAddress
    first second user word some
  have owed : (w.repaid sender sender first).engine.dscMinted sender =
      w.engine.dscMinted sender - first := Function.update_self _ _ _
  -- burning the engine's coins touches neither the payer's balance nor its allowances
  have burned : ((w.repaid sender sender first).tokens w.engine.dsc).Pulls w.engineAddress sender
      w.engineAddress second ↔ ((w.tokens w.engine.dsc).pulled w.engineAddress sender
        w.engineAddress first).Pulls w.engineAddress sender w.engineAddress second := by
    rw [repaid_token]
    have balance := @ERC20.burned_balances_of_ne ((w.tokens w.engine.dsc).pulled w.engineAddress
      sender w.engineAddress first) w.engineAddress first sender user
    constructor
    · intro later
      exact ⟨later.allowed, later.source_ne_zero, later.target_ne_zero, balance ▸ later.enough⟩
    · intro later
      exact ⟨later.allowed, later.source_ne_zero, later.target_ne_zero, balance ▸ later.enough⟩
  constructor
  · intro repays
    obtain ⟨now, later⟩ := pulls.mp repays.pulls
    have within := repays.owed
    have start : w.Repays sender sender first :=
      ⟨by omega, now, repays.owned, some, pulled_held orderly now⟩
    have rest := burned.mpr later
    exact ⟨start, by omega, rest, repays.owned, more, pulled_held (orderly.repaid start) rest⟩
  · intro both
    obtain ⟨now, later⟩ := both
    have within := later.owed
    have start := now.owed
    have whole := pulls.mpr ⟨now.pulls, burned.mp later.pulls⟩
    exact ⟨by omega, whole, now.owned, by omega, pulled_held orderly whole⟩

theorem repaid_eq :
    w.repaid sender sender amount =
      (w.setMinted sender (w.engine.dscMinted sender - amount)).setToken w.engine.dsc
        ((w.repaid sender sender amount).tokens w.engine.dsc) := by
  rw [repaid_token]
  rfl

theorem repaid_repaid (orderly : w.Orderly) (user : sender ≠ w.engineAddress)
    (word : (w.tokens w.engine.dsc).allowances sender w.engineAddress < wordLimit)
    (some : 0 < first) (more : 0 < second) (repays : w.Repays sender sender (first + second)) :
    (w.repaid sender sender first).repaid sender sender second =
      w.repaid sender sender (first + second) := by
  obtain ⟨now, later⟩ := (repays_parts orderly user word some more).mp repays
  have minted : (w.repaid sender sender first).engine.dscMinted sender =
      w.engine.dscMinted sender - first := Function.update_self _ _ _
  have contract : ((w.repaid sender sender first).repaid sender sender second).tokens
      w.engine.dsc = (w.repaid sender sender (first + second)).tokens w.engine.dsc := by
    apply ERC20.ext
    · have last : (((w.repaid sender sender first).repaid sender sender second).tokens
          w.engine.dsc).balances = Function.update ((w.repaid sender sender first).tokens
            w.engine.dsc).balances sender (((w.repaid sender sender first).tokens
              w.engine.dsc).balances sender - second) :=
        repaid_balances (orderly.repaid now) later
      rw [last, repaid_balances orderly now, repaid_balances orderly repays, Function.update_self,
        Function.update_idem, Nat.sub_sub]
    · have last : (((w.repaid sender sender first).repaid sender sender second).tokens
          w.engine.dsc).allowances = (((w.repaid sender sender first).tokens
            w.engine.dsc).spent sender w.engineAddress second).allowances := repaid_allowances
      rw [last, repaid_allowances, ← ERC20.spent_spent word some]
      have first_left : ((w.repaid sender sender first).tokens w.engine.dsc).allowances =
          ((w.tokens w.engine.dsc).spent sender w.engineAddress first).allowances :=
        repaid_allowances
      exact ERC20.spent_allowances_eq first_left
    · have last : (((w.repaid sender sender first).repaid sender sender second).tokens
          w.engine.dsc).totalSupply = ((w.repaid sender sender first).tokens
            w.engine.dsc).totalSupply - second := repaid_totalSupply (orderly.repaid now) later
      rw [last, repaid_totalSupply orderly now, repaid_totalSupply orderly repays, Nat.sub_sub]
  have left : (w.repaid sender sender first).repaid sender sender second =
      ((w.repaid sender sender first).setMinted sender ((w.repaid sender sender
        first).engine.dscMinted sender - second)).setToken w.engine.dsc (((w.repaid sender sender
          first).repaid sender sender second).tokens w.engine.dsc) := repaid_eq
  have right := @repaid_eq w sender (first + second)
  rw [minted, contract, Nat.sub_sub] at left
  exact left.trans ((setMinted_setToken_twice sender _ _ _ _).trans right.symm)

theorem issues_parts (some : 0 < first) (more : 0 < second) :
    w.Issues sender (first + second) ↔
      w.Issues sender first ∧ (w.issued sender first).Issues sender second := by
  have minted : (w.issued sender first).engine.dscMinted sender =
      w.engine.dscMinted sender + first := Function.update_self _ _ _
  have supply : ((w.issued sender first).tokens w.engine.dsc).totalSupply =
      (w.tokens w.engine.dsc).totalSupply + first := issued_totalSupply
  constructor
  · intro issues
    have debt := issues.debt_fits
    have coins := issues.supply_fits
    refine ⟨⟨by omega, issues.owned, issues.account_ne_zero, some, by omega⟩,
      ⟨by omega, issues.owned, issues.account_ne_zero, more, ?_⟩⟩
    change ((w.issued sender first).tokens w.engine.dsc).totalSupply + second < wordLimit
    omega
  · intro both
    obtain ⟨now, later⟩ := both
    have debt := later.debt_fits
    have coins : ((w.issued sender first).tokens w.engine.dsc).totalSupply + second <
        wordLimit := later.supply_fits
    exact ⟨by omega, now.owned, now.account_ne_zero, by omega, by omega⟩

/-- Who is healthy with the whole debt is with a part of it. -/
theorem passes_issued_part (more : 0 < second)
    (passes : (w.issued sender (first + second)).Passes sender) :
    (w.issued sender first).Passes sender := by
  have part : (w.issued sender first).engine.dscMinted sender =
      w.engine.dscMinted sender + first := Function.update_self _ _ _
  have whole : (w.issued sender (first + second)).engine.dscMinted sender =
      w.engine.dscMinted sender + (first + second) := Function.update_self _ _ _
  have owed : (w.issued sender (first + second)).engine.dscMinted sender ≠ 0 := by omega
  refine ⟨⟨passes.valued.readable, passes.valued.product_fits, passes.valued.value_fits⟩,
    fun _ => passes.scales owed, ?_⟩
  have line := DSCEngine.minHealthFactor_le_health.mp passes.healthy
  have value : (w.issued sender (first + second)).value sender =
      (w.issued sender first).value sender := rfl
  apply DSCEngine.minHealthFactor_le_health.mpr
  omega

/-- What has been withdrawn in part is healthy where what has been withdrawn in whole is. -/
theorem passes_part (computes : w.Computes sender)
    (passes : (w.released sender sender token (first + second)).Passes sender) :
    (w.released sender sender token first).Passes sender := by
  have part := SameSetting.released w sender sender token first
  have whole := SameSetting.released w sender sender token (first + second)
  have between : SameSetting (w.released sender sender token first)
      (w.released sender sender token (first + second)) := part.symm.trans whole
  have less := Ledger.assign_le w.engine.collateralDeposited
    (Nat.sub_le (w.engine.collateralDeposited sender token) first) sender
  have computed := computes.of_le part less
  refine ⟨⟨?_, computed.product_fits, computed.value_fits⟩,
    fun _ => ⟨computed.weighted_fits, computed.scaled_fits⟩, ?_⟩
  · intro other listed
    obtain ⟨round, read, fresh, nonneg, fits⟩ := passes.valued.readable other listed
    exact ⟨round, read, fresh, nonneg, fits⟩
  · have line := DSCEngine.minHealthFactor_le_health.mp passes.healthy
    have lower : (w.released sender sender token (first + second)).value sender ≤
        (w.released sender sender token first).value sender := by
      apply between.value_le
      intro other
      rw [released_deposited, released_deposited, Ledger.assign_apply, Ledger.assign_apply]
      split
      · exact Nat.sub_le_sub_left (Nat.le_add_right first second) _
      · exact Nat.le_refl _
    exact DSCEngine.minHealthFactor_le_health.mpr (line.trans lower)

end World

/-- The calls that can be made in instalments: an allowance is a word, and what is withdrawn from
can be valued. -/
inductive Divisible (w : World) (sender : Address) : (Nat → EngineCall) → Prop where
  | depositCollateral {token : Address}
      (word : (w.tokens token).allowances sender w.engineAddress < wordLimit) :
      Divisible w sender (.depositCollateral token)
  | mintDsc : Divisible w sender .mintDsc
  | burnDsc (word : (w.tokens w.engine.dsc).allowances sender w.engineAddress < wordLimit) :
      Divisible w sender .burnDsc
  | redeemCollateral {token : Address} (computes : w.Computes sender) :
      Divisible w sender (.redeemCollateral token)

namespace Divisible

variable {w after : World} {sender token : Address} {call : Nat → EngineCall} {amount : Nat}

/-- A part leaves a state in which the call can be made again. -/
theorem exec (divisible : Divisible w sender call)
    (success : (call amount).exec standard sender w = .ok after) : Divisible after sender call := by
  have lowered : ∀ {token : Address} {contract : ERC20},
      contract.allowances = ((w.tokens token).spent sender w.engineAddress amount).allowances →
      (w.tokens token).allowances sender w.engineAddress < wordLimit →
      contract.allowances sender w.engineAddress < wordLimit := by
    intro token contract same word
    rw [same]
    exact Nat.lt_of_le_of_lt (ERC20.spent_allowances_le sender w.engineAddress) word
  cases divisible with
  | @depositCollateral token word =>
      obtain ⟨_, _, _, _, rfl⟩ := DSCEngine.depositCollateral_eq_ok.mp success
      apply depositCollateral
      rw [World.received_token]
      exact lowered ERC20.pulled_allowances word
  | mintDsc => exact mintDsc
  | burnDsc word =>
      obtain ⟨_, rfl⟩ := DSCEngine.burnDsc_eq_ok.mp success
      apply burnDsc
      exact lowered World.repaid_allowances word
  | @redeemCollateral token computes =>
      obtain ⟨_, _, _, _, rfl⟩ := DSCEngine.redeemCollateral_eq_ok.mp success
      apply redeemCollateral
      exact computes.of_le (World.SameSetting.released w sender sender token amount)
        (Ledger.assign_le w.engine.collateralDeposited (Nat.sub_le _ _) sender)

/-- Two parts of one call. -/
theorem parts {first second : Nat} (orderly : w.Orderly) (user : sender ≠ w.engineAddress)
    (divisible : Divisible w sender call) (some : 0 < first) (more : 0 < second) :
    (call (first + second)).exec standard sender w = .ok after ↔
      ∃ middle, (call first).exec standard sender w = .ok middle ∧
        (call second).exec standard sender middle = .ok after := by
  cases divisible with
  | @depositCollateral token word =>
      have twice := @World.received_received w sender token first second user word some
      have receives := @World.receives_parts w sender token first second user word some
      constructor
      · intro success
        obtain ⟨_, known, idle, whole, rfl⟩ := DSCEngine.depositCollateral_eq_ok.mp success
        obtain ⟨now, later⟩ := receives.mp whole
        exact ⟨_, DSCEngine.depositCollateral_eq_ok.mpr ⟨some, known, idle, now, rfl⟩,
          DSCEngine.depositCollateral_eq_ok.mpr ⟨more, known, idle, later, twice.symm⟩⟩
      · intro both
        obtain ⟨middle, start, rest⟩ := both
        obtain ⟨_, known, idle, now, rfl⟩ := DSCEngine.depositCollateral_eq_ok.mp start
        obtain ⟨_, _, _, later, rfl⟩ := DSCEngine.depositCollateral_eq_ok.mp rest
        exact DSCEngine.depositCollateral_eq_ok.mpr
          ⟨by omega, known, idle, receives.mpr ⟨now, later⟩, twice⟩
  | mintDsc =>
      have twice := @World.issued_issued w sender first second
      have issues := @World.issues_parts w sender first second some more
      constructor
      · intro success
        obtain ⟨idle, whole, passes, rfl⟩ := DSCEngine.mintDsc_eq_ok.mp success
        obtain ⟨now, later⟩ := issues.mp whole
        have half := World.passes_issued_part more passes
        rw [← twice] at passes
        exact ⟨_, DSCEngine.mintDsc_eq_ok.mpr ⟨idle, now, half, rfl⟩,
          DSCEngine.mintDsc_eq_ok.mpr ⟨idle, later, passes, twice.symm⟩⟩
      · intro both
        obtain ⟨middle, start, rest⟩ := both
        obtain ⟨idle, now, _, rfl⟩ := DSCEngine.mintDsc_eq_ok.mp start
        obtain ⟨_, later, passes, rfl⟩ := DSCEngine.mintDsc_eq_ok.mp rest
        rw [twice] at passes
        exact DSCEngine.mintDsc_eq_ok.mpr ⟨idle, issues.mpr ⟨now, later⟩, passes, twice⟩
  | burnDsc word =>
      have repays := @World.repays_parts w sender first second orderly user word some more
      constructor
      · intro success
        obtain ⟨whole, rfl⟩ := DSCEngine.burnDsc_eq_ok.mp success
        obtain ⟨now, later⟩ := repays.mp whole
        have twice := World.repaid_repaid orderly user word some more whole
        exact ⟨_, DSCEngine.burnDsc_eq_ok.mpr ⟨now, rfl⟩,
          DSCEngine.burnDsc_eq_ok.mpr ⟨later, twice.symm⟩⟩
      · intro both
        obtain ⟨middle, start, rest⟩ := both
        obtain ⟨now, rfl⟩ := DSCEngine.burnDsc_eq_ok.mp start
        obtain ⟨later, rfl⟩ := DSCEngine.burnDsc_eq_ok.mp rest
        have whole := repays.mpr ⟨now, later⟩
        exact DSCEngine.burnDsc_eq_ok.mpr
          ⟨whole, World.repaid_repaid orderly user word some more whole⟩
  | @redeemCollateral token computes =>
      have twice := @World.released_released w sender token first second user
      have releases := @World.releases_parts w sender token first second user
      constructor
      · intro success
        obtain ⟨_, idle, whole, passes, rfl⟩ := DSCEngine.redeemCollateral_eq_ok.mp success
        obtain ⟨now, later⟩ := releases.mp whole
        have half := World.passes_part computes passes
        rw [← twice] at passes
        exact ⟨_, DSCEngine.redeemCollateral_eq_ok.mpr ⟨some, idle, now, half, rfl⟩,
          DSCEngine.redeemCollateral_eq_ok.mpr ⟨more, idle, later, passes, twice.symm⟩⟩
      · intro both
        obtain ⟨middle, start, rest⟩ := both
        obtain ⟨_, idle, now, _, rfl⟩ := DSCEngine.redeemCollateral_eq_ok.mp start
        obtain ⟨_, _, later, passes, rfl⟩ := DSCEngine.redeemCollateral_eq_ok.mp rest
        rw [twice] at passes
        exact DSCEngine.redeemCollateral_eq_ok.mpr
          ⟨by omega, idle, releases.mpr ⟨now, later⟩, passes, twice⟩

end Divisible

/-- A deposit, a mint, a repayment or a withdrawal in positive parts, however many, goes through
exactly when it does at once, and leaves the same state. -/
theorem instalments_iff_whole {w after : World} {sender : Address} {call : Nat → EngineCall}
    {parts : List Nat} (reachable : Reachable w) (user : sender ≠ w.engineAddress)
    (divisible : Divisible w sender call) (some : parts ≠ [])
    (positive : ∀ part ∈ parts, 0 < part) :
    parts.foldlM (fun w part => (call part).exec standard sender w) w = .ok after ↔
      (call parts.sum).exec standard sender w = .ok after := by
  have keeps : ∀ (state : World) (amount : Nat) (next : World),
      (state.Orderly ∧ sender ≠ state.engineAddress ∧ Divisible state sender call) →
      (call amount).exec standard sender state = .ok next →
      next.Orderly ∧ sender ≠ next.engineAddress ∧ Divisible next sender call := by
    intro state amount next held success
    obtain ⟨orderly, outside, again⟩ := held
    refine ⟨orderly.execEngine outside success, ?_, again.exec success⟩
    rw [(World.SameSetting.exec success).engineAddress]
    exact outside
  have splits : Runs.Splits (fun state : World => state.Orderly ∧ sender ≠ state.engineAddress ∧
      Divisible state sender call)
        (fun amount state => (call amount).exec standard sender state) := by
    intro state first second final held one two
    exact Divisible.parts held.1 held.2.1 held.2.2 one two
  exact Runs.parts_iff_whole keeps splits ⟨reachable.orderly, user, divisible⟩ positive some

section Example

open HelperConfig

/-- The deployer of the exit example takes out 1, 2 and again 1 ether, which is as good as 4. -/
theorem instalments_of_deployer :
    [10 ^ 18, 2 * 10 ^ 18, 10 ^ 18].foldlM (fun w part =>
        (EngineCall.redeemCollateral weth part).exec standard deployer w) occupied =
      .ok (occupied.released deployer deployer weth (4 * 10 ^ 18)) := by
  have computes := occupied_moderate.computes occupied_reachable deployer
  apply (instalments_iff_whole occupied_reachable (by decide +kernel)
    (.redeemCollateral computes) (by decide) (by decide)).mpr
  have releases : occupied.Releases deployer deployer weth (4 * 10 ^ 18) :=
    ⟨by decide +kernel, by decide +kernel, by decide +kernel, by decide +kernel⟩
  have judged := @World.Moderate.judged occupied _ deployer occupied_moderate occupied_reachable
    (World.SameSetting.released occupied deployer deployer weth (4 * 10 ^ 18))
    (@Ledger.assign_le _ _ _ _ occupied.engine.collateralDeposited deployer weth
      (occupied.engine.collateralDeposited deployer weth - 4 * 10 ^ 18) (Nat.sub_le _ _) deployer)
  have passes : (occupied.released deployer deployer weth (4 * 10 ^ 18)).Passes deployer :=
    ⟨judged.valued, judged.scales, by decide +kernel⟩
  exact DSCEngine.redeemCollateral_eq_ok.mpr
    ⟨by decide, occupied_reachable.orderly.idle, releases, passes, rfl⟩

end Example

end DscProtocol
