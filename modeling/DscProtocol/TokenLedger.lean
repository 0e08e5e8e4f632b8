import DscProtocol.Protocol

set_option autoImplicit false

/- When each token operation succeeds and what it leaves, and that a ledger whose supply is
the sum of its balances stays one. -/
namespace DscProtocol

namespace ERC20

def moved (token : ERC20) (source target : Address) (amount : Nat) : ERC20 :=
  let debited := Function.update token.balances source (token.balances source - amount)
  { token with balances := Function.update debited target (uncheckedAdd (debited target) amount) }

def minted (token : ERC20) (account : Address) (amount : Nat) : ERC20 :=
  { token with
    totalSupply := token.totalSupply + amount
    balances := Function.update token.balances account
      (uncheckedAdd (token.balances account) amount) }

def burned (token : ERC20) (account : Address) (amount : Nat) : ERC20 :=
  { token with
    balances := Function.update token.balances account (token.balances account - amount)
    totalSupply := uncheckedSub token.totalSupply amount }

def approved (token : ERC20) (owner spender : Address) (amount : Nat) : ERC20 :=
  { token with allowances := Ledger.assign token.allowances owner spender amount }

def spent (token : ERC20) (owner spender : Address) (amount : Nat) : ERC20 :=
  if token.allowances owner spender ≠ uint256Max then
    token.approved owner spender (token.allowances owner spender - amount)
  else token

/-- The spender may take the amount: without limit, or within the allowance of a real owner. -/
def MaySpend (token : ERC20) (owner spender : Address) (amount : Nat) : Prop :=
  token.allowances owner spender = uint256Max ∨
    (amount ≤ token.allowances owner spender ∧ owner ≠ 0 ∧ spender ≠ 0)

variable {token after : ERC20} {sender source target owner spender account : Address}
  {amount : Nat} {success : Bool}

theorem transferInternal_eq_ok :
    token.transferInternal source target amount = .ok after ↔
      source ≠ 0 ∧ target ≠ 0 ∧ amount ≤ token.balances source ∧
        after = token.moved source target amount := by
  simp only [transferInternal, Checked.bind_eq_ok, Checked.require_eq_ok, Except.ok.injEq,
    exists_and_left, exists_const, moved, @eq_comm _ after]

theorem mintInternal_eq_ok :
    token.mintInternal account amount = .ok after ↔
      account ≠ 0 ∧ token.totalSupply + amount < wordLimit ∧
        after = token.minted account amount := by
  simp only [mintInternal, Checked.bind_eq_ok, Checked.require_eq_ok, Checked.add_eq_ok,
    Except.ok.injEq, exists_and_left, exists_const, minted, @eq_comm _ after]
  constructor
  · rintro ⟨real, supply, ⟨fits, rfl⟩, rfl⟩
    exact ⟨real, fits, rfl⟩
  · rintro ⟨real, fits, rfl⟩
    exact ⟨real, _, ⟨fits, rfl⟩, rfl⟩

theorem burnInternal_eq_ok :
    token.burnInternal account amount = .ok after ↔
      account ≠ 0 ∧ amount ≤ token.balances account ∧ after = token.burned account amount := by
  simp only [burnInternal, Checked.bind_eq_ok, Checked.require_eq_ok, Except.ok.injEq,
    exists_and_left, exists_const, burned, @eq_comm _ after]

theorem approveInternal_eq_ok :
    token.approveInternal owner spender amount = .ok after ↔
      owner ≠ 0 ∧ spender ≠ 0 ∧ after = token.approved owner spender amount := by
  simp only [approveInternal, Checked.bind_eq_ok, Checked.require_eq_ok, Except.ok.injEq,
    exists_and_left, exists_const, approved, @eq_comm _ after]

theorem spendAllowance_eq_ok :
    token.spendAllowance owner spender amount = .ok after ↔
      token.MaySpend owner spender amount ∧ after = token.spent owner spender amount := by
  unfold spendAllowance MaySpend spent
  by_cases unlimited : token.allowances owner spender = uint256Max
  · simp [unlimited, eq_comm]
  · simp only [unlimited, ne_eq, not_false_eq_true, ↓reduceIte, Checked.bind_eq_ok,
      Checked.require_eq_ok, approveInternal_eq_ok, exists_const, false_or, and_assoc]

theorem transfer_eq_ok :
    token.transfer sender target amount = .ok (success, after) ↔
      success = true ∧ sender ≠ 0 ∧ target ≠ 0 ∧ amount ≤ token.balances sender ∧
        after = token.moved sender target amount := by
  simp only [transfer, Checked.bind_eq_ok, transferInternal_eq_ok, Except.ok.injEq,
    Prod.mk.injEq, @eq_comm _ success]
  constructor
  · rintro ⟨next, ⟨real, receiver, enough, rfl⟩, returned, rfl⟩
    exact ⟨returned, real, receiver, enough, rfl⟩
  · rintro ⟨returned, real, receiver, enough, rfl⟩
    exact ⟨_, ⟨real, receiver, enough, rfl⟩, returned, rfl⟩

/-- What `transferFrom` needs. -/
structure Pulls (token : ERC20) (sender source target : Address) (amount : Nat) : Prop where
  allowed : token.MaySpend source sender amount
  source_ne_zero : source ≠ 0
  target_ne_zero : target ≠ 0
  enough : amount ≤ token.balances source

def pulled (token : ERC20) (sender source target : Address) (amount : Nat) : ERC20 :=
  (token.spent source sender amount).moved source target amount

@[simp] theorem spent_balances : (token.spent owner spender amount).balances = token.balances := by
  unfold spent approved
  split <;> rfl

@[simp] theorem spent_totalSupply :
    (token.spent owner spender amount).totalSupply = token.totalSupply := by
  unfold spent approved
  split <;> rfl

theorem transferFrom_eq_ok :
    token.transferFrom sender source target amount = .ok (success, after) ↔
      success = true ∧ token.Pulls sender source target amount ∧
        after = token.pulled sender source target amount := by
  simp only [transferFrom, Checked.bind_eq_ok, spendAllowance_eq_ok, transferInternal_eq_ok,
    Except.ok.injEq, Prod.mk.injEq, @eq_comm _ success]
  constructor
  · rintro ⟨_, ⟨allowed, rfl⟩, _, ⟨real, receiver, enough, rfl⟩, returned, rfl⟩
    rw [spent_balances] at enough
    exact ⟨returned, ⟨allowed, real, receiver, enough⟩, rfl⟩
  · rintro ⟨returned, ⟨allowed, real, receiver, enough⟩, rfl⟩
    refine ⟨_, ⟨allowed, rfl⟩, _, ⟨real, receiver, ?_, rfl⟩, returned, rfl⟩
    rw [spent_balances]
    exact enough

theorem burnFrom_eq_ok :
    token.burnFrom sender account amount = .ok after ↔
      token.MaySpend account sender amount ∧ account ≠ 0 ∧ amount ≤ token.balances account ∧
        after = (token.spent account sender amount).burned account amount := by
  simp only [burnFrom, Checked.bind_eq_ok, spendAllowance_eq_ok, burnInternal_eq_ok]
  constructor
  · rintro ⟨_, ⟨allowed, rfl⟩, real, enough, rfl⟩
    rw [spent_balances] at enough
    exact ⟨allowed, real, enough, rfl⟩
  · rintro ⟨allowed, real, enough, rfl⟩
    refine ⟨_, ⟨allowed, rfl⟩, real, ?_, rfl⟩
    rw [spent_balances]
    exact enough

theorem spent_allowances_of_ne {other : Address} (apart : other ≠ owner) :
    (token.spent owner spender amount).allowances other = token.allowances other := by
  unfold spent
  split
  · exact Ledger.assign_row token.allowances owner other spender _ apart
  · rfl

@[simp] theorem moved_totalSupply :
    (token.moved source target amount).totalSupply = token.totalSupply := rfl

@[simp] theorem burned_allowances :
    (token.burned account amount).allowances = token.allowances := rfl

@[simp] theorem approved_balances :
    (token.approved owner spender amount).balances = token.balances := rfl

@[simp] theorem pulled_totalSupply :
    (token.pulled sender source target amount).totalSupply = token.totalSupply := by
  simp only [pulled, moved_totalSupply, spent_totalSupply]

@[simp] theorem pulled_allowances :
    (token.pulled sender source target amount).allowances =
      (token.spent source sender amount).allowances := rfl

/-- Whatever wraps around, an account that neither pays nor receives keeps its balance. -/
theorem moved_balances_of_ne {other : Address} (notSource : other ≠ source)
    (notTarget : other ≠ target) :
    (token.moved source target amount).balances other = token.balances other := by
  simp only [moved, Function.update_of_ne notTarget, Function.update_of_ne notSource]

theorem pulled_balances_of_ne {other : Address} (notSource : other ≠ source)
    (notTarget : other ≠ target) :
    (token.pulled sender source target amount).balances other = token.balances other := by
  rw [pulled, moved_balances_of_ne notSource notTarget, spent_balances]

theorem burned_balances_of_ne {other : Address} (apart : other ≠ account) :
    (token.burned account amount).balances other = token.balances other := by
  simp only [burned, Function.update_of_ne apart]

theorem minted_balances_of_ne {other : Address} (apart : other ≠ account) :
    (token.minted account amount).balances other = token.balances other := by
  simp only [minted, Function.update_of_ne apart]

namespace Sound

theorem balance_lt (sound : token.Sound) (account : Address) :
    token.balances account < wordLimit := by
  have held := Ledger.le_sum token.balances account
  rw [sound.conserved] at held
  exact Nat.lt_of_le_of_lt held sound.bounded

/-- On a sound ledger the unchecked addition never wraps: a transfer is a plain move. -/
theorem moved_balances (sound : token.Sound) (enough : amount ≤ token.balances source) :
    (token.moved source target amount).balances =
      Ledger.move token.balances source target amount := by
  have fits : Function.update token.balances source (token.balances source - amount) target +
      amount < wordLimit := by
    by_cases same : target = source
    · subst same
      have held := sound.balance_lt target
      rw [Function.update_self]
      omega
    · have both := Ledger.add_le_sum token.balances same
      have bound := sound.bounded
      rw [sound.conserved] at both
      rw [Function.update_of_ne same]
      omega
  simp only [moved, Ledger.move, uncheckedAdd_eq fits]

/-- An account that does not pay gains what is sent to it. -/
theorem moved_balance_of_ne_source (sound : token.Sound) (enough : amount ≤ token.balances source)
    (apart : account ≠ source) :
    (token.moved source target amount).balances account =
      token.balances account + if target = account then amount else 0 := by
  rw [sound.moved_balances enough]
  split
  · rename_i arrives
    subst arrives
    exact Ledger.move_target _ amount apart.symm
  · rename_i elsewhere
    exact Ledger.move_other _ amount apart (fun same => elsewhere same.symm)

theorem minted_balances (sound : token.Sound) (fits : token.totalSupply + amount < wordLimit) :
    (token.minted account amount).balances =
      Function.update token.balances account (token.balances account + amount) := by
  have held := Ledger.le_sum token.balances account
  rw [sound.conserved] at held
  simp only [minted, uncheckedAdd_eq (show token.balances account + amount < wordLimit by omega)]

theorem minted_eq (sound : token.Sound) (fits : token.totalSupply + amount < wordLimit) :
    token.minted account amount = { token with
      balances := Function.update token.balances account (token.balances account + amount)
      totalSupply := token.totalSupply + amount } := by
  rw [← sound.minted_balances fits]
  rfl

theorem moved_eq (sound : token.Sound) (enough : amount ≤ token.balances source) :
    token.moved source target amount = { token with
      balances := Ledger.move token.balances source target amount } := by
  rw [← sound.moved_balances enough]
  rfl

theorem burned_totalSupply (sound : token.Sound) (enough : amount ≤ token.balances account) :
    (token.burned account amount).totalSupply = token.totalSupply - amount := by
  have held := Ledger.le_sum token.balances account
  rw [sound.conserved] at held
  exact uncheckedSub_eq (by omega) sound.bounded

theorem empty : ERC20.empty.Sound := by
  constructor
  · simp only [ERC20.empty, Finset.sum_const_zero]
  · exact wordLimit_pos

theorem moved (sound : token.Sound) (enough : amount ≤ token.balances source) :
    (token.moved source target amount).Sound := by
  constructor
  · rw [sound.moved_balances enough, Ledger.sum_move _ _ _ _ enough]
    exact sound.conserved
  · exact sound.bounded

theorem approved (sound : token.Sound) : (token.approved owner spender amount).Sound :=
  ⟨sound.conserved, sound.bounded⟩

theorem spent (sound : token.Sound) : (token.spent owner spender amount).Sound := by
  constructor
  · rw [spent_balances, spent_totalSupply]
    exact sound.conserved
  · rw [spent_totalSupply]
    exact sound.bounded

theorem pulled (sound : token.Sound) (enough : amount ≤ token.balances source) :
    (token.pulled sender source target amount).Sound :=
  sound.spent.moved (by rw [spent_balances]; exact enough)

theorem pulled_balances (sound : token.Sound) (enough : amount ≤ token.balances source) :
    (token.pulled sender source target amount).balances =
      Ledger.move token.balances source target amount := by
  have whole : (token.spent source sender amount).Sound := sound.spent
  have covered : amount ≤ (token.spent source sender amount).balances source := by
    rw [spent_balances]
    exact enough
  rw [ERC20.pulled, whole.moved_balances covered, spent_balances]

theorem minted (sound : token.Sound) (fits : token.totalSupply + amount < wordLimit) :
    (token.minted account amount).Sound := by
  constructor
  · have total := Ledger.sum_update token.balances account (token.balances account + amount)
    have conserved := sound.conserved
    rw [sound.minted_balances fits]
    change _ = token.totalSupply + amount
    omega
  · exact fits

theorem burned (sound : token.Sound) (enough : amount ≤ token.balances account) :
    (token.burned account amount).Sound := by
  constructor
  · have total := Ledger.sum_update token.balances account (token.balances account - amount)
    have held := Ledger.le_sum token.balances account
    have conserved := sound.conserved
    rw [sound.burned_totalSupply enough]
    change ∑ other, Function.update token.balances account _ other = _
    omega
  · rw [sound.burned_totalSupply enough]
    have bound := sound.bounded
    omega

end Sound

end ERC20

namespace DecentralisedStableCoin

variable {coin after : DecentralisedStableCoin} {sender source target account : Address}
  {amount : Nat} {success : Bool}

theorem burn_eq_ok :
    coin.burn sender amount = .ok after ↔
      coin.owner = sender ∧ 0 < amount ∧ amount ≤ coin.balances sender ∧ sender ≠ 0 ∧
        after = { coin with toERC20 := coin.toERC20.burned sender amount } := by
  simp only [burn, onlyOwner, ERC20.burn, Checked.bind_eq_ok, Checked.require_eq_ok,
    ERC20.burnInternal_eq_ok, Except.ok.injEq, exists_const, Nat.not_le, Nat.not_lt]
  constructor
  · rintro ⟨owns, positive, enough, _, ⟨real, _, rfl⟩, rfl⟩
    exact ⟨owns, positive, enough, real, rfl⟩
  · rintro ⟨owns, positive, enough, real, rfl⟩
    exact ⟨owns, positive, enough, _, ⟨real, enough, rfl⟩, rfl⟩

theorem mint_eq_ok :
    coin.mint sender target amount = .ok (success, after) ↔
      success = true ∧ coin.owner = sender ∧ target ≠ 0 ∧ 0 < amount ∧
        coin.totalSupply + amount < wordLimit ∧
        after = { coin with toERC20 := coin.toERC20.minted target amount } := by
  simp only [mint, onlyOwner, Checked.bind_eq_ok, Checked.require_eq_ok,
    ERC20.mintInternal_eq_ok, Except.ok.injEq, Prod.mk.injEq, exists_const, Nat.not_le]
  constructor
  · rintro ⟨owns, real, positive, _, ⟨_, fits, rfl⟩, returned, rfl⟩
    exact ⟨returned.symm, owns, real, positive, fits, rfl⟩
  · rintro ⟨returned, owns, real, positive, fits, rfl⟩
    exact ⟨owns, real, positive, _, ⟨real, fits, rfl⟩, returned.symm, rfl⟩

theorem transferFrom_eq_ok :
    coin.transferFrom sender source target amount = .ok (success, after) ↔
      success = true ∧ coin.toERC20.Pulls sender source target amount ∧
        after = { coin with toERC20 := coin.toERC20.pulled sender source target amount } := by
  simp only [transferFrom, Checked.bind_eq_ok, Prod.exists, Except.ok.injEq, Prod.mk.injEq,
    ERC20.transferFrom_eq_ok]
  constructor
  · rintro ⟨_, _, ⟨rfl, pulls, rfl⟩, returned, rfl⟩
    exact ⟨returned.symm, pulls, rfl⟩
  · rintro ⟨rfl, pulls, rfl⟩
    exact ⟨true, _, ⟨rfl, pulls, rfl⟩, rfl, rfl⟩

theorem burnFrom_eq_ok :
    coin.burnFrom sender account amount = .ok after ↔
      coin.toERC20.MaySpend account sender amount ∧ account ≠ 0 ∧
        amount ≤ coin.balances account ∧
        after = { coin with
          toERC20 := (coin.toERC20.spent account sender amount).burned account amount } := by
  simp only [burnFrom, Checked.bind_eq_ok, ERC20.burnFrom_eq_ok, Except.ok.injEq]
  constructor
  · rintro ⟨_, ⟨allowed, real, enough, rfl⟩, rfl⟩
    exact ⟨allowed, real, enough, rfl⟩
  · rintro ⟨allowed, real, enough, rfl⟩
    exact ⟨_, ⟨allowed, real, enough, rfl⟩, rfl⟩

end DecentralisedStableCoin

section Standard

variable {token sender source target : Address} {amount : Nat} {success : Bool} {w after : World}

theorem standard_transfer_eq_ok :
    standard.transfer token sender target amount w = .ok (success, after) ↔
      success = true ∧ sender ≠ 0 ∧ target ≠ 0 ∧ amount ≤ (w.tokens token).balances sender ∧
        after = w.setToken token ((w.tokens token).moved sender target amount) := by
  simp only [standard, Checked.bind_eq_ok, Prod.exists, Except.ok.injEq, Prod.mk.injEq,
    ERC20.transfer_eq_ok]
  constructor
  · rintro ⟨_, _, ⟨rfl, real, receiver, enough, rfl⟩, rfl, rfl⟩
    exact ⟨rfl, real, receiver, enough, rfl⟩
  · rintro ⟨rfl, real, receiver, enough, rfl⟩
    exact ⟨true, _, ⟨rfl, real, receiver, enough, rfl⟩, rfl, rfl⟩

theorem standard_transferFrom_eq_ok :
    standard.transferFrom token sender source target amount w = .ok (success, after) ↔
      success = true ∧ (w.tokens token).Pulls sender source target amount ∧
        after = w.setToken token ((w.tokens token).pulled sender source target amount) := by
  simp only [standard, Checked.bind_eq_ok, Prod.exists, Except.ok.injEq, Prod.mk.injEq,
    ERC20.transferFrom_eq_ok]
  constructor
  · rintro ⟨_, _, ⟨rfl, pulls, rfl⟩, rfl, rfl⟩
    exact ⟨rfl, pulls, rfl⟩
  · rintro ⟨rfl, pulls, rfl⟩
    exact ⟨true, _, ⟨rfl, pulls, rfl⟩, rfl, rfl⟩

end Standard

end DscProtocol
