import DscProtocol.Supply

set_option autoImplicit false

/- Who controls the supply of the coin: the contract on its own, called by anyone but its owner,
and what that means for the debts recorded by the engine. -/
namespace DscProtocol

/-- Everything the coin contract offers, inherited or its own. -/
inductive PublicCall where
  | erc20 (call : TokenCall)
  | own (call : CoinCall)
  deriving DecidableEq

namespace TokenCall

variable {call : TokenCall} {sender : Address} {token after : ERC20} {success : Bool}

/-- The amount that is passed, a word. -/
def amount (call : TokenCall) : Nat :=
  match call with
  | transfer _ amount => amount
  | transferFrom _ _ amount => amount
  | approve _ amount => amount
  | increaseAllowance _ addedValue => addedValue
  | decreaseAllowance _ subtractedValue => subtractedValue

/-- The ERC20 interface moves coins and allowances, never the supply. -/
theorem exec_totalSupply (returned : call.exec sender token = .ok (success, after)) :
    after.totalSupply = token.totalSupply := by
  cases call with
  | transfer target amount =>
      obtain ⟨_, _, _, _, rfl⟩ := ERC20.transfer_eq_ok.mp returned
      rfl
  | transferFrom source target amount =>
      obtain ⟨_, _, rfl⟩ := ERC20.transferFrom_eq_ok.mp returned
      exact ERC20.pulled_totalSupply
  | approve spender amount =>
      simp only [exec, ERC20.approve, Checked.bind_eq_ok, ERC20.approveInternal_eq_ok,
        Except.ok.injEq, Prod.mk.injEq] at returned
      obtain ⟨_, ⟨_, _, rfl⟩, _, rfl⟩ := returned
      rfl
  | increaseAllowance spender addedValue =>
      simp only [exec, ERC20.increaseAllowance, Checked.bind_eq_ok, Checked.add_eq_ok,
        ERC20.approveInternal_eq_ok, Except.ok.injEq, Prod.mk.injEq] at returned
      obtain ⟨_, _, _, ⟨_, _, rfl⟩, _, rfl⟩ := returned
      rfl
  | decreaseAllowance spender subtractedValue =>
      simp only [exec, ERC20.decreaseAllowance, Checked.bind_eq_ok, Checked.require_eq_ok,
        ERC20.approveInternal_eq_ok, Except.ok.injEq, Prod.mk.injEq] at returned
      obtain ⟨_, _, _, ⟨_, _, rfl⟩, _, rfl⟩ := returned
      rfl

end TokenCall

/-- The amount that is passed, a word. -/
def CoinCall.amount (call : CoinCall) : Nat :=
  match call with
  | mint _ amount => amount
  | burn amount => amount
  | burnFrom _ amount => amount
  | transferOwnership _ => 0
  | renounceOwnership => 0

namespace PublicCall

def amount (call : PublicCall) : Nat :=
  match call with
  | erc20 call => call.amount
  | own call => call.amount

def exec (coin : DecentralisedStableCoin) (entry : Address × PublicCall) :
    Except Revert DecentralisedStableCoin :=
  match entry.2 with
  | erc20 call => do
      let (_, token) ← call.exec entry.1 coin.toERC20
      .ok { coin with toERC20 := token }
  | own call => call.exec entry.1 coin

end PublicCall

namespace DecentralisedStableCoin

/-- A reverting call changes nothing. -/
def step : DecentralisedStableCoin → Address × PublicCall → DecentralisedStableCoin :=
  Runs.commit PublicCall.exec

/-- Someone other than the owner calls, with words as arguments. -/
def Stranger (coin : DecentralisedStableCoin) (entry : Address × PublicCall) : Prop :=
  entry.1 ≠ coin.owner ∧ entry.2.amount < wordLimit

/-- A `burnFrom` that destroys coins: a positive amount within the balance and the allowance. -/
def Burns (coin : DecentralisedStableCoin) (entry : Address × PublicCall) : Prop :=
  match entry.2 with
  | .own (.burnFrom account amount) =>
      0 < amount ∧ coin.MaySpend account entry.1 amount ∧ account ≠ 0 ∧
        amount ≤ coin.balances account
  | _ => False

instance (coin : DecentralisedStableCoin) (entry : Address × PublicCall) :
    Decidable (coin.Stranger entry) := inferInstanceAs (Decidable (_ ∧ _))

variable {coin after : DecentralisedStableCoin} {entry : Address × PublicCall}

theorem burns_iff :
    coin.Burns entry ↔ ∃ account amount, entry.2 = .own (.burnFrom account amount) ∧
      0 < amount ∧ coin.MaySpend account entry.1 amount ∧ account ≠ 0 ∧
        amount ≤ coin.balances account := by
  unfold Burns
  constructor
  · intro burns
    split at burns
    · rename_i account amount called
      exact ⟨account, amount, called, burns⟩
    · cases burns
  · intro called
    obtain ⟨account, amount, same, burns⟩ := called
    rw [same]
    exact burns

theorem uncheckedSub_eq_self_iff {total amount : Nat} (word : total < wordLimit)
    (small : amount < wordLimit) : uncheckedSub total amount = total ↔ amount = 0 := by
  unfold uncheckedSub
  constructor
  · intro same
    by_contra some
    by_cases enough : amount ≤ total
    · rw [show total + wordLimit - amount = total - amount + wordLimit by omega,
        Nat.add_mod_right, Nat.mod_eq_of_lt (by omega)] at same
      omega
    · rw [Nat.mod_eq_of_lt (by omega)] at same
      omega
  · intro none
    subst none
    rw [Nat.sub_zero, Nat.add_mod_right, Nat.mod_eq_of_lt word]

/-- A stranger's call leaves the supply alone or is a `burnFrom` within balance and allowance. -/
theorem exec_supply (stranger : coin.Stranger entry)
    (returned : PublicCall.exec coin entry = .ok after) :
    (after.totalSupply = coin.totalSupply ∧
        ∀ account amount, entry.2 ≠ .own (.burnFrom account amount)) ∨
      ∃ account amount, entry.2 = .own (.burnFrom account amount) ∧
        coin.MaySpend account entry.1 amount ∧ account ≠ 0 ∧ amount ≤ coin.balances account ∧
        after.totalSupply = uncheckedSub coin.totalSupply amount := by
  obtain ⟨sender, call⟩ := entry
  have notOwner : coin.owner ≠ sender := stranger.1.symm
  cases call with
  | erc20 call =>
      simp only [PublicCall.exec, Checked.bind_eq_ok, Prod.exists, Except.ok.injEq] at returned
      obtain ⟨_, token, returned, rfl⟩ := returned
      left
      refine ⟨TokenCall.exec_totalSupply returned, ?_⟩
      intro account amount impossible
      cases impossible
  | own call =>
      cases call with
      | mint target amount =>
          simp only [PublicCall.exec, CoinCall.exec, Checked.bind_eq_ok, Prod.exists, mint_eq_ok]
            at returned
          obtain ⟨_, _, ⟨_, owns, _⟩, _⟩ := returned
          exact absurd owns notOwner
      | burn amount => exact absurd (burn_eq_ok.mp returned).1 notOwner
      | burnFrom account amount =>
          obtain ⟨allowed, real, enough, rfl⟩ := burnFrom_eq_ok.mp returned
          right
          refine ⟨account, amount, rfl, allowed, real, enough, ?_⟩
          simp only [ERC20.burned, ERC20.spent_totalSupply]
      | transferOwnership newOwner =>
          simp only [PublicCall.exec, CoinCall.exec, transferOwnership, onlyOwner,
            Checked.bind_eq_ok, Checked.require_eq_ok] at returned
          obtain ⟨_, owns, _⟩ := returned
          exact absurd owns notOwner
      | renounceOwnership =>
          simp only [PublicCall.exec, CoinCall.exec, renounceOwnership, onlyOwner,
            Checked.bind_eq_ok, Checked.require_eq_ok] at returned
          obtain ⟨_, owns, _⟩ := returned
          exact absurd owns notOwner

theorem step_supply_lt (word : coin.totalSupply < wordLimit) (stranger : coin.Stranger entry) :
    (coin.step entry).totalSupply < wordLimit := by
  apply @Runs.commit_preserves _ _ Revert PublicCall.exec
    (fun next => next.totalSupply < wordLimit) coin entry word
  intro next returned
  rcases exec_supply stranger returned with ⟨same, _⟩ | ⟨_, amount, _, _, _, _, same⟩
  · rw [same]
    exact word
  · rw [same]
    exact Nat.mod_lt _ wordLimit_pos

/-- The one way in which a stranger changes the supply. -/
theorem step_supply_iff (word : coin.totalSupply < wordLimit) (stranger : coin.Stranger entry) :
    (coin.step entry).totalSupply = coin.totalSupply ↔ ¬ coin.Burns entry := by
  obtain ⟨sender, call⟩ := entry
  have small : call.amount < wordLimit := stranger.2
  constructor
  · intro same burns
    obtain ⟨account, amount, rfl, positive, allowed, real, enough⟩ := burns_iff.mp burns
    have returned : PublicCall.exec coin (sender, .own (.burnFrom account amount)) = .ok _ :=
      burnFrom_eq_ok.mpr ⟨allowed, real, enough, rfl⟩
    have stepped : coin.step (sender, .own (.burnFrom account amount)) = _ :=
      Runs.commit_eq_of_ok returned
    rw [stepped] at same
    simp only [ERC20.burned, ERC20.spent_totalSupply] at same
    have none : amount = 0 := (uncheckedSub_eq_self_iff word small).mp same
    omega
  · intro spared
    apply @Runs.commit_preserves _ _ Revert PublicCall.exec
      (fun next => next.totalSupply = coin.totalSupply) coin _ rfl
    intro next returned
    rcases exec_supply stranger returned with
      ⟨same, _⟩ | ⟨account, amount, rfl, allowed, real, enough, same⟩
    · exact same
    · have none : amount = 0 := by
        by_contra some
        exact spared (burns_iff.mpr
          ⟨account, amount, rfl, Nat.pos_of_ne_zero some, allowed, real, enough⟩)
      rw [same, none]
      exact (uncheckedSub_eq_self_iff word wordLimit_pos).mpr rfl

instance (coin : DecentralisedStableCoin) (entry : Address × PublicCall) :
    Decidable (coin.Burns entry) := by
  unfold Burns ERC20.MaySpend
  split <;> infer_instance

/-- Over a whole run of strangers. -/
theorem run_supply_iff {calls : List (Address × PublicCall)}
    (word : coin.totalSupply < wordLimit) (strangers : Runs.Along step Stranger coin calls) :
    (∀ sofar, sofar <+: calls → (Runs.run step coin sofar).totalSupply = coin.totalSupply) ↔
      Runs.Along step (fun coin entry => ¬ coin.Burns entry) coin calls := by
  rw [Runs.constant_iff fun coin : DecentralisedStableCoin => coin.totalSupply]
  have keeps : ∀ (coin : DecentralisedStableCoin) entry, coin.totalSupply < wordLimit →
      coin.Stranger entry → (coin.step entry).totalSupply < wordLimit :=
    fun _ _ word stranger => step_supply_lt word stranger
  have agree : ∀ (coin : DecentralisedStableCoin) entry, coin.totalSupply < wordLimit →
      coin.Stranger entry →
      ((coin.step entry).totalSupply = coin.totalSupply ↔ ¬ coin.Burns entry) :=
    fun _ _ word stranger => step_supply_iff word stranger
  exact Runs.along_congr keeps agree word strangers

end DecentralisedStableCoin

/-- The action is a `burnFrom` on the coin that destroys coins. -/
def Action.Burns (w : World) (action : Action) : Prop :=
  match action with
  | callCoin sender call => w.coin.Burns (sender, .own call)
  | _ => False

instance (w : World) (action : Action) : Decidable (action.Burns w) := by
  unfold Action.Burns
  split <;> infer_instance

theorem burnedDirectly_eq_zero_iff {w : World} {action : Action} :
    burnedDirectly w action = 0 ↔ ¬ action.Burns w := by
  unfold burnedDirectly Runs.charge
  constructor
  · intro free burns
    cases action with
    | callCoin sender call =>
        obtain ⟨account, amount, same, positive, allowed, real, enough⟩ :=
          DecentralisedStableCoin.burns_iff.mp burns
        obtain rfl := PublicCall.own.inj same
        have returned : Action.exec w (.callCoin sender (.burnFrom account amount)) = .ok _ :=
          Checked.bind_eq_ok.mpr ⟨_, DecentralisedStableCoin.burnFrom_eq_ok.mpr
            ⟨allowed, real, enough, rfl⟩, rfl⟩
        rw [returned] at free
        change amount = 0 at free
        omega
    | _ => exact burns
  · intro spared
    split
    · rename_i next returned
      cases action with
      | callCoin sender call =>
          cases call with
          | burnFrom account amount =>
              obtain ⟨coin, burned, _⟩ := Checked.bind_eq_ok.mp returned
              obtain ⟨allowed, real, enough, _⟩ :=
                DecentralisedStableCoin.burnFrom_eq_ok.mp burned
              by_contra some
              exact spared ⟨Nat.pos_of_ne_zero some, allowed, real, enough⟩
          | _ => rfl
      | _ => rfl
    · rfl

/-- As long as nobody burns past the engine, the coins in circulation cover all debts. -/
theorem debts_repayable_iff {d : Deployment} {start : World} {actions : List Action}
    (deployed : d.run = .ok start) (along : Runs.Along step Permitted start actions) :
    (∀ sofar, sofar <+: actions →
        (Runs.run step start sofar).debts ≤ (Runs.run step start sofar).supply) ↔
      Runs.Along step (fun w action => ¬ action.Burns w) start actions := by
  have free : Runs.total step burnedDirectly start actions = 0 ↔
      Runs.Along step (fun w action => ¬ action.Burns w) start actions := by
    rw [Runs.total_eq_zero_iff]
    have agree : ∀ (w : World) action, True → Permitted w action →
        (burnedDirectly w action = 0 ↔ ¬ action.Burns w) :=
      fun _ _ _ _ => burnedDirectly_eq_zero_iff
    exact Runs.along_congr (fun _ _ _ _ => trivial) agree trivial along
  rw [← free]
  constructor
  · intro covered
    have debts := Deployment.debts_eq deployed along
    have enough := covered actions (List.prefix_refl actions)
    omega
  · intro nothing sofar inside
    obtain ⟨rest, rfl⟩ := inside
    have debts := Deployment.debts_eq deployed ((Runs.along_append start sofar rest).mp along).1
    rw [Runs.total_append] at nothing
    omega

/-- The inherited `burnFrom` is the only gap. Calls of strangers keep the supply, and the debts
recorded by the engine stay repayable from it, exactly as long as no positive amount is burned
by a spender its holder has approved. -/
theorem coin_supply_iff {coin : DecentralisedStableCoin} {calls : List (Address × PublicCall)}
    {d : Deployment} {start : World} {actions : List Action} (word : coin.totalSupply < wordLimit)
    (strangers : Runs.Along DecentralisedStableCoin.step DecentralisedStableCoin.Stranger coin
      calls)
    (deployed : d.run = .ok start) (along : Runs.Along step Permitted start actions) :
    ((∀ sofar, sofar <+: calls →
          (Runs.run DecentralisedStableCoin.step coin sofar).totalSupply = coin.totalSupply) ↔
        Runs.Along DecentralisedStableCoin.step (fun coin entry => ¬ coin.Burns entry) coin
          calls) ∧
      ((∀ sofar, sofar <+: actions →
          (Runs.run step start sofar).debts ≤ (Runs.run step start sofar).supply) ↔
        Runs.Along step (fun w action => ¬ action.Burns w) start actions) :=
  ⟨DecentralisedStableCoin.run_supply_iff word strangers, debts_repayable_iff deployed along⟩

section Example

open HelperConfig

/-- A hundred coins of a user, owned as a contract by the engine. -/
def hundredCoins : DecentralisedStableCoin :=
  { ERC20.empty.minted user (100 * 10 ^ 18) with owner := anvil.engineAddress }

/-- The user approves the liquidator for 30 coins, who has them sent over. -/
theorem coin_supply_kept_by_transfer :
    (Runs.run DecentralisedStableCoin.step hundredCoins
        [(user, .erc20 (.approve liquidator (30 * 10 ^ 18))),
          (liquidator, .erc20 (.transferFrom user liquidator (30 * 10 ^ 18)))]).totalSupply =
        hundredCoins.totalSupply ∧
      (Runs.run step anvil.start indebted).debts ≤ (Runs.run step anvil.start indebted).supply := by
  have both := @coin_supply_iff hundredCoins
    [(user, .erc20 (.approve liquidator (30 * 10 ^ 18))),
      (liquidator, .erc20 (.transferFrom user liquidator (30 * 10 ^ 18)))]
    anvil anvil.start indebted (by decide +kernel) (by decide +kernel) anvil.run_ok
    (by decide +kernel)
  exact ⟨both.1.mpr (by decide +kernel) _ (List.prefix_refl _),
    both.2.mpr (by decide +kernel) _ (List.prefix_refl _)⟩

/-- Instead of having them sent over the liquidator burns them. In the protocol this leaves debts
of 100 coins against a supply of 70. -/
theorem coin_supply_burned_by_stranger :
    Runs.Along DecentralisedStableCoin.step DecentralisedStableCoin.Stranger hundredCoins
        [(user, .erc20 (.approve liquidator (30 * 10 ^ 18))),
          (liquidator, .own (.burnFrom user (30 * 10 ^ 18)))] ∧
      hundredCoins.totalSupply = 100 * 10 ^ 18 ∧
      (Runs.run DecentralisedStableCoin.step hundredCoins
        [(user, .erc20 (.approve liquidator (30 * 10 ^ 18))),
          (liquidator, .own (.burnFrom user (30 * 10 ^ 18)))]).totalSupply = 70 * 10 ^ 18 ∧
      Runs.Along step Permitted anvil.start burnAndGift ∧
      (Runs.run step anvil.start burnAndGift).engine.dscMinted deployer = 100 * 10 ^ 18 ∧
      (Runs.run step anvil.start burnAndGift).supply = 70 * 10 ^ 18 := by
  refine ⟨?_, ?_, ?_, ?_, ?_, ?_⟩ <;> decide +kernel

end Example

end DscProtocol
