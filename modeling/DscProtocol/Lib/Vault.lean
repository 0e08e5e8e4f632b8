import DscProtocol.Lib.Pledge
import DscProtocol.Lib.Runs

set_option autoImplicit false

/- The abstract vault. Accounts pledge goods and owe debts; a move that takes value out is judged
at the prices in force, a position below the line can be closed by anyone, and prices move. -/
namespace Vault

open Pledge

variable {α τ : Type}

/-- The terms, the goods that count, and the premium for closing a position. -/
structure Rules (τ : Type) extends Terms where
  goods : List τ
  bonusNum : Nat
  bonusDen : Nat

structure State (α τ : Type) where
  book : Book α τ
  price : τ → Nat

inductive Move (α τ : Type) where
  | pledge (account : α) (kind : τ) (amount : Nat)
  | take (account : α) (kind : τ) (amount : Nat)
  | borrow (account : α) (amount : Nat)
  | repay (account : α) (amount : Nat)
  | close (keeper account : α) (kind : τ) (amount : Nat)
  | reprice (price : τ → Nat)

namespace Position

variable [DecidableEq τ]

/-- The position with other goods of one kind. -/
def withHeld (position : Position τ) (kind : τ) (amount : Nat) : Position τ :=
  { position with held := Function.update position.held kind amount }

def withDebt (position : Position τ) (amount : Nat) : Position τ := { position with debt := amount }

end Position

namespace State

variable [DecidableEq α]

def write (vault : State α τ) (account : α) (position : Position τ) : State α τ :=
  { vault with book := Function.update vault.book account position }

@[simp] theorem write_price (vault : State α τ) (account : α) (position : Position τ) :
    (vault.write account position).price = vault.price := rfl

@[simp] theorem write_book_self (vault : State α τ) (account : α) (position : Position τ) :
    (vault.write account position).book account = position := Function.update_self _ _ _

theorem write_book_of_ne (vault : State α τ) {account other : α} (position : Position τ)
    (apart : other ≠ account) :
    (vault.write account position).book other = vault.book other :=
  Function.update_of_ne apart _ _

end State

variable [DecidableEq α] [DecidableEq τ]

/-- A closed position loses all its goods of the kind, whoever gets them. -/
def apply (vault : State α τ) : Move α τ → State α τ
  | .pledge account kind amount =>
      vault.write account
        (Position.withHeld (vault.book account) kind ((vault.book account).held kind + amount))
  | .take account kind amount =>
      vault.write account
        (Position.withHeld (vault.book account) kind ((vault.book account).held kind - amount))
  | .borrow account amount =>
      vault.write account
        (Position.withDebt (vault.book account) ((vault.book account).debt + amount))
  | .repay account amount =>
      vault.write account
        (Position.withDebt (vault.book account) ((vault.book account).debt - amount))
  | .close _ account kind amount =>
      vault.write account
        (Position.withDebt (Position.withHeld (vault.book account) kind 0)
          ((vault.book account).debt - amount))
  | .reprice price => { vault with price := price }

/-- The health of an account at the prices in force. -/
def State.health (rules : Rules τ) (vault : State α τ) (account : α) : Nat :=
  Pledge.health rules.toTerms rules.goods vault.price (vault.book account)

/-- Goods come in and debts are repaid freely. Taking goods out and borrowing must leave the
account at the line; closing must pay the keeper from the goods, improve the closed position and
find the keeper at the line. -/
def Allowed (rules : Rules τ) (vault : State α τ) (move : Move α τ) : Prop :=
  match move with
  | .pledge _ _ amount => 0 < amount
  | .take account kind amount =>
      0 < amount ∧ amount ≤ (vault.book account).held kind ∧
        rules.line ≤ (apply vault move).health rules account
  | .borrow account amount => 0 < amount ∧ rules.line ≤ (apply vault move).health rules account
  | .repay account amount => 0 < amount ∧ amount ≤ (vault.book account).debt
  | .close keeper account kind amount =>
      0 < amount ∧ vault.health rules account < rules.line ∧ 0 < vault.price kind ∧
        withBonus rules.bonusNum rules.bonusDen (bought rules.unit (vault.price kind) amount) ≤
          (vault.book account).held kind ∧
        amount ≤ (vault.book account).debt ∧
        vault.health rules account < (apply vault move).health rules account ∧
        rules.line ≤ (apply vault move).health rules keeper
  | .reprice _ => True

/-- Every account meets the line at one of the given prices. -/
def Judged (rules : Rules τ) (seen : Set (τ → Nat)) (book : Book α τ) : Prop :=
  ∀ account, ∃ price ∈ seen,
    rules.line ≤ Pledge.health rules.toTerms rules.goods price (book account)

/-- A position is closed as a whole, and new prices are among the given ones. -/
def Settling (seen : Set (τ → Nat)) (vault : State α τ) (move : Move α τ) : Prop :=
  match move with
  | .close _ account _ amount => amount = (vault.book account).debt
  | .reprice price => price ∈ seen
  | _ => True

variable {rules : Rules τ} {seen : Set (τ → Nat)} {vault : State α τ}

omit [DecidableEq τ] in
/-- Rewriting the position of one account that meets the line at one of the prices. -/
theorem Judged.write {account : α} {position : Position τ} (judged : Judged rules seen vault.book)
    (meets : ∃ price ∈ seen,
      rules.line ≤ Pledge.health rules.toTerms rules.goods price position) :
    Judged rules seen (vault.write account position).book := by
  intro other
  by_cases same : other = account
  · subst same
    rw [State.write_book_self]
    exact meets
  · rw [State.write_book_of_ne vault position same]
    exact judged other

omit [DecidableEq α] [DecidableEq τ] in
/-- More goods and less debt keep what an account was judged at. -/
theorem Judged.improve {account : α} {position : Position τ} (judged : Judged rules seen vault.book)
    (grow : ∀ kind ∈ rules.goods, (vault.book account).held kind ≤ position.held kind)
    (repaid : position.debt ≤ (vault.book account).debt) :
    ∃ price ∈ seen, rules.line ≤ Pledge.health rules.toTerms rules.goods price position := by
  obtain ⟨price, member, healthy⟩ := judged account
  have better := @health_mono τ rules.toTerms rules.goods price _ _ grow repaid
  refine ⟨price, member, ?_⟩
  omega

/-- The step: a move is judged at the prices in force, or makes nobody worse, or clears a debt. -/
theorem Judged.apply {move : Move α τ} (current : vault.price ∈ seen)
    (judged : Judged rules seen vault.book) (allowed : Allowed rules vault move)
    (settling : Settling seen vault move) :
    (apply vault move).price ∈ seen ∧ Judged rules seen (Vault.apply vault move).book := by
  cases move with
  | pledge account kind amount =>
      refine ⟨current, judged.write (judged.improve ?_ (Nat.le_refl _))⟩
      intro other _
      have more : (vault.book account).held kind ≤ (vault.book account).held kind + amount :=
        Nat.le_add_right _ _
      exact (le_update_self_iff.mpr more) other
  | take account kind amount =>
      have line := allowed.2.2
      simp only [State.health, Vault.apply, State.write_book_self, State.write_price] at line
      exact ⟨current, judged.write ⟨vault.price, current, line⟩⟩
  | borrow account amount =>
      have line := allowed.2
      simp only [State.health, Vault.apply, State.write_book_self, State.write_price] at line
      exact ⟨current, judged.write ⟨vault.price, current, line⟩⟩
  | repay account amount =>
      exact ⟨current, judged.write (judged.improve (fun _ _ => Nat.le_refl _) (Nat.sub_le _ _))⟩
  | close keeper account kind amount =>
      have clear : (vault.book account).debt - amount = 0 := by
        have all : amount = (vault.book account).debt := settling
        omega
      refine ⟨current, judged.write ⟨vault.price, current, ?_⟩⟩
      simp only [Position.withDebt, Pledge.health, clear, ratio, ↓reduceIte]
      exact rules.line_le_top
  | reprice price => exact ⟨settling, judged⟩

/-- Over a run every account stays judged at one of the prices the run has seen. -/
theorem Judged.run {moves : List (Move α τ)} (current : vault.price ∈ seen)
    (judged : Judged rules seen vault.book)
    (along : Runs.Along Vault.apply
      (fun vault move => Allowed rules vault move ∧ Settling seen vault move) vault moves) :
    Judged rules seen (Runs.run Vault.apply vault moves).book := by
  have keeps : ∀ (state : State α τ) move,
      state.price ∈ seen ∧ Judged rules seen state.book →
      Allowed rules state move ∧ Settling seen state move →
      (Vault.apply state move).price ∈ seen ∧ Judged rules seen (Vault.apply state move).book :=
    fun _ _ start permitted => start.2.apply start.1 permitted.1 permitted.2
  exact (Runs.invariant keeps ⟨current, judged⟩ along).2

section Margin

omit [DecidableEq α] [DecidableEq τ]

/-- The value of a holding before any floor, in `unit`ths. -/
def exactValue (goods : List τ) (price held : τ → Nat) : Nat :=
  (goods.map fun kind => price kind * held kind).sum

variable {goods : List τ} {price current held : τ → Nat} {part whole : Nat}

theorem unit_mul_value_le (unit : Nat) (goods : List τ) (price held : τ → Nat) :
    unit * value unit goods price held ≤ exactValue goods price held := by
  induction goods with
  | nil => simp only [value, exactValue, List.map_nil, List.sum_nil, Nat.mul_zero, Nat.le_refl]
  | cons kind rest ih =>
      have floor : unit * worth unit (price kind) (held kind) ≤ price kind * held kind :=
        Nat.mul_div_le _ _
      simp only [value, exactValue, List.map_cons, List.sum_cons, Nat.mul_add] at ih ⊢
      omega

theorem exactValue_scale (lasting : ∀ kind ∈ goods, part * price kind ≤ whole * current kind) :
    part * exactValue goods price held ≤ whole * exactValue goods current held := by
  simp only [exactValue, ← List.sum_map_mul_left]
  apply List.sum_le_sum
  intro kind listed
  rw [← Nat.mul_assoc, ← Nat.mul_assoc]
  exact Nat.mul_le_mul_right (held kind) (lasting kind listed)

theorem exactValue_mono {less more : τ → Nat} (grow : ∀ kind ∈ goods, less kind ≤ more kind) :
    exactValue goods price less ≤ exactValue goods price more := by
  apply List.sum_le_sum
  intro kind listed
  exact Nat.mul_le_mul_left (price kind) (grow kind listed)

/-- Holdings that differ in one kind of goods, listed once. -/
theorem exactValue_shift {before after : τ → Nat} {kind : τ} {gone come : Nat}
    (distinct : goods.Nodup) (listed : kind ∈ goods)
    (others : ∀ other ∈ goods, other ≠ kind → after other = before other)
    (cell : after kind + gone = before kind + come) :
    exactValue goods price after + price kind * gone =
      exactValue goods price before + price kind * come := by
  induction goods with
  | nil => cases listed
  | cons first rest ih =>
      obtain ⟨absent, distinct⟩ := List.nodup_cons.mp distinct
      simp only [exactValue, List.map_cons, List.sum_cons] at ih ⊢
      by_cases here : first = kind
      · have same : rest.map (fun other => price other * after other) =
            rest.map (fun other => price other * before other) := by
          apply List.map_congr_left
          intro other inside
          have apart : other ≠ kind := by
            intro clash
            exact absent (here ▸ clash ▸ inside)
          rw [others other (List.mem_cons_of_mem _ inside) apart]
        have shifted := congrArg (price kind * ·) cell
        simp only [Nat.mul_add] at shifted
        rw [same, here]
        omega
      · have inside : kind ∈ rest :=
          (List.mem_cons.mp listed).resolve_left (fun same => here same.symm)
        have tail := ih distinct inside
          (fun other member => others other (List.mem_cons_of_mem _ member))
        rw [others first List.mem_cons_self here]
        omega

theorem exactValue_congr {before after : τ → Nat}
    (same : ∀ kind ∈ goods, after kind = before kind) :
    exactValue goods price after = exactValue goods price before := by
  apply congrArg List.sum
  apply List.map_congr_left
  intro kind listed
  rw [same kind listed]

theorem sum_exactValue [Fintype α] (goods : List τ) (price : τ → Nat) (held : α → τ → Nat) :
    ∑ account, exactValue goods price (held account) =
      exactValue goods price (fun kind => ∑ account, held account kind) := by
  induction goods with
  | nil => simp only [exactValue, List.map_nil, List.sum_nil, Finset.sum_const_zero]
  | cons kind rest ih =>
      simp only [exactValue, List.map_cons, List.sum_cons, Finset.sum_add_distrib,
        Finset.mul_sum] at ih ⊢
      rw [ih]

/-- What the line says without floors, at the price it was judged at. -/
theorem debt_le_exactValue {position : Position τ}
    (line : rules.line ≤ Pledge.health rules.toTerms rules.goods price position) :
    rules.den * rules.unit * position.debt ≤
      rules.num * exactValue rules.goods price position.held := by
  have counted : position.debt ≤
      value rules.unit rules.goods price position.held * rules.num / rules.den :=
    line_le_ratio.mp line
  calc rules.den * rules.unit * position.debt
    _ = position.debt * rules.den * rules.unit := by ring
    _ ≤ value rules.unit rules.goods price position.held * rules.num / rules.den * rules.den *
          rules.unit := Nat.mul_le_mul_right _ (Nat.mul_le_mul_right _ counted)
    _ ≤ value rules.unit rules.goods price position.held * rules.num * rules.unit :=
        Nat.mul_le_mul_right _ (Nat.div_mul_le_self _ _)
    _ = rules.num * (rules.unit * value rules.unit rules.goods price position.held) := by ring
    _ ≤ rules.num * exactValue rules.goods price position.held :=
        Nat.mul_le_mul_left _ (unit_mul_value_le _ _ _ _)

/-- If no price has fallen below `part / whole` of one an account was judged at, the goods of all
accounts together cover all debts up to that part. -/
theorem Judged.covers [Fintype α] {book : Book α τ} (judged : Judged rules seen book)
    (lasting : ∀ price ∈ seen, ∀ kind ∈ rules.goods, part * price kind ≤ whole * current kind) :
    part * (rules.den * rules.unit * ∑ account, (book account).debt) ≤
      whole * (rules.num * exactValue rules.goods current
        (fun kind => ∑ account, (book account).held kind)) := by
  have each : ∀ account, part * (rules.den * rules.unit * (book account).debt) ≤
      whole * (rules.num * exactValue rules.goods current (book account).held) := by
    intro account
    obtain ⟨price, member, line⟩ := judged account
    calc part * (rules.den * rules.unit * (book account).debt)
      _ ≤ part * (rules.num * exactValue rules.goods price (book account).held) :=
          Nat.mul_le_mul_left _ (debt_le_exactValue line)
      _ = rules.num * (part * exactValue rules.goods price (book account).held) := by ring
      _ ≤ rules.num * (whole * exactValue rules.goods current (book account).held) :=
          Nat.mul_le_mul_left _ (exactValue_scale (lasting price member))
      _ = whole * (rules.num * exactValue rules.goods current (book account).held) := by ring
  rw [← sum_exactValue, Finset.mul_sum, Finset.mul_sum, Finset.mul_sum, Finset.mul_sum]
  exact Finset.sum_le_sum fun account _ => each account

end Margin

end Vault
