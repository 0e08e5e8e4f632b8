import Mathlib.Algebra.Order.BigOperators.Group.Finset
import Mathlib.Data.Fintype.BigOperators

set_option autoImplicit false

/- Balance sheets over a finite type of accounts. A cell is rewritten by `Function.update`;
the total then moves by exactly the difference of the new and the old cell. -/
namespace Ledger

variable {α : Type} [DecidableEq α]

/-- Units leave one account and enter another; the two may be the same. -/
def move (balance : α → Nat) (source target : α) (amount : Nat) : α → Nat :=
  let drawn := Function.update balance source (balance source - amount)
  Function.update drawn target (drawn target + amount)

theorem move_self (balance : α → Nat) (account : α) (amount : Nat)
    (enough : amount ≤ balance account) : move balance account account amount = balance := by
  funext other
  by_cases same : other = account
  · subst same
    simp only [move, Function.update_self]
    omega
  · simp only [move, Function.update_of_ne same]

theorem move_source (balance : α → Nat) {source target : α} (amount : Nat)
    (apart : source ≠ target) :
    move balance source target amount source = balance source - amount := by
  simp only [move, Function.update_of_ne apart, Function.update_self]

theorem move_target (balance : α → Nat) {source target : α} (amount : Nat)
    (apart : source ≠ target) :
    move balance source target amount target = balance target + amount := by
  simp only [move, Function.update_self, Function.update_of_ne apart.symm]

theorem move_other (balance : α → Nat) {source target account : α} (amount : Nat)
    (notSource : account ≠ source) (notTarget : account ≠ target) :
    move balance source target amount account = balance account := by
  simp only [move, Function.update_of_ne notTarget, Function.update_of_ne notSource]

@[simp] theorem move_zero (balance : α → Nat) (source target : α) :
    move balance source target 0 = balance := by
  simp only [move, Nat.sub_zero, Nat.add_zero, Function.update_eq_self]

/-- What every account pays and receives, also one that moves units to itself. -/
theorem move_flow (balance : α → Nat) {source : α} (target account : α) {amount : Nat}
    (enough : amount ≤ balance source) :
    move balance source target amount account + (if source = account then amount else 0) =
      balance account + (if target = account then amount else 0) := by
  by_cases self : source = target
  · subst self
    rw [move_self balance source amount enough]
  · by_cases pays : source = account
    · subst pays
      rw [move_source balance amount self, if_pos rfl, if_neg (Ne.symm self)]
      omega
    · by_cases receives : target = account
      · subst receives
        rw [move_target balance amount self, if_neg self, if_pos rfl]
        omega
      · rw [move_other balance amount (Ne.symm pays) (Ne.symm receives), if_neg pays,
          if_neg receives]

variable {β : Type} [DecidableEq β]

/-- One cell of a table of tables, as `table[row][column] = value` writes it. -/
def assign (table : α → β → Nat) (row : α) (column : β) (value : Nat) : α → β → Nat :=
  Function.update table row (Function.update (table row) column value)

@[simp] theorem assign_self (table : α → β → Nat) (row : α) (column : β) (value : Nat) :
    assign table row column value row column = value := by
  simp only [assign, Function.update_self]

theorem assign_apply (table : α → β → Nat) (row other : α) (column elsewhere : β) (value : Nat) :
    assign table row column value other elsewhere =
      if other = row ∧ elsewhere = column then value else table other elsewhere := by
  by_cases sameRow : other = row
  · subst sameRow
    by_cases sameColumn : elsewhere = column
    · subst sameColumn
      simp only [assign_self, and_self, ↓reduceIte]
    · simp only [assign, Function.update_self, Function.update_of_ne sameColumn, sameColumn,
        and_false, ↓reduceIte]
  · simp only [assign, Function.update_of_ne sameRow, sameRow, false_and, ↓reduceIte]

theorem assign_row (table : α → β → Nat) (row other : α) (column : β) (value : Nat)
    (apart : other ≠ row) : assign table row column value other = table other := by
  simp only [assign, Function.update_of_ne apart]

theorem assign_column (table : α → β → Nat) (row other : α) (column elsewhere : β) (value : Nat)
    (apart : elsewhere ≠ column) :
    assign table row column value other elsewhere = table other elsewhere := by
  simp only [assign_apply, apart, and_false, ↓reduceIte]

theorem assign_assign (table : α → β → Nat) (row : α) (column : β) (first second : Nat) :
    assign (assign table row column first) row column second = assign table row column second := by
  simp only [assign, Function.update_self, Function.update_idem]

/-- Down the written column the table changes like a single balance sheet. -/
theorem assign_same_column (table : α → β → Nat) (row : α) (column : β) (value : Nat) :
    (fun other => assign table row column value other column) =
      Function.update (fun other => table other column) row value := by
  funext other
  by_cases same : other = row
  · subst same
    simp only [assign_self, Function.update_self]
  · rw [assign_row table row other column value same, Function.update_of_ne same]

/-- Raising one cell lowers none, -/
theorem le_assign (table : α → β → Nat) {row : α} {column : β} {value : Nat}
    (raised : table row column ≤ value) : table ≤ assign table row column value := by
  have cell : table row ≤ Function.update (table row) column value :=
    le_update_self_iff.mpr raised
  exact le_update_self_iff.mpr cell

/-- and lowering one raises none. -/
theorem assign_le (table : α → β → Nat) {row : α} {column : β} {value : Nat}
    (lowered : value ≤ table row column) : assign table row column value ≤ table := by
  have cell : Function.update (table row) column value ≤ table row :=
    update_le_self_iff.mpr lowered
  exact update_le_self_iff.mpr cell

section Part

/- Some of the accounts: their total moves by what crosses the border. -/

variable (part : Finset α) (balance : α → Nat)

theorem sum_update_on (account : α) (amount : Nat) :
    ∑ other ∈ part, Function.update balance account amount other +
        (if account ∈ part then balance account else 0) =
      ∑ other ∈ part, balance other + (if account ∈ part then amount else 0) := by
  by_cases inside : account ∈ part
  · have split := Finset.sum_update_of_mem inside balance amount
    have whole := Finset.add_sum_erase part balance inside
    rw [Finset.sdiff_singleton_eq_erase] at split
    simp only [inside, ↓reduceIte]
    omega
  · simp only [Finset.sum_update_of_notMem inside, inside, ↓reduceIte]

theorem sum_move_on (source target : α) (amount : Nat) (enough : amount ≤ balance source) :
    ∑ other ∈ part, move balance source target amount other +
        (if source ∈ part then amount else 0) =
      ∑ other ∈ part, balance other + (if target ∈ part then amount else 0) := by
  have drawn := sum_update_on part balance source (balance source - amount)
  have paid := sum_update_on part (Function.update balance source (balance source - amount)) target
    (Function.update balance source (balance source - amount) target + amount)
  simp only [move]
  split at drawn <;> split at paid <;> simp only [*, ↓reduceIte] at * <;> omega

theorem sum_assign_on (table : α → β → Nat) (row : α) (column : β) (value : Nat) :
    ∑ other ∈ part, assign table row column value other column +
        (if row ∈ part then table row column else 0) =
      ∑ other ∈ part, table other column + (if row ∈ part then value else 0) := by
  have column_sum := sum_update_on part (fun other => table other column) row value
  rw [← assign_same_column table row column value] at column_sum
  exact column_sum

end Part

variable [Fintype α]

theorem sum_update (balance : α → Nat) (account : α) (amount : Nat) :
    ∑ other, Function.update balance account amount other + balance account =
      ∑ other, balance other + amount := by
  have split := Finset.sum_update_of_mem (Finset.mem_univ account) balance amount
  have whole := Finset.add_sum_erase Finset.univ balance (Finset.mem_univ account)
  rw [Finset.sdiff_singleton_eq_erase] at split
  omega

omit [DecidableEq α] in
theorem le_sum (balance : α → Nat) (account : α) : balance account ≤ ∑ other, balance other :=
  Finset.single_le_sum (fun other _ => Nat.zero_le (balance other)) (Finset.mem_univ account)

theorem add_le_sum (balance : α → Nat) {first second : α} (apart : first ≠ second) :
    balance first + balance second ≤ ∑ other, balance other := by
  have whole := Finset.add_sum_erase Finset.univ balance (Finset.mem_univ first)
  have inside : second ∈ Finset.univ.erase first :=
    Finset.mem_erase.mpr ⟨apart.symm, Finset.mem_univ second⟩
  have rest := Finset.single_le_sum (fun other _ => Nat.zero_le (balance other)) inside
  omega

/-- A transfer conserves the total. -/
theorem sum_move (balance : α → Nat) (source target : α) (amount : Nat)
    (enough : amount ≤ balance source) :
    ∑ other, move balance source target amount other = ∑ other, balance other := by
  have drawn := sum_update balance source (balance source - amount)
  have paid := sum_update (Function.update balance source (balance source - amount)) target
    (Function.update balance source (balance source - amount) target + amount)
  have held := le_sum balance source
  simp only [move]
  omega

theorem sum_assign (table : α → β → Nat) (row : α) (column : β) (value : Nat) :
    ∑ other, assign table row column value other column + table row column =
      ∑ other, table other column + value := by
  have column_sum := sum_update (fun other => table other column) row value
  rw [← assign_same_column table row column value] at column_sum
  exact column_sum

theorem sum_assign_of_ne (table : α → β → Nat) (row : α) (column elsewhere : β) (value : Nat)
    (apart : elsewhere ≠ column) :
    ∑ other, assign table row column value other elsewhere = ∑ other, table other elsewhere := by
  apply Finset.sum_congr rfl
  intro other _
  exact assign_column table row other column elsewhere value apart

end Ledger
