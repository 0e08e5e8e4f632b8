import Mathlib.Algebra.BigOperators.Group.List.Basic
import Mathlib.Algebra.BigOperators.Ring.Finset
import Mathlib.Algebra.Order.BigOperators.Group.Finset
import Mathlib.Data.Fintype.BigOperators
import Mathlib.Tactic.Ring

set_option autoImplicit false

/- Debts secured by pledged goods. Every valuation is a floor, and an account is judged by a
floored ratio against a fixed line. -/
namespace Pledge

/-- How a position is judged: goods are priced per `unit`, `num / den` of their value counts,
and the counted value is compared with the debt at resolution `line`. -/
structure Terms where
  unit : Nat
  num : Nat
  den : Nat
  line : Nat
  top : Nat
  line_pos : 0 < line
  line_le_top : line ≤ top

structure Position (τ : Type) where
  held : τ → Nat
  debt : Nat

variable {τ : Type}

def worth (unit price amount : Nat) : Nat := price * amount / unit

/-- The goods an amount of debt buys at the price, floored. -/
def bought (unit price debt : Nat) : Nat := debt * unit / price

/-- Goods with a premium of `num / den`, floored on its own. -/
def withBonus (num den amount : Nat) : Nat := amount + amount * num / den

/-- The value of a holding: one floor per kind of goods. -/
def value (unit : Nat) (goods : List τ) (price held : τ → Nat) : Nat :=
  (goods.map fun kind => worth unit (price kind) (held kind)).sum

/-- The floored ratio of counted value to debt, `top` where there is no debt. -/
def ratio (terms : Terms) (amount debt : Nat) : Nat :=
  if debt = 0 then terms.top else amount * terms.num / terms.den * terms.line / debt

def health (terms : Terms) (goods : List τ) (price : τ → Nat) (position : Position τ) : Nat :=
  ratio terms (value terms.unit goods price position.held) position.debt

theorem worth_zero (unit price : Nat) : worth unit price 0 = 0 := by
  simp only [worth, Nat.mul_zero, Nat.zero_div]

theorem worth_mono {unit price dearer less more : Nat} (rise : price ≤ dearer)
    (grow : less ≤ more) : worth unit price less ≤ worth unit dearer more :=
  Nat.div_le_div_right (Nat.mul_le_mul rise grow)

/-- Flooring two parts apart never gives more than flooring them together. -/
theorem worth_add_le (unit price first second : Nat) :
    worth unit price first + worth unit price second ≤ worth unit price (first + second) := by
  simp only [worth, Nat.mul_add]
  exact Nat.div_add_div_le_add_div

/-- What an amount of debt buys at the price stays within the same multiple of the goods as the
debt is of their floored worth. -/
theorem bought_le {unit price debt deposit times parts : Nat} (priced : 0 < price)
    (cover : times * debt ≤ parts * worth unit price deposit) :
    times * (debt * unit / price) ≤ parts * deposit := by
  have bought : debt * unit / price * price ≤ debt * unit := Nat.div_mul_le_self _ _
  have floored : worth unit price deposit * unit ≤ price * deposit := Nat.div_mul_le_self _ _
  apply Nat.le_of_mul_le_mul_right _ priced
  calc times * (debt * unit / price) * price
    _ = times * (debt * unit / price * price) := by ring
    _ ≤ times * (debt * unit) := Nat.mul_le_mul_left times bought
    _ = times * debt * unit := by ring
    _ ≤ parts * worth unit price deposit * unit := Nat.mul_le_mul_right unit cover
    _ = parts * (worth unit price deposit * unit) := by ring
    _ ≤ parts * (price * deposit) := Nat.mul_le_mul_left parts floored
    _ = parts * deposit * price := by ring

section Conversions

variable {unit price debt num den amount : Nat}

theorem price_mul_bought_le : price * bought unit price debt ≤ debt * unit :=
  Nat.mul_div_le (debt * unit) price

theorem lt_price_mul_bought (priced : 0 < price) :
    debt * unit < price * bought unit price debt + price := by
  have rounded := Nat.lt_mul_div_succ (debt * unit) priced
  rw [Nat.mul_succ] at rounded
  exact rounded

theorem bought_add_le (unit price first second : Nat) :
    bought unit price first + bought unit price second ≤ bought unit price (first + second) := by
  simp only [bought, Nat.add_mul]
  exact Nat.div_add_div_le_add_div

/-- Buying with a debt and valuing what was bought never gains, -/
theorem worth_bought_le (counted : 0 < unit) :
    worth unit price (bought unit price debt) ≤ debt := by
  have spent := @price_mul_bought_le unit price debt
  apply Nat.le_of_mul_le_mul_right _ counted
  exact (Nat.div_mul_le_self _ unit).trans spent

/-- and loses less than the price of one good and one unit of value. -/
theorem lt_worth_bought (counted : 0 < unit) (priced : 0 < price) :
    debt * unit < (worth unit price (bought unit price debt) + 1) * unit + price := by
  have spent := @lt_price_mul_bought unit price debt priced
  have valued := Nat.lt_mul_div_succ (price * bought unit price debt) counted
  rw [Nat.mul_comm unit] at valued
  unfold worth
  omega

theorem den_mul_withBonus_le : den * withBonus num den amount ≤ (den + num) * amount := by
  have floored := Nat.mul_div_le (amount * num) den
  simp only [withBonus, Nat.mul_add, Nat.add_mul, Nat.mul_comm num amount]
  omega

theorem lt_den_mul_withBonus (parts : 0 < den) :
    (den + num) * amount < den * withBonus num den amount + den := by
  have floored := Nat.lt_mul_div_succ (amount * num) parts
  rw [Nat.mul_succ] at floored
  simp only [withBonus, Nat.mul_add, Nat.add_mul, Nat.mul_comm num amount]
  omega

theorem withBonus_mono {less more : Nat} (grow : less ≤ more) :
    withBonus num den less ≤ withBonus num den more :=
  Nat.add_le_add grow (Nat.div_le_div_right (Nat.mul_le_mul_right num grow))

theorem withBonus_add_le (num den first second : Nat) :
    withBonus num den first + withBonus num den second ≤ withBonus num den (first + second) := by
  have floors : first * num / den + second * num / den ≤ (first + second) * num / den := by
    rw [Nat.add_mul]
    exact Nat.div_add_div_le_add_div
  unfold withBonus
  omega

end Conversions

theorem sum_worth_le {α : Type} (accounts : Finset α) (unit price : Nat) (held : α → Nat) :
    ∑ account ∈ accounts, worth unit price (held account) ≤
      worth unit price (∑ account ∈ accounts, held account) := by
  classical
  induction accounts using Finset.induction_on with
  | empty => simp only [Finset.sum_empty, worth_zero, Nat.le_refl]
  | insert account rest fresh ih =>
      rw [Finset.sum_insert fresh, Finset.sum_insert fresh]
      exact (Nat.add_le_add_left ih _).trans (worth_add_le unit price _ _)

theorem value_mono {unit : Nat} {goods : List τ} {price dearer less more : τ → Nat}
    (rise : ∀ kind ∈ goods, price kind ≤ dearer kind)
    (grow : ∀ kind ∈ goods, less kind ≤ more kind) :
    value unit goods price less ≤ value unit goods dearer more := by
  apply List.sum_le_sum
  intro kind listed
  exact worth_mono (rise kind listed) (grow kind listed)

theorem value_eq_zero {unit : Nat} {goods : List τ} {price held : τ → Nat}
    (empty : ∀ kind ∈ goods, held kind = 0) : value unit goods price held = 0 := by
  apply List.sum_eq_zero
  intro amount member
  obtain ⟨kind, listed, rfl⟩ := List.mem_map.mp member
  rw [empty kind listed, worth_zero]

theorem value_le {unit bound : Nat} {goods : List τ} {price held : τ → Nat}
    (each : ∀ kind ∈ goods, worth unit (price kind) (held kind) ≤ bound) :
    value unit goods price held ≤ goods.length * bound := by
  have limit : ∀ amount ∈ goods.map (fun kind => worth unit (price kind) (held kind)),
      amount ≤ bound := by
    intro amount member
    obtain ⟨kind, listed, rfl⟩ := List.mem_map.mp member
    exact each kind listed
  have sum := List.sum_le_card_nsmul _ bound limit
  rw [List.length_map, Nat.nsmul_eq_mul] at sum
  exact sum

/-- A holding in one kind of goods, listed once, is worth that one floor. -/
theorem value_single [DecidableEq τ] {unit : Nat} {goods : List τ} {price held : τ → Nat}
    {only : τ} (distinct : goods.Nodup) (listed : only ∈ goods)
    (elsewhere : ∀ kind, kind ≠ only → held kind = 0) :
    value unit goods price held = worth unit (price only) (held only) := by
  induction goods with
  | nil => cases listed
  | cons first rest ih =>
      obtain ⟨absent, distinctRest⟩ := List.nodup_cons.mp distinct
      simp only [value, List.map_cons, List.sum_cons]
      by_cases here : first = only
      · subst here
        have nothing : value unit rest price held = 0 := value_eq_zero (by
          intro kind member
          apply elsewhere
          rintro rfl
          exact absent member)
        unfold value at nothing
        omega
      · have inRest : only ∈ rest := by
          rcases List.mem_cons.mp listed with same | inRest
          · exact absurd same.symm here
          · exact inRest
        have tail := ih distinctRest inRest
        unfold value at tail
        rw [elsewhere first here, worth_zero, tail, Nat.zero_add]

/-- Goods listed once each are valued as a set. -/
theorem value_eq_sum [DecidableEq τ] {unit : Nat} {goods : List τ} {price held : τ → Nat}
    (distinct : goods.Nodup) :
    value unit goods price held = ∑ kind ∈ goods.toFinset, worth unit (price kind) (held kind) :=
  (List.sum_toFinset _ distinct).symm

/-- Without one kind of goods a holding is worth that one floor less. -/
theorem value_clear [DecidableEq τ] {unit : Nat} {goods : List τ} {price held : τ → Nat}
    {cleared : τ} (distinct : goods.Nodup) (listed : cleared ∈ goods) :
    value unit goods price (Function.update held cleared 0) =
      value unit goods price held - worth unit (price cleared) (held cleared) := by
  rw [value_eq_sum distinct, value_eq_sum distinct]
  have inside := List.mem_toFinset.mpr listed
  have whole := Finset.add_sum_erase goods.toFinset
    (fun kind => worth unit (price kind) (held kind)) inside
  have rest := Finset.add_sum_erase goods.toFinset
    (fun kind => worth unit (price kind) (Function.update held cleared 0 kind)) inside
  have same : ∑ kind ∈ goods.toFinset.erase cleared,
      worth unit (price kind) (Function.update held cleared 0 kind) =
        ∑ kind ∈ goods.toFinset.erase cleared, worth unit (price kind) (held kind) := by
    apply Finset.sum_congr rfl
    intro kind member
    rw [Function.update_of_ne (Finset.ne_of_mem_erase member)]
  simp only [Function.update_self, worth_zero] at rest
  omega

/-- The line is enforced exactly: no floor in between lets a position pass or fail wrongly. -/
theorem line_le_ratio {terms : Terms} {amount debt : Nat} :
    terms.line ≤ ratio terms amount debt ↔ debt ≤ amount * terms.num / terms.den := by
  unfold ratio
  split
  · rename_i none
    simp only [none, terms.line_le_top, Nat.zero_le]
  · rename_i owed
    rw [Nat.le_div_iff_mul_le (Nat.pos_of_ne_zero owed), Nat.mul_comm terms.line debt]
    exact ⟨fun enough => Nat.le_of_mul_le_mul_right enough terms.line_pos,
      fun enough => Nat.mul_le_mul_right _ enough⟩

theorem ratio_mono {terms : Terms} {less more owed remaining : Nat} (grow : less ≤ more)
    (repaid : remaining ≤ owed) :
    min (ratio terms less owed) terms.line ≤ min (ratio terms more remaining) terms.line := by
  unfold ratio
  by_cases clear : remaining = 0
  · have top := terms.line_le_top
    simp only [clear, ↓reduceIte]
    omega
  · have owing : owed ≠ 0 := by omega
    simp only [clear, owing, ↓reduceIte]
    have counted : less * terms.num / terms.den ≤ more * terms.num / terms.den :=
      Nat.div_le_div_right (Nat.mul_le_mul_right _ grow)
    have scaled := Nat.div_le_div (Nat.mul_le_mul_right terms.line counted) repaid clear
    omega

/-- More goods and less debt never lower the health, up to the line. -/
theorem health_mono {terms : Terms} {goods : List τ} {price : τ → Nat} {before after : Position τ}
    (grow : ∀ kind ∈ goods, before.held kind ≤ after.held kind)
    (repaid : after.debt ≤ before.debt) :
    min (health terms goods price before) terms.line ≤
      min (health terms goods price after) terms.line :=
  ratio_mono (value_mono (fun _ _ => Nat.le_refl _) grow) repaid

section Shortfall

variable {value left debt remaining line : Nat}

/-- What the goods do not cover of the debt. -/
def shortfall (unit : Nat) (goods : List τ) (price : τ → Nat) (position : Position τ) : Nat :=
  position.debt - Pledge.value unit goods price position.held

/-- Ratios compared without the division. -/
theorem div_le_div_of_cross {less more owed rest : Nat} (owing : 0 < rest)
    (cross : less * owed ≤ more * rest) (indebted : 0 < owed) :
    less * line / rest ≤ more * line / owed := by
  rw [Nat.le_div_iff_mul_le indebted]
  have floored := Nat.div_mul_le_self (less * line) rest
  apply Nat.le_of_mul_le_mul_right _ owing
  calc less * line / rest * owed * rest
    _ = less * line / rest * rest * owed := by ring
    _ ≤ less * line * owed := Nat.mul_le_mul_right owed floored
    _ = less * owed * line := by ring
    _ ≤ more * rest * line := Nat.mul_le_mul_right line cross
    _ = more * line * rest := by ring

/-- Where half of the value counts, a repayment that raises the floored ratio leaves no more
uncovered than there was. -/
theorem shortfall_le_of_raised (repaid : remaining ≤ debt)
    (raised : value / 2 * line / debt < left / 2 * line / remaining) :
    remaining - left ≤ debt - value := by
  by_contra grown
  have cross : left / 2 * debt ≤ value / 2 * remaining := by
    by_cases deep : 2 * (value / 2) ≤ debt
    · obtain ⟨missing, split⟩ := Nat.exists_eq_add_of_le deep
      have half : 2 * (left / 2) + missing ≤ remaining := by omega
      have scaled := Nat.mul_le_mul_right debt half
      have moved := Nat.mul_le_mul_left missing repaid
      have both : debt * remaining = 2 * (value / 2) * remaining + missing * remaining := by
        rw [← Nat.add_mul, ← split]
      rw [Nat.add_mul, Nat.mul_comm remaining debt, both] at scaled
      have twice : 2 * (left / 2 * debt) ≤ 2 * (value / 2 * remaining) := by
        rw [← Nat.mul_assoc, ← Nat.mul_assoc]
        omega
      exact Nat.le_of_mul_le_mul_left twice (by decide)
    · have first : 2 * (left / 2) ≤ remaining := by omega
      have twice : 2 * (left / 2 * debt) ≤ 2 * (value / 2 * remaining) := by
        calc 2 * (left / 2 * debt)
          _ = 2 * (left / 2) * debt := (Nat.mul_assoc _ _ _).symm
          _ ≤ remaining * debt := Nat.mul_le_mul_right debt first
          _ ≤ remaining * (2 * (value / 2)) := Nat.mul_le_mul_left remaining (by omega)
          _ = 2 * (value / 2 * remaining) := by ring
      exact Nat.le_of_mul_le_mul_left twice (by decide)
  have lower : left / 2 * line / remaining ≤ value / 2 * line / debt :=
    div_le_div_of_cross (by omega) cross (by omega)
  omega

end Shortfall

section Book

variable {α : Type}

/-- All accounts with their positions. -/
abbrev Book (α τ : Type) := α → Position τ

variable (terms : Terms) (goods : List τ) (price : τ → Nat)

def Healthy (book : Book α τ) : Prop :=
  ∀ account, terms.line ≤ health terms goods price (book account)

/-- Up to the line, no account is worse off in the second book. -/
def NoneWorse (before after : Book α τ) : Prop :=
  ∀ account, min (health terms goods price (before account)) terms.line ≤
    min (health terms goods price (after account)) terms.line

variable {terms goods price}

theorem NoneWorse.trans {first second third : Book α τ}
    (left : NoneWorse terms goods price first second)
    (right : NoneWorse terms goods price second third) :
    NoneWorse terms goods price first third :=
  fun account => (left account).trans (right account)

/-- Only one account moves, and it is no worse off. -/
theorem NoneWorse.of_one {before after : Book α τ} (moved : α)
    (others : ∀ account, account ≠ moved → after account = before account)
    (better : min (health terms goods price (before moved)) terms.line ≤
      min (health terms goods price (after moved)) terms.line) :
    NoneWorse terms goods price before after := by
  intro account
  by_cases same : account = moved
  · subst same
    exact better
  · rw [others account same]

/-- Dearer goods keep a healthy book healthy. -/
theorem Healthy.rise {book : Book α τ} {dearer : τ → Nat}
    (healthy : Healthy terms goods price book)
    (rise : ∀ kind ∈ goods, price kind ≤ dearer kind) : Healthy terms goods dearer book := by
  intro account
  have grown : value terms.unit goods price (book account).held ≤
      value terms.unit goods dearer (book account).held :=
    value_mono rise (fun _ _ => Nat.le_refl _)
  have step := @ratio_mono terms _ _ _ _ grown (Nat.le_refl (book account).debt)
  have start := healthy account
  unfold health at start ⊢
  omega

variable [Fintype α]

/-- One floor per account is worth at most one floor for the whole pool of goods. -/
theorem sum_value_le (unit : Nat) (goods : List τ) (price : τ → Nat) (held : α → τ → Nat) :
    ∑ account, value unit goods price (held account) ≤
      value unit goods price (fun kind => ∑ account, held account kind) := by
  induction goods with
  | nil => simp only [value, List.map_nil, List.sum_nil, Finset.sum_const_zero, Nat.le_refl]
  | cons first rest ih =>
      simp only [value, List.map_cons, List.sum_cons, Finset.sum_add_distrib] at ih ⊢
      exact Nat.add_le_add (sum_worth_le Finset.univ unit (price first) _) ih

/-- A book in which every debt is covered `times` over is covered `times` over as a whole. -/
theorem covered (times : Nat) (unit : Nat) (goods : List τ) (price : τ → Nat)
    (book : Book α τ)
    (each : ∀ account, times * (book account).debt ≤ value unit goods price (book account).held) :
    times * ∑ account, (book account).debt ≤
      value unit goods price (fun kind => ∑ account, (book account).held kind) := by
  rw [Finset.mul_sum]
  exact (Finset.sum_le_sum fun account _ => each account).trans
    (sum_value_le unit goods price fun account => (book account).held)

/-- All debts together are covered by the pooled goods and by what single accounts lack. -/
theorem debts_le (unit : Nat) (goods : List τ) (price : τ → Nat) (book : Book α τ) :
    ∑ account, (book account).debt ≤
      value unit goods price (fun kind => ∑ account, (book account).held kind) +
        ∑ account, shortfall unit goods price (book account) := by
  have each : ∀ account ∈ Finset.univ, (book account).debt ≤
      value unit goods price (book account).held +
        shortfall unit goods price (book account) := by
    intro account _
    unfold shortfall
    omega
  have pooled := sum_value_le unit goods price fun account => (book account).held
  have all := Finset.sum_le_sum each
  rw [Finset.sum_add_distrib] at all
  omega

end Book

end Pledge
