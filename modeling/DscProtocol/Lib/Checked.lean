import Mathlib.Tactic.Common

set_option autoImplicit false

/- Checked arithmetic on naturals below an arbitrary limit, in an error monad with an
arbitrary error type. Every operation has one lemma saying exactly when it returns and what. -/
namespace Checked

variable {ε α β γ : Type}

/-- A sequence returns exactly when its first part does and the rest returns from there. -/
theorem bind_eq_ok {first : Except ε α} {next : α → Except ε β} {result : β} :
    (first >>= next) = .ok result ↔ ∃ value, first = .ok value ∧ next value = .ok result := by
  cases first with
  | error reason =>
      constructor
      · intro impossible
        cases impossible
      · rintro ⟨value, impossible, _⟩
        cases impossible
  | ok value =>
      constructor
      · intro returned
        exact ⟨value, rfl, returned⟩
      · rintro ⟨same, equal, returned⟩
        cases equal
        exact returned

theorem ok_bind (value : α) (next : α → Except ε β) :
    ((Except.ok value : Except ε α) >>= next) = next value := rfl

theorem bind_ok (first : Except ε α) : (first >>= fun value => .ok value) = first := by
  cases first <;> rfl

/-- Two sequences with the same first part need to agree only on what it returns. -/
theorem bind_congr {first : Except ε α} {left right : α → Except ε β}
    (agree : ∀ value, first = .ok value → left value = right value) :
    (first >>= left) = first >>= right := by
  cases first with
  | error reason => rfl
  | ok value => exact agree value rfl

/-- Mapping the result of a sequence maps the result of its last part. -/
theorem map_bind (first : Except ε α) (next : α → Except ε β) (f : β → γ) :
    (first >>= next).map f = first >>= fun value => (next value).map f := by
  cases first with
  | error reason => rfl
  | ok value => rfl

/-- Either a computation returns or it fails: the complement of every success lemma. -/
theorem fails_iff {result : Except ε α} :
    (∃ reason, result = .error reason) ↔ ∀ value, result ≠ .ok value := by
  cases result with
  | error reason => simp
  | ok value => simp

def require (condition : Prop) [Decidable condition] (reason : ε) : Except ε Unit :=
  if condition then .ok () else .error reason

@[simp] theorem require_eq_ok {condition : Prop} [Decidable condition] {reason : ε} {value : Unit} :
    require condition reason = .ok value ↔ condition := by
  unfold require
  split <;> simp [*]

def add (limit : Nat) (overflow : ε) (left right : Nat) : Except ε Nat :=
  if left + right < limit then .ok (left + right) else .error overflow

def sub (underflow : ε) (left right : Nat) : Except ε Nat :=
  if right ≤ left then .ok (left - right) else .error underflow

def mul (limit : Nat) (overflow : ε) (left right : Nat) : Except ε Nat :=
  if left * right < limit then .ok (left * right) else .error overflow

def div (byZero : ε) (left right : Nat) : Except ε Nat :=
  if right = 0 then .error byZero else .ok (left / right)

variable {limit left right value : Nat} {reason : ε}

@[simp] theorem add_eq_ok :
    add limit reason left right = .ok value ↔ left + right < limit ∧ value = left + right := by
  unfold add
  split <;> simp [*, eq_comm]

@[simp] theorem sub_eq_ok :
    sub reason left right = .ok value ↔ right ≤ left ∧ value = left - right := by
  unfold sub
  split <;> simp [*, eq_comm]

@[simp] theorem mul_eq_ok :
    mul limit reason left right = .ok value ↔ left * right < limit ∧ value = left * right := by
  unfold mul
  split <;> simp [*, eq_comm]

@[simp] theorem div_eq_ok :
    div reason left right = .ok value ↔ right ≠ 0 ∧ value = left / right := by
  unfold div
  split <;> simp [*, eq_comm]

/-- Whatever the computation fails with is allowed. -/
def FailsOnly (allowed : ε → Prop) (result : Except ε α) : Prop :=
  ∀ reason, result = .error reason → allowed reason

namespace FailsOnly

variable {allowed weaker : ε → Prop} {result : Except ε α} {next : α → Except ε β}

theorem ok {value : α} : FailsOnly allowed (.ok value) := by
  intro reason impossible
  cases impossible

theorem error (allows : allowed reason) : FailsOnly allowed (.error reason : Except ε α) := by
  intro other same
  cases same
  exact allows

theorem mono (fails : FailsOnly allowed result)
    (weaken : ∀ reason, allowed reason → weaker reason) : FailsOnly weaker result :=
  fun reason failed => weaken reason (fails reason failed)

/-- A sequence fails as its first part or, from what that returns, as the rest. -/
theorem bind (first : FailsOnly allowed result)
    (rest : ∀ value, result = .ok value → FailsOnly allowed (next value)) :
    FailsOnly allowed (result >>= next) := by
  cases result with
  | error reason =>
      intro other failed
      cases failed
      exact first reason rfl
  | ok value => exact rest value rfl

theorem require {condition : Prop} [Decidable condition]
    (allows : ¬ condition → allowed reason) :
    FailsOnly allowed (Checked.require condition reason) := by
  unfold Checked.require
  split
  · exact ok
  · rename_i broken
    exact error (allows broken)

theorem add (allows : allowed reason) :
    FailsOnly allowed (Checked.add limit reason left right) := by
  unfold Checked.add
  split
  · exact ok
  · exact error allows

theorem sub (allows : allowed reason) : FailsOnly allowed (Checked.sub reason left right) := by
  unfold Checked.sub
  split
  · exact ok
  · exact error allows

theorem mul (allows : allowed reason) :
    FailsOnly allowed (Checked.mul limit reason left right) := by
  unfold Checked.mul
  split
  · exact ok
  · exact error allows

theorem div (allows : allowed reason) : FailsOnly allowed (Checked.div reason left right) := by
  unfold Checked.div
  split
  · exact error allows
  · exact ok

/-- A loop fails as its body does. -/
theorem foldlM {γ : Type} {body : β → γ → Except ε β} {items : List γ}
    (round : ∀ state item, FailsOnly allowed (body state item)) (start : β) :
    FailsOnly allowed (items.foldlM body start) := by
  induction items generalizing start with
  | nil => exact ok
  | cons item rest ih =>
      rw [List.foldlM_cons]
      exact bind (round start item) (fun state _ => ih state)

end FailsOnly

/-- Wherever the first computation returns, the second returns the same. -/
def Within (first second : Except ε α) : Prop := ∀ value, first = .ok value → second = .ok value

namespace Within

variable {first second : Except ε α} {left right : α → Except ε β}

theorem refl (result : Except ε α) : Within result result := fun _ returned => returned

theorem bind (starts : Within first second)
    (goes : ∀ value, second = .ok value → Within (left value) (right value)) :
    Within (first >>= left) (second >>= right) := by
  intro result returned
  obtain ⟨value, began, ended⟩ := bind_eq_ok.mp returned
  have same := starts value began
  exact bind_eq_ok.mpr ⟨value, same, goes value same result ended⟩

end Within

end Checked
