import DscProtocol.Lib.Checked

set_option autoImplicit false

/- Programs that do nothing but test conditions one after the other: each fails with the reason
of the first condition that does not hold. Such programs compose by appending their conditions. -/
namespace Refusal

variable {ε α β : Type}

/-- A condition with the reason for refusing where it does not hold. -/
structure Check (ε : Type) where
  holds : Bool
  reason : ε

def check (condition : Prop) [Decidable condition] (reason : ε) : Check ε :=
  ⟨decide condition, reason⟩

/-- The value if all conditions hold, else the reason of the first that does not. -/
def settle (checks : List (Check ε)) (value : α) : Except ε α :=
  match checks with
  | [] => .ok value
  | first :: rest => if first.holds then settle rest value else .error first.reason

def AllHold (checks : List (Check ε)) : Prop := ∀ tested ∈ checks, tested.holds = true

variable {checks more rest : List (Check ε)} {value middle : α} {result : β} {reason : ε}
  {condition : Prop} [Decidable condition]

theorem allHold_nil : AllHold ([] : List (Check ε)) := by
  intro tested impossible
  cases impossible

@[simp] theorem allHold_cons {first : Check ε} :
    AllHold (first :: rest) ↔ first.holds = true ∧ AllHold rest := List.forall_mem_cons

@[simp] theorem check_holds : (check condition reason).holds = true ↔ condition :=
  decide_eq_true_iff

theorem settle_of_holds (condition_holds : condition) :
    settle (check condition reason :: rest) value = settle rest value := by
  simp only [settle, check_holds.mpr condition_holds, ↓reduceIte]

theorem settle_of_fails (broken : ¬ condition) :
    settle (check condition reason :: rest) value = .error reason := by
  have refused : ¬ (check condition reason).holds = true := fun holds =>
    broken (check_holds.mp holds)
  simp only [settle, refused]
  rfl

/-- The value comes out exactly when every condition holds. -/
theorem settle_eq_ok {other : α} :
    settle checks value = .ok other ↔ AllHold checks ∧ value = other := by
  induction checks with
  | nil =>
      simp only [settle, Except.ok.injEq]
      exact (and_iff_right allHold_nil).symm
  | cons first rest ih =>
      rw [allHold_cons]
      by_cases holds : first.holds = true
      · simp only [settle, holds, ↓reduceIte, ih, true_and]
      · simp [settle, holds]

/-- In sequence conditions are appended; the rest may rely on those before. -/
theorem settle_bind {first : Except ε α} {next : α → Except ε β}
    (starts : first = settle checks middle)
    (goes : AllHold checks → next middle = settle more result) :
    (first >>= next) = settle (checks ++ more) result := by
  subst starts
  induction checks with
  | nil => exact goes allHold_nil
  | cons tested rest ih =>
      by_cases holds : tested.holds = true
      · simp only [List.cons_append, settle, holds, ↓reduceIte]
        exact ih fun held => goes (allHold_cons.mpr ⟨holds, held⟩)
      · simp only [List.cons_append, settle, holds]
        rfl

/-- A program that cannot fail adds no condition. -/
theorem settle_ok_bind {first : Except ε α} {next : α → Except ε β} (returns : first = .ok middle)
    (goes : next middle = settle more result) : (first >>= next) = settle more result := by
  rw [returns]
  exact goes

/-- Nor does one that cannot fail at the end. -/
theorem settle_bind_ok {first : Except ε α} {next : α → Except ε β}
    (starts : first = settle checks middle)
    (returns : AllHold checks → next middle = .ok result) :
    (first >>= next) = settle checks result := by
  have both := @settle_bind ε α β checks [] middle result first next starts returns
  rw [List.append_nil] at both
  exact both

/-- Conditions that hold may be left out. -/
theorem settle_append (held : AllHold checks) :
    settle (checks ++ more) value = settle more value := by
  induction checks with
  | nil => rfl
  | cons first rest ih =>
      obtain ⟨holds, others⟩ := allHold_cons.mp held
      simp only [List.cons_append, settle, holds, ↓reduceIte]
      exact ih others

theorem settle_map (f : α → β) :
    (settle checks value >>= fun settled => .ok (f settled)) = settle checks (f value) :=
  settle_bind_ok rfl fun _ => rfl

section Loop

variable {γ : Type} (tests : α → γ → List (Check ε)) (next : α → γ → α)

/-- The conditions of a loop: those of each round, where the rounds before have left the value. -/
def loopChecks (start : α) (items : List γ) : List (Check ε) :=
  match items with
  | [] => []
  | item :: rest => tests start item ++ loopChecks (next start item) rest

/-- A loop whose rounds settle settles. -/
theorem foldlM_settles {body : α → γ → Except ε α}
    (round : ∀ state item, body state item = settle (tests state item) (next state item))
    (start : α) (items : List γ) :
    items.foldlM body start =
      settle (loopChecks tests next start items) (items.foldl next start) := by
  induction items generalizing start with
  | nil => rfl
  | cons item rest ih =>
      rw [List.foldlM_cons]
      exact settle_bind (round start item) (fun _ => ih (next start item))

end Loop

section Arithmetic

variable {limit left right : Nat}

/-- The condition may be written another way than the program has it. -/
theorem require_bind {tested : Prop} [Decidable tested] {next : Unit → Except ε β}
    (same : tested ↔ condition) (goes : condition → next () = settle more result) :
    (Checked.require tested reason >>= next) = settle (check condition reason :: more) result := by
  unfold Checked.require
  by_cases holds : condition
  · rw [if_pos (same.mpr holds), settle_of_holds holds]
    exact goes holds
  · rw [if_neg fun passes => holds (same.mp passes), settle_of_fails holds]
    rfl

theorem require_settles {tested : Prop} [Decidable tested] (same : tested ↔ condition) :
    Checked.require tested reason = settle [check condition reason] () := by
  unfold Checked.require
  by_cases holds : condition
  · rw [if_pos (same.mpr holds), settle_of_holds holds]
    rfl
  · rw [if_neg fun passes => holds (same.mp passes), settle_of_fails holds]

theorem add_bind {next : Nat → Except ε β}
    (goes : left + right < limit → next (left + right) = settle more result) :
    (Checked.add limit reason left right >>= next) =
      settle (check (left + right < limit) reason :: more) result := by
  unfold Checked.add
  by_cases fits : left + right < limit
  · rw [if_pos fits, settle_of_holds fits]
    exact goes fits
  · rw [if_neg fits, settle_of_fails fits]
    rfl

theorem sub_bind {next : Nat → Except ε β}
    (goes : right ≤ left → next (left - right) = settle more result) :
    (Checked.sub reason left right >>= next) =
      settle (check (right ≤ left) reason :: more) result := by
  unfold Checked.sub
  by_cases enough : right ≤ left
  · rw [if_pos enough, settle_of_holds enough]
    exact goes enough
  · rw [if_neg enough, settle_of_fails enough]
    rfl

theorem mul_bind {next : Nat → Except ε β}
    (goes : left * right < limit → next (left * right) = settle more result) :
    (Checked.mul limit reason left right >>= next) =
      settle (check (left * right < limit) reason :: more) result := by
  unfold Checked.mul
  by_cases fits : left * right < limit
  · rw [if_pos fits, settle_of_holds fits]
    exact goes fits
  · rw [if_neg fits, settle_of_fails fits]
    rfl

theorem add_settles :
    Checked.add limit reason left right =
      settle [check (left + right < limit) reason] (left + right) := by
  unfold Checked.add
  by_cases fits : left + right < limit
  · rw [if_pos fits, settle_of_holds fits]
    rfl
  · rw [if_neg fits, settle_of_fails fits]

theorem div_settles :
    Checked.div reason left right = settle [check (0 < right) reason] (left / right) := by
  unfold Checked.div
  by_cases nothing : right = 0
  · rw [if_pos nothing, settle_of_fails (by omega)]
  · rw [if_neg nothing, settle_of_holds (Nat.pos_of_ne_zero nothing)]
    rfl

end Arithmetic

end Refusal
