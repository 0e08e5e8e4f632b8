import Mathlib.Data.List.Basic
import Mathlib.Data.List.Induction
import Mathlib.Logic.Function.Basic

set_option autoImplicit false

/- Records filed under keys, the later ones on top of the earlier. -/
namespace Archive

variable {κ β : Type} [DecidableEq κ]

/-- What stands under a key: the last of the records filed under it. -/
def newest (records : List (κ × β)) (key : κ) : Option β := records.reverse.lookup key

/-- A new record hides the older ones under its own key and no others. -/
theorem newest_append (records : List (κ × β)) (key : κ) (value : β) :
    newest (records ++ [(key, value)]) = Function.update (newest records) key (some value) := by
  funext other
  have reversed : (records ++ [(key, value)]).reverse = (key, value) :: records.reverse := by
    simp only [List.reverse_append, List.reverse_cons, List.reverse_nil, List.nil_append,
      List.singleton_append]
  unfold newest
  rw [reversed, List.lookup_cons]
  by_cases same : other = key
  · subst same
    simp only [beq_self_eq_true, Function.update_self]
  · simp only [beq_eq_false_iff_ne.mpr same, Function.update_of_ne same]

/-- The records are filed under 1, 2, … as they come. -/
def Numbered (records : List (Nat × β)) : Prop :=
  records.map Prod.fst = List.range' 1 records.length

theorem Numbered.append {records : List (Nat × β)} (numbered : Numbered records) (value : β) :
    Numbered (records ++ [(records.length + 1, value)]) := by
  unfold Numbered at numbered ⊢
  rw [List.map_append, numbered, List.length_append, List.length_singleton, List.range'_concat]
  simp only [List.map_cons, List.map_nil, Nat.one_mul, Nat.add_comm 1]

theorem Numbered.last {records : List (Nat × β)} (numbered : Numbered records) {key : Nat}
    {value : β} (last : records.getLast? = some (key, value)) : key = records.length := by
  obtain ⟨older, same⟩ := List.getLast?_eq_some_iff.mp last
  subst same
  unfold Numbered at numbered
  rw [List.map_append, List.length_append, List.length_singleton, List.range'_concat,
    List.map_cons, List.map_nil] at numbered
  have top := (List.append_inj' numbered rfl).2
  simp only [Nat.one_mul, List.cons.injEq, and_true] at top
  simp only [List.length_append, List.length_singleton]
  omega

/-- Then none is ever hidden. -/
theorem Numbered.newest_succ {records : List (Nat × β)} (numbered : Numbered records)
    (index : Nat) : newest records (index + 1) = (records.map Prod.snd)[index]? := by
  induction records using List.reverseRecOn generalizing index with
  | nil => rfl
  | append_singleton older last ih =>
      obtain ⟨key, value⟩ := last
      unfold Numbered at numbered
      rw [List.map_append, List.length_append, List.length_singleton, List.range'_concat,
        List.map_cons, List.map_nil] at numbered
      have parts := List.append_inj numbered (by simp)
      have before : Numbered older := parts.1
      have number : key = older.length + 1 := by
        have same := parts.2
        simp only [Nat.one_mul, List.cons.injEq, and_true] at same
        omega
      rw [newest_append, List.map_append, number]
      by_cases top : index = older.length
      · subst top
        simp only [Function.update_self, List.map_cons, List.map_nil]
        rw [List.getElem?_append_right (by simp)]
        simp
      · rw [Function.update_of_ne (by omega), ih before]
        by_cases inside : index < older.length
        · rw [List.getElem?_append_left (by simpa using inside)]
        · rw [List.getElem?_eq_none (by simp; omega),
            List.getElem?_eq_none (by simp; omega)]

end Archive
