import Mathlib.Algebra.BigOperators.Group.List.Basic
import Mathlib.Algebra.GroupWithZero.Nat
import Mathlib.Algebra.Order.BigOperators.Group.List
import Mathlib.Algebra.Order.Group.Nat
import LightningGateway.Amount

/-!
# Sums of amounts

The sum of the amounts of some values as a number without bound. As long as it fits into an
amount, it is what adding the amounts up gives.
-/

namespace LightningGateway

namespace Word

theorem toNat_foldl_add (values : List UInt64) (start : UInt64)
    (fits : start.toNat + (values.map UInt64.toNat).sum < Bound.word64) :
    (values.foldl (· + ·) start).toNat = start.toNat + (values.map UInt64.toNat).sum := by
  induction values generalizing start with
  | nil => rfl
  | cons value rest ih =>
      rw [List.map_cons, List.sum_cons] at fits
      have added : (start + value).toNat = start.toNat + value.toNat := by
        have bounded : start.toNat + value.toNat < Bound.word64 := by omega
        rw [UInt64.toNat_add, Nat.mod_eq_of_lt bounded]
      rw [List.foldl_cons, ih (start + value) (by omega), added, List.map_cons, List.sum_cons,
        Nat.add_assoc]

/-- Words whose sum fits are summed exactly. -/
theorem toNat_sum {values : List UInt64} (fits : (values.map UInt64.toNat).sum < Bound.word64) :
    (values.foldl (· + ·) 0).toNat = (values.map UInt64.toNat).sum := by
  have summed := toNat_foldl_add values 0 (by rwa [UInt64.toNat_zero, Nat.zero_add])
  rwa [UInt64.toNat_zero, Nat.zero_add] at summed

end Word

namespace Amount

variable {α β : Type}

/-- The sum of the amounts of some values. -/
def sum (amount : α → Msat) (values : List α) : Nat :=
  (values.map fun value => (amount value).toNat).sum

theorem sum_append (amount : α → Msat) (first second : List α) :
    sum amount (first ++ second) = sum amount first + sum amount second := by
  rw [sum, List.map_append, List.sum_append]
  rfl

theorem sum_cons (amount : α → Msat) (value : α) (rest : List α) :
    sum amount (value :: rest) = (amount value).toNat + sum amount rest := by
  rw [sum, List.map_cons, List.sum_cons]
  rfl

theorem sum_sublist (amount : α → Msat) {chosen values : List α}
    (part : chosen.Sublist values) : sum amount chosen ≤ sum amount values :=
  (part.map _).sum_le_sum fun _ _ => Nat.zero_le _

/-- A sum of words that fits is exact. -/
theorem toNat_foldl_map (amount : α → Msat) {values : List α}
    (fits : sum amount values < Bound.word64) :
    ((values.map amount).foldl (· + ·) 0).toNat = sum amount values := by
  have summed : ((values.map amount).map UInt64.toNat).sum = sum amount values := by
    rw [List.map_map]
    rfl
  rw [← summed] at fits ⊢
  exact Word.toNat_sum fits

end Amount

end LightningGateway
