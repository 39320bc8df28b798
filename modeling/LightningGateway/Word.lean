import LightningGateway.Bound

/-!
# Words

Arithmetic on words of 64 bits that stays within their range.
-/

namespace LightningGateway.Word

def largest : UInt64 := 18446744073709551615

/-- A natural number as a word; what is too large becomes the largest word. -/
def clamp (value : Nat) : UInt64 :=
  if value < Bound.word64 then UInt64.ofNat value else largest

/-- The difference of two words, zero when the second is larger. -/
def minus (left right : UInt64) : UInt64 := if left ≤ right then 0 else left - right

theorem toNat_minus (left right : UInt64) :
    (minus left right).toNat = left.toNat - right.toNat := by
  unfold minus
  split
  next fewer => exact (Nat.sub_eq_zero_of_le fewer).symm
  next more =>
    have less : right ≤ left := by
      rw [UInt64.le_iff_toNat_le] at more ⊢
      omega
    exact UInt64.toNat_sub_of_le left right less

/-- The sum of two words, the largest word when it does not fit. -/
def plus (left right : UInt64) : UInt64 := clamp (left.toNat + right.toNat)

theorem toNat_plus {left right : UInt64} (fits : left.toNat + right.toNat < Bound.word64) :
    (plus left right).toNat = left.toNat + right.toNat := by
  rw [plus, clamp, if_pos fits]
  exact UInt64.toNat_ofNat_of_lt' fits

/-- The product of two words, the largest word when it does not fit. -/
def times (left right : UInt64) : UInt64 := clamp (left.toNat * right.toNat)

end LightningGateway.Word
