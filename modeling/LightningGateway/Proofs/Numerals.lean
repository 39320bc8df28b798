import LightningGateway.Text.Numeral

/-!
# Decimal numerals

The digits of a natural number: what characters they are, what they begin with, and that they are
read as the number.
-/

namespace LightningGateway

namespace Text

theorem between_of_isDigit {character : Char} (digit : character.isDigit) :
    48 ≤ character.toNat ∧ character.toNat ≤ 57 := by
  simp only [Char.isDigit, Bool.and_eq_true, decide_eq_true_eq, ge_iff_le,
    UInt32.le_iff_toNat_le] at digit
  exact digit

theorem digitValue?_of_isDigit {character : Char} (digit : character.isDigit) :
    digitValue? character = some (character.toNat - 48) := by
  rw [digitValue?, if_pos]
  simpa [Char.isDigit, Char.le_def, UInt32.le_iff_toNat_le] using digit

theorem isDigit_of_char {character : Char} (digit : character.isDigit) :
    isDigit character = true := by
  rw [isDigit, digitValue?_of_isDigit digit, Option.isSome_some]

theorem isDigit_of_mem_digits {value : Nat} {character : Char} (member : character ∈ digits value) :
    character.isDigit :=
  Nat.isDigit_of_mem_toDigits (by decide) (by decide) member

theorem exists_digits_cons (value : Nat) :
    ∃ head tail, digits value = head :: tail ∧ head.isDigit := by
  cases written : digits value with
  | nil => exact absurd written Nat.toDigits_ne_nil
  | cons head tail => exact ⟨head, tail, rfl, isDigit_of_mem_digits (written ▸ List.mem_cons_self)⟩

/-- Only the numeral of zero begins with a zero. -/
theorem digits_eq_zero_or_cons (value : Nat) :
    digits value = ['0'] ∨ ∃ head rest, digits value = head :: rest ∧ head ≠ '0' := by
  induction value using Nat.strongRecOn with
  | _ value ih =>
      by_cases single : value < 10
      · have only : digits value = [value.digitChar] := Nat.toDigits_of_lt_base single
        by_cases zero : value = 0
        · exact .inl (by rw [only, zero]; rfl)
        · exact .inr ⟨_, [], only, by simpa using zero⟩
      · have split : digits value = digits (value / 10) ++ [(value % 10).digitChar] :=
          Nat.toDigits_of_base_le (by decide) (by omega)
        rcases ih (value / 10) (by omega) with zero | ⟨head, rest, begins, nonzero⟩
        · have small : value / 10 = 0 := by
            have read := Nat.ofDigitChars_ten_toDigits (n := value / 10)
            rw [show Nat.toDigits 10 (value / 10) = ['0'] from zero] at read
            exact read.symm
          omega
        · exact .inr ⟨head, rest ++ [(value % 10).digitChar], by rw [split, begins]; rfl, nonzero⟩

theorem continueDigits_eq {characters : List Char}
    (digits : ∀ character ∈ characters, character.isDigit) (start : Nat) :
    continueDigits start characters = some (Nat.ofDigitChars 10 characters start) := by
  induction characters generalizing start with
  | nil => rfl
  | cons head rest ih =>
      have value := digitValue?_of_isDigit (digits head List.mem_cons_self)
      have later := ih (fun character member => digits character (.tail _ member))
        (start * 10 + (head.toNat - 48))
      rw [continueDigits, value, Nat.ofDigitChars_cons, Nat.mul_comm 10]
      exact later

/-- A numeral is read as its value. -/
theorem digitsValue?_digits (value : Nat) : digitsValue? (digits value) = some value := by
  obtain ⟨head, tail, written, -⟩ := exists_digits_cons value
  have read := continueDigits_eq (fun _ => @isDigit_of_mem_digits value _) 0
  have whole : Nat.ofDigitChars 10 (digits value) 0 = value := Nat.ofDigitChars_ten_toDigits
  rw [whole] at read
  rw [written] at read ⊢
  exact read

end Text

end LightningGateway
