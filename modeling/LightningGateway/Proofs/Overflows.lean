import LightningGateway.Proofs.Amounts

/-!
# Texts that are refused as amounts

A text that is not read as an amount is refused as invalid, or because it stands for more
millisatoshis than a word holds. The two reasons are told apart by the notation of the text as long
as its numeral fits in a word. A numeral that does not is refused as invalid, although it is one.
-/

namespace LightningGateway.Amount

/-- Characters that give an amount as a number of units, however large it is. -/
inductive Gives (value factor : Nat) : List Char → Prop where
  | written {numeral unit : List Char} (decimal : Text.Decimal value numeral)
      (scale : Scale unit factor) : Gives value factor (numeral ++ unit)

theorem Written.gives {amount : Msat} {characters : List Char}
    (written : Written amount characters) :
    ∃ value factor, Gives value factor characters ∧ value < Bound.word64 := by
  obtain ⟨decimal, scale, small, -⟩ := written
  exact ⟨_, _, .written decimal scale, small⟩

theorem Gives.written_ofNat {value factor : Nat} {characters : List Char}
    (gives : Gives value factor characters) (small : value < Bound.word64)
    (fits : value * factor < Bound.word64) :
    Written (UInt64.ofNat (value * factor)) characters := by
  obtain ⟨decimal, scale⟩ := gives
  exact .written decimal scale small (UInt64.toNat_ofNat_of_lt' fits)

theorem ofSat_eq_error_iff {sat : UInt64} {error : AmountError} :
    ofSat sat = .error error ↔
      Bound.word64 ≤ sat.toNat * msatPerSat ∧
        error = .overflow (Text.numeral sat.toNat ++ "sat") := by
  unfold ofSat
  by_cases fits : sat.toNat * msatPerSat < Bound.word64
  · rw [if_pos fits]
    constructor
    · exact nofun
    · rintro ⟨large, -⟩
      exact absurd fits large.not_gt
  · rw [if_neg fits, Except.error.injEq, eq_comm]
    exact (and_iff_right (not_lt.mp fits)).symm

/-- A text is refused as invalid, or it is a number of satoshis whose product is too large. -/
theorem refused_cases {source : String} {error : AmountError}
    (refused : parse source = .error error) :
    error = .invalid (String.ofList (Text.trimmed source.toList)) ∨
      ∃ value, Gives value msatPerSat (Text.trimmed source.toList) ∧ value < Bound.word64 ∧
        Bound.word64 ≤ value * msatPerSat ∧
        error = .overflow (Text.numeral value ++ "sat") := by
  unfold parse at refused
  generalize Text.trimmed source.toList = characters at refused ⊢
  cases msat : Text.withoutEnding "msat".toList characters with
  | some digits =>
      simp only [msat] at refused
      exact .inl (number_eq_error_iff.mp refused).2
  | none =>
      cases sat : Text.withoutEnding "sat".toList characters with
      | none =>
          simp only [msat, sat] at refused
          exact .inl (number_eq_error_iff.mp refused).2
      | some digits =>
          simp only [msat, sat] at refused
          cases number : Text.word64? digits with
          | none => exact .inl (by simpa [number, eq_comm] using refused)
          | some sats =>
              simp only [number] at refused
              obtain ⟨large, worded⟩ := ofSat_eq_error_iff.mp refused
              have gives : Gives sats.toNat msatPerSat (digits ++ "sat".toList) :=
                .written (Text.word64?_eq_some_iff.mp number) .sat
              rw [← Text.withoutEnding_eq_some_iff.mp sat] at gives
              exact .inr ⟨sats.toNat, gives, sats.toNat_lt, large, worded⟩

/-- A number of satoshis that fits in a word overflows if its millisatoshis do not fit. -/
theorem parse_of_large {source : String} {value factor : Nat}
    (gives : Gives value factor (Text.trimmed source.toList)) (small : value < Bound.word64)
    (large : Bound.word64 ≤ value * factor) :
    parse source = .error (.overflow (Text.numeral value ++ "sat")) := by
  unfold parse
  generalize Text.trimmed source.toList = characters at gives ⊢
  obtain ⟨decimal, scale⟩ := gives
  cases scale with
  | plain => exact absurd small (by rwa [Nat.mul_one, ← not_lt] at large)
  | msat => exact absurd small (by rwa [Nat.mul_one, ← not_lt] at large)
  | sat =>
      have noMsat := withoutEnding_of_decimal decimal 'm' nofun rfl [] "sat".toList
      change Text.withoutEnding "msat".toList _ = none at noMsat
      have kept : (UInt64.ofNat value).toNat = value := UInt64.toNat_ofNat_of_lt' small
      have number := Text.word64?_eq_some_iff.mpr (kept.symm ▸ decimal)
      simp only [noMsat, Text.withoutEnding_append, number]
      exact ofSat_eq_error_iff.mpr (kept.symm ▸ ⟨large, rfl⟩)

theorem parse_eq_invalid_iff {source : String} {text : String} :
    parse source = .error (.invalid text) ↔
      text = String.ofList (Text.trimmed source.toList) ∧
        ∀ value factor, Gives value factor (Text.trimmed source.toList) →
          Bound.word64 ≤ value := by
  constructor
  · intro refused
    rcases refused_cases refused with same | ⟨value, -, -, -, overflow⟩
    · refine ⟨AmountError.invalid.inj same, fun value factor gives => ?_⟩
      by_contra small
      rw [not_le] at small
      by_cases fits : value * factor < Bound.word64
      · rw [parse_of_written (gives.written_ofNat small fits)] at refused
        cases refused
      · rw [parse_of_large gives small (not_lt.mp fits)] at refused
        cases refused
    · cases overflow
  · rintro ⟨rfl, unwritten⟩
    cases read : parse source with
    | ok amount =>
        obtain ⟨value, factor, gives, small⟩ := (written_of_parse read).gives
        exact absurd small (unwritten value factor gives).not_gt
    | error error =>
        rcases refused_cases read with rfl | ⟨value, gives, small, -⟩
        · rfl
        · exact absurd small (unwritten value _ gives).not_gt

theorem parse_eq_overflow_iff {source : String} {text : String} :
    parse source = .error (.overflow text) ↔
      ∃ value factor, Gives value factor (Text.trimmed source.toList) ∧ value < Bound.word64 ∧
        Bound.word64 ≤ value * factor ∧ text = Text.numeral value ++ "sat" := by
  constructor
  · intro refused
    rcases refused_cases refused with invalid | ⟨value, gives, small, large, same⟩
    · cases invalid
    · exact ⟨value, msatPerSat, gives, small, large, AmountError.overflow.inj same⟩
  · rintro ⟨value, factor, gives, small, large, rfl⟩
    exact parse_of_large gives small large

/-- A text is refused as invalid exactly if it is no numeral with or without a unit, and as too
large exactly if it is one, but its millisatoshis do not fit in a word. -/
structure ToldApart (source : String) : Prop where
  invalid : (∃ text, parse source = .error (.invalid text)) ↔
    ¬∃ value factor, Gives value factor (Text.trimmed source.toList)
  overflow : (∃ text, parse source = .error (.overflow text)) ↔
    ∃ value factor, Gives value factor (Text.trimmed source.toList) ∧
      Bound.word64 ≤ value * factor

theorem toldApart_of_small {source : String}
    (small : ∀ value factor, Gives value factor (Text.trimmed source.toList) →
      value < Bound.word64) : ToldApart source where
  invalid := by
    constructor
    · rintro ⟨text, refused⟩ ⟨value, factor, gives⟩
      have large := (parse_eq_invalid_iff.mp refused).2 value factor gives
      exact absurd (small value factor gives) large.not_gt
    · intro unwritten
      exact ⟨_, parse_eq_invalid_iff.mpr ⟨rfl, fun value factor gives =>
        absurd ⟨value, factor, gives⟩ unwritten⟩⟩
  overflow := by
    constructor
    · rintro ⟨text, refused⟩
      obtain ⟨value, factor, gives, -, large, -⟩ := parse_eq_overflow_iff.mp refused
      exact ⟨value, factor, gives, large⟩
    · rintro ⟨value, factor, gives, large⟩
      exact ⟨_, parse_of_large gives (small value factor gives) large⟩

/-- The numeral ends where the unit begins, so the characters give one number only. -/
theorem Gives.naturalValue? {value factor : Nat} {characters : List Char}
    (gives : Gives value factor characters) :
    Text.naturalValue? (characters.takeWhile fun character =>
      character == '+' || character.isDigit) = some value := by
  obtain @⟨numeral, unit, decimal, scale⟩ := gives
  rw [List.takeWhile_append_of_pos]
  · have ended : unit.takeWhile (fun character =>
        character == '+' || character.isDigit) = [] := by
      cases scale <;> rfl
    rw [ended, List.append_nil]
    exact Text.naturalValue?_eq_some_iff.mpr decimal
  · intro character member
    simpa using decimal.sign_or_digit member

theorem Gives.value_unique {value other factor otherFactor : Nat} {characters : List Char}
    (gives : Gives value factor characters) (also : Gives other otherFactor characters) :
    value = other :=
  Option.some.inj (gives.naturalValue?.symm.trans also.naturalValue?)

theorem ToldApart.small {source : String} (toldApart : ToldApart source) {value factor : Nat}
    (gives : Gives value factor (Text.trimmed source.toList)) : value < Bound.word64 := by
  by_contra large
  have refused : parse source = .error (.invalid _) :=
    parse_eq_invalid_iff.mpr ⟨rfl, fun other otherFactor also =>
      gives.value_unique also ▸ not_lt.mp large⟩
  exact toldApart.invalid.mp ⟨_, refused⟩ ⟨value, factor, gives⟩

/-- A text that is not read is refused as invalid if it is no numeral that fits in a word, with or
without a unit, and as too large if it is one, but its millisatoshis do not fit. So the notation
tells the two apart exactly for texts whose numeral fits in a word. -/
theorem errors_told_apart_iff_numeral_fits (source : String) :
    (∀ text, parse source = .error (.invalid text) ↔
      text = String.ofList (Text.trimmed source.toList) ∧
        ∀ value factor, Gives value factor (Text.trimmed source.toList) →
          Bound.word64 ≤ value) ∧
    (∀ text, parse source = .error (.overflow text) ↔
      ∃ value factor, Gives value factor (Text.trimmed source.toList) ∧ value < Bound.word64 ∧
        Bound.word64 ≤ value * factor ∧ text = Text.numeral value ++ "sat") ∧
    (∀ amount, parse source ≠ .error (.fractionalSat amount)) ∧
    (ToldApart source ↔
      ∀ value factor, Gives value factor (Text.trimmed source.toList) → value < Bound.word64) := by
  refine ⟨fun text => parse_eq_invalid_iff, fun text => parse_eq_overflow_iff, ?_,
    fun toldApart value factor => toldApart.small, toldApart_of_small⟩
  intro amount refused
  rcases refused_cases refused with invalid | ⟨value, -, -, -, overflow⟩
  · cases invalid
  · cases overflow

/-- The least number that does not fit in a word is a numeral, but is refused as invalid. -/
theorem large_numeral_not_told_apart : ¬ToldApart "18446744073709551616" := by
  intro toldApart
  have digits : ∀ digit ∈ "18446744073709551616".toList, digit.isDigit := List.all_eq_true.mp rfl
  have decimal : Text.Decimal Bound.word64 ([] ++ "18446744073709551616".toList) :=
    .written (.inl rfl) nofun digits rfl
  have gives : Gives Bound.word64 1 (Text.trimmed "18446744073709551616".toList) :=
    .written decimal .plain
  exact absurd (toldApart.small gives) (lt_irrefl _)

end LightningGateway.Amount
