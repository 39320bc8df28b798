import LightningGateway.Proofs.Spellings

/-!
# Texts that are amounts

A text is read as an amount exactly if it is a decimal numeral, which may have a plus sign and
leading zeros, directly followed by a unit or by none, with blanks around the whole or not. The
number that the digits give and the amount that they stand for both have to fit in a word.
-/

namespace LightningGateway

/-! ### Decimal notation -/

namespace Text

/-- Characters that write a number: a plus sign or none, and digits. -/
inductive Decimal (value : Nat) : List Char → Prop where
  | written {sign digits : List Char} (signed : sign = [] ∨ sign = ['+']) (filled : digits ≠ [])
      (numeric : ∀ digit ∈ digits, digit.isDigit) (equals : Nat.ofDigitChars 10 digits 0 = value) :
      Decimal value (sign ++ digits)

theorem isDigit_of_digitValue? {character : Char} {value : Nat}
    (read : digitValue? character = some value) : character.isDigit := by
  unfold digitValue? at read
  split at read
  · next between => simpa [Char.isDigit, Char.le_def, UInt32.le_iff_toNat_le] using between
  · cases read

theorem isDigit_of_continueDigits {characters : List Char} {start value : Nat}
    (read : continueDigits start characters = some value) :
    ∀ character ∈ characters, character.isDigit := by
  induction characters generalizing start with
  | nil =>
      intro character member
      cases member
  | cons head rest ih =>
      rw [continueDigits] at read
      cases first : digitValue? head with
      | none =>
          rw [first] at read
          cases read
      | some digit =>
          rw [first] at read
          exact List.forall_mem_cons.mpr ⟨isDigit_of_digitValue? first, ih read⟩

theorem digitsValue?_eq_some_iff {characters : List Char} {value : Nat} :
    digitsValue? characters = some value ↔
      characters ≠ [] ∧ (∀ digit ∈ characters, digit.isDigit) ∧
        Nat.ofDigitChars 10 characters 0 = value := by
  cases characters with
  | nil => simp [digitsValue?]
  | cons head rest =>
      constructor
      · intro read
        have continued : continueDigits 0 (head :: rest) = some value := read
        have numeric := isDigit_of_continueDigits continued
        have whole := continueDigits_eq numeric 0
        exact ⟨nofun, numeric, Option.some.inj (whole.symm.trans continued)⟩
      · rintro ⟨-, numeric, rfl⟩
        exact continueDigits_eq numeric 0

theorem naturalValue?_of_numeric {digits : List Char}
    (numeric : ∀ digit ∈ digits, digit.isDigit) : naturalValue? digits = digitsValue? digits := by
  unfold naturalValue?
  split
  · exact absurd (numeric '+' List.mem_cons_self) (by decide)
  · rfl

theorem naturalValue?_eq_some_iff {characters : List Char} {value : Nat} :
    naturalValue? characters = some value ↔ Decimal value characters := by
  constructor
  · intro read
    unfold naturalValue? at read
    split at read
    · next digits =>
        obtain ⟨filled, numeric, equals⟩ := digitsValue?_eq_some_iff.mp read
        have signed : Decimal value (['+'] ++ digits) :=
          .written (.inr rfl) filled numeric equals
        exact signed
    · obtain ⟨filled, numeric, equals⟩ := digitsValue?_eq_some_iff.mp read
      have unsigned : Decimal value ([] ++ characters) :=
        .written (.inl rfl) filled numeric equals
      exact unsigned
  · rintro ⟨rfl | rfl, filled, numeric, equals⟩
    · rw [List.nil_append, naturalValue?_of_numeric numeric]
      exact digitsValue?_eq_some_iff.mpr ⟨filled, numeric, equals⟩
    · exact digitsValue?_eq_some_iff.mpr ⟨filled, numeric, equals⟩

theorem word64?_eq_some_iff {characters : List Char} {word : UInt64} :
    word64? characters = some word ↔ Decimal word.toNat characters := by
  rw [← naturalValue?_eq_some_iff, word64?, boundedValue?]
  cases naturalValue? characters with
  | none => simp
  | some value =>
      by_cases small : value < Bound.word64
      · simp only [if_pos small, Option.map_some, Option.some.injEq]
        constructor
        · rintro rfl
          exact (UInt64.toNat_ofNat_of_lt' small).symm
        · rintro rfl
          exact UInt64.ofNat_toNat
      · simp only [if_neg small, Option.map_none, Option.some.injEq]
        constructor
        · intro found
          cases found
        · rintro rfl
          exact absurd word.toNat_lt small

theorem Decimal.sign_or_digit {value : Nat} {characters : List Char}
    (decimal : Decimal value characters) {character : Char} (member : character ∈ characters) :
    character = '+' ∨ character.isDigit := by
  obtain ⟨rfl | rfl, -, numeric, -⟩ := decimal
  · exact .inr (numeric character member)
  · exact (List.mem_cons.mp member).imp_right (numeric character)

/-! ### Blanks -/

/-- Only blanks are trimmed. -/
theorem exists_blanks_around_trimmed (characters : List Char) :
    ∃ before after, characters = before ++ trimmed characters ++ after ∧
      (∀ blank ∈ before, isBlank blank) ∧ ∀ blank ∈ after, isBlank blank := by
  have start := List.takeWhile_append_dropWhile (p := isBlank) (l := characters)
  have finish := congrArg List.reverse
    (List.takeWhile_append_dropWhile (p := isBlank) (l := (characters.dropWhile isBlank).reverse))
  rw [List.reverse_append, List.reverse_reverse] at finish
  refine ⟨characters.takeWhile isBlank,
    ((characters.dropWhile isBlank).reverse.takeWhile isBlank).reverse, ?_, ?_, ?_⟩
  · rw [trimmed, trimEnd, List.append_assoc, finish, start]
  · intro blank member
    exact List.mem_takeWhile_imp member
  · intro blank member
    exact List.mem_takeWhile_imp (List.mem_reverse.mp member)

theorem dropWhile_blanks {blanks core : List Char} (blank : ∀ character ∈ blanks, isBlank character)
    (solid : ∀ character ∈ core, isBlank character = false) (filled : core ≠ [])
    (rest : List Char) :
    (blanks ++ (core ++ rest)).dropWhile isBlank = core ++ rest := by
  rw [List.dropWhile_append_of_pos blank]
  cases core with
  | nil => exact absurd rfl filled
  | cons head tail => exact List.dropWhile_cons_of_neg (by simp [solid head])

/-- All blanks around what has none are trimmed. -/
theorem trimmed_between_blanks {before core after : List Char}
    (leading : ∀ blank ∈ before, isBlank blank)
    (solid : ∀ character ∈ core, isBlank character = false) (filled : core ≠ [])
    (trailing : ∀ blank ∈ after, isBlank blank) : trimmed (before ++ core ++ after) = core := by
  have backwards := @dropWhile_blanks after.reverse core.reverse (by simpa using trailing)
    (by simpa using solid) (by simpa using filled) []
  rw [List.append_nil] at backwards
  rw [trimmed, trimEnd, List.append_assoc, dropWhile_blanks leading solid filled,
    List.reverse_append, backwards, List.reverse_reverse]

/-! ### Endings -/

theorem withoutEnding_eq_some_iff {ending characters before : List Char} :
    withoutEnding ending characters = some before ↔ characters = before ++ ending := by
  constructor
  · intro cut
    unfold withoutEnding at cut
    split at cut
    · next ends =>
        obtain ⟨rest, rfl⟩ := List.isSuffixOf_iff_suffix.mp ends
        simp at cut
        rw [cut]
    · cases cut
  · rintro rfl
    exact withoutEnding_append before ending

end Text

namespace Amount

/-- The units of amounts, and the number of millisatoshis in each. -/
inductive Scale : List Char → Nat → Prop where
  | plain : Scale [] 1
  | msat : Scale "msat".toList 1
  | sat : Scale "sat".toList msatPerSat

/-- Characters that write an amount: a numeral and its unit. The number of the numeral fits in a
word. -/
inductive Written (amount : Msat) : List Char → Prop where
  | written {numeral unit : List Char} {value factor : Nat} (decimal : Text.Decimal value numeral)
      (scale : Scale unit factor) (small : value < Bound.word64)
      (total : amount.toNat = value * factor) : Written amount (numeral ++ unit)

theorem Written.ne_nil {amount : Msat} {characters : List Char}
    (written : Written amount characters) : characters ≠ [] := by
  obtain ⟨⟨-, filled, -, -⟩, -, -, -⟩ := written
  simp [filled]

theorem Scale.mem_msat {unit : List Char} {factor : Nat} (scale : Scale unit factor)
    {letter : Char} (member : letter ∈ unit) : letter ∈ "msat".toList := by
  cases scale with
  | plain => cases member
  | msat => exact member
  | sat => exact .tail _ member

theorem Written.solid {amount : Msat} {characters : List Char}
    (written : Written amount characters) :
    ∀ character ∈ characters, Text.isBlank character = false := by
  obtain ⟨decimal, scale, -, -⟩ := written
  intro character member
  rcases List.mem_append.mp member with inNumeral | inUnit
  · rcases decimal.sign_or_digit inNumeral with rfl | digit
    · rfl
    · exact Text.isBlank_of_isDigit digit
  · have letters : "msat".toList.all (!Text.isBlank ·) = true := rfl
    simpa using List.all_eq_true.mp letters character (scale.mem_msat inUnit)

/-- A numeral ends with no letter. -/
theorem withoutEnding_of_decimal {value : Nat} {numeral : List Char}
    (decimal : Text.Decimal value numeral) (letter : Char) (unsigned : letter ≠ '+')
    (notDigit : letter.isDigit = false) (start rest : List Char) :
    Text.withoutEnding (start ++ letter :: rest) (numeral ++ rest) = none := by
  have absent : letter ∉ numeral := by
    intro member
    rcases decimal.sign_or_digit member with sign | digit
    · exact unsigned sign
    · rw [notDigit] at digit
      cases digit
  apply Text.withoutEnding_of_not_suffix
  intro ends
  exact Text.not_suffix_append absent rest ((List.suffix_append start _).trans ends)

theorem ofSat_eq_ok_iff {sat : UInt64} {amount : Msat} :
    ofSat sat = .ok amount ↔ amount.toNat = sat.toNat * msatPerSat := by
  unfold ofSat
  by_cases fits : sat.toNat * msatPerSat < Bound.word64
  · rw [if_pos fits, Except.ok.injEq]
    constructor
    · rintro rfl
      exact UInt64.toNat_ofNat_of_lt' fits
    · intro total
      rw [← total, UInt64.ofNat_toNat]
  · rw [if_neg fits]
    constructor
    · exact nofun
    · intro total
      exact absurd (total ▸ amount.toNat_lt) fits

theorem toNat_of_toWholeSat {amount : Msat} {sat : UInt64} (whole : toWholeSat amount = .ok sat) :
    amount.toNat = sat.toNat * msatPerSat := by
  unfold toWholeSat at whole
  split at whole
  · next even =>
      cases whole
      have fits : amount.toNat / msatPerSat < Bound.word64 :=
        (Nat.div_le_self _ _).trans_lt amount.toNat_lt
      rw [toSat, UInt64.toNat_ofNat_of_lt' fits, Nat.div_mul_cancel (Nat.dvd_of_mod_eq_zero even)]
  · cases whole

theorem number_eq_ok_iff {digits : List Char} {number : UInt64} {error : AmountError} :
    (match Text.word64? digits with
      | some value => .ok value
      | none => .error error) = Except.ok number ↔
      Text.Decimal number.toNat digits := by
  rw [← Text.word64?_eq_some_iff]
  cases Text.word64? digits <;> simp

theorem number_eq_error_iff {digits : List Char} {error other : AmountError} :
    (match Text.word64? digits with
      | some value => .ok value
      | none => .error error) = Except.error other ↔
      Text.word64? digits = none ∧ other = error := by
  cases Text.word64? digits <;> simp [eq_comm]

theorem written_of_parse {source : String} {amount : Msat} (read : parse source = .ok amount) :
    Written amount (Text.trimmed source.toList) := by
  unfold parse at read
  generalize Text.trimmed source.toList = characters at read ⊢
  cases msat : Text.withoutEnding "msat".toList characters with
  | some digits =>
      simp only [msat] at read
      rw [Text.withoutEnding_eq_some_iff.mp msat]
      exact .written (number_eq_ok_iff.mp read) .msat amount.toNat_lt (Nat.mul_one _).symm
  | none =>
      cases sat : Text.withoutEnding "sat".toList characters with
      | some digits =>
          simp only [msat, sat] at read
          rw [Text.withoutEnding_eq_some_iff.mp sat]
          cases number : Text.word64? digits with
          | none =>
              rw [number] at read
              cases read
          | some sats =>
              rw [number] at read
              exact .written (Text.word64?_eq_some_iff.mp number) .sat sats.toNat_lt
                (ofSat_eq_ok_iff.mp read)
      | none =>
          simp only [msat, sat] at read
          rw [← List.append_nil characters]
          exact .written (number_eq_ok_iff.mp read) .plain amount.toNat_lt (Nat.mul_one _).symm

theorem parse_of_written {source : String} {amount : Msat}
    (written : Written amount (Text.trimmed source.toList)) : parse source = .ok amount := by
  unfold parse
  generalize Text.trimmed source.toList = characters at written ⊢
  obtain ⟨decimal, scale, small, total⟩ := written
  cases scale with
  | plain =>
      rename_i numeral value
      have noMsat := withoutEnding_of_decimal decimal 't' nofun rfl "msa".toList []
      have noSat := withoutEnding_of_decimal decimal 't' nofun rfl "sa".toList []
      change Text.withoutEnding "msat".toList _ = none at noMsat
      change Text.withoutEnding "sat".toList _ = none at noSat
      simp only [noMsat, noSat]
      apply number_eq_ok_iff.mpr
      rwa [List.append_nil, total, Nat.mul_one]
  | msat =>
      simp only [Text.withoutEnding_append]
      apply number_eq_ok_iff.mpr
      rwa [total, Nat.mul_one]
  | sat =>
      rename_i numeral value
      have noMsat := withoutEnding_of_decimal decimal 'm' nofun rfl [] "sat".toList
      change Text.withoutEnding "msat".toList _ = none at noMsat
      have kept : (UInt64.ofNat value).toNat = value := UInt64.toNat_ofNat_of_lt' small
      have number := Text.word64?_eq_some_iff.mpr (kept.symm ▸ decimal)
      simp only [noMsat, Text.withoutEnding_append, number]
      exact ofSat_eq_ok_iff.mpr (kept.symm ▸ total)

/-- A text is read as an amount exactly if it is a numeral with or without a unit, between blanks.
In each notation in which an amount is printed it is read back, in satoshis if it is a whole number
of them. -/
theorem amount_read_iff_written (source : String) (amount : Msat) :
    (parse source = .ok amount ↔
      ∃ before characters after, source.toList = before ++ characters ++ after ∧
        (∀ blank ∈ before, Text.isBlank blank) ∧ (∀ blank ∈ after, Text.isBlank blank) ∧
        Written amount characters) ∧
    parse (Text.numeral amount.toNat) = .ok amount ∧
    parse (Text.numeral amount.toNat ++ "msat") = .ok amount ∧
    ∀ sat, toWholeSat amount = .ok sat →
      parse (Text.numeral sat.toNat ++ "sat") = .ok amount := by
  refine ⟨⟨fun read => ?_, ?_⟩, parse_of_spelling .plain, parse_of_spelling .msat, ?_⟩
  · obtain ⟨before, after, parts, leading, trailing⟩ :=
      Text.exists_blanks_around_trimmed source.toList
    exact ⟨before, _, after, parts, leading, trailing, written_of_parse read⟩
  · rintro ⟨before, characters, after, parts, leading, trailing, written⟩
    apply parse_of_written
    rwa [parts, Text.trimmed_between_blanks leading written.solid written.ne_nil trailing]
  · intro sat whole
    exact parse_of_spelling (.sat (toNat_of_toWholeSat whole))

theorem amount_read_between_blanks :
    Written 7000 "+007sat".toList ∧ parse "\u2003+007sat\n" = .ok 7000 ∧
      toWholeSat 7000 = .ok 7 ∧ parse "7sat" = .ok 7000 := by
  have decimal : Text.Decimal 7 ("+".toList ++ "007".toList) :=
    .written (.inr rfl) nofun (List.all_eq_true.mp rfl) rfl
  have written : Written 7000 "+007sat".toList := .written decimal .sat (by decide) rfl
  have whole : toWholeSat 7000 = .ok 7 := rfl
  obtain ⟨read, -, -, printed⟩ := amount_read_iff_written "\u2003+007sat\n" 7000
  have leading : ∀ blank ∈ ['\u2003'], Text.isBlank blank := List.all_eq_true.mp rfl
  have trailing : ∀ blank ∈ ['\n'], Text.isBlank blank := List.all_eq_true.mp rfl
  exact ⟨written, read.mpr ⟨_, _, _, rfl, leading, trailing, written⟩, whole, printed 7 whole⟩

end Amount

end LightningGateway
