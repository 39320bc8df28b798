import Mathlib.Data.List.DropRight
import LightningGateway.Json.Reader

/-!
# Scanning numbers and strings

What is found at the front of a text does not depend on what follows it, unless a number goes on
there.
-/

namespace LightningGateway.Document

/-! ### Parts of numbers -/

/-- A number ends before these characters. -/
def Stops : List Char → Prop
  | [] => True
  | head :: _ => Text.isDigit head = false ∧ head ≠ '.' ∧ head ≠ 'e' ∧ head ≠ 'E'

/-- A part of a number is read in the same way if more characters follow it. -/
def Local {α : Type} (read : List Char → Option (α × List Char)) : Prop :=
  ∀ characters value rest, read characters = some (value, rest) →
    rest.length ≤ characters.length ∧
      ∀ more, (rest = [] → Stops more) → read (characters ++ more) = some (value, rest ++ more)

theorem spanDigits_append_of_stops (characters more : List Char)
    (stops : (spanDigits characters).2 = [] → Stops more) :
    spanDigits (characters ++ more) =
      ((spanDigits characters).1, (spanDigits characters).2 ++ more) := by
  induction characters with
  | nil =>
      cases more with
      | nil => rfl
      | cons head tail =>
          have first := (stops rfl).1
          simp [spanDigits, first]
  | cons head tail ih =>
      cases digit : Text.isDigit head with
      | false => simp [spanDigits, digit]
      | true =>
          simp only [spanDigits, List.cons_append, List.takeWhile_cons_of_pos digit,
            List.dropWhile_cons_of_pos digit] at ih stops ⊢
          have later := ih stops
          simp only [Prod.mk.injEq] at later
          rw [later.1, later.2]

theorem length_spanDigits (characters : List Char) :
    (spanDigits characters).2.length ≤ characters.length :=
  (List.dropWhile_suffix _).length_le

/-- The digits before the point have no zero too many in front. -/
theorem readWhole_eq_some_iff {characters whole rest : List Char} :
    readWhole characters = some (whole, rest) ↔
      spanDigits characters = (whole, rest) ∧ whole ≠ [] ∧
        (whole.head? = some '0' → whole = ['0']) := by
  unfold readWhole
  rcases spanDigits characters with ⟨digits, left⟩
  cases digits with
  | nil => grind
  | cons head tail =>
      by_cases zero : head = '0'
      · subst zero
        cases tail <;> grind
      · grind

theorem local_readWhole : Local readWhole := by
  intro characters whole rest found
  rw [readWhole_eq_some_iff] at found
  obtain ⟨span, whole⟩ := found
  have shorter := length_spanDigits characters
  have longer := spanDigits_append_of_stops characters
  rw [span] at shorter longer
  refine ⟨shorter, fun more stops => ?_⟩
  rw [readWhole_eq_some_iff]
  exact ⟨longer more stops, whole⟩

/-- Reads some digits. -/
def readDigits (characters : List Char) : Option (List Char × List Char) :=
  match spanDigits characters with
  | ([], _) => none
  | (digits, rest) => some (digits, rest)

theorem local_readDigits : Local readDigits := by
  intro characters digits rest found
  have shorter := length_spanDigits characters
  have longer := spanDigits_append_of_stops characters
  unfold readDigits at found ⊢
  rcases span : spanDigits characters with ⟨_ | ⟨head, tail⟩, left⟩
  · rw [span] at found
    cases found
  · rw [span] at found shorter longer
    cases found
    refine ⟨shorter, fun more stops => ?_⟩
    rw [longer more stops]

theorem Local.map {α β : Type} {read : List Char → Option (α × List Char)} (near : Local read)
    (change : α → β) :
    Local fun characters => (read characters).map fun (value, rest) => (change value, rest) := by
  intro characters value rest found
  obtain ⟨⟨first, left⟩, read, changed⟩ := Option.map_eq_some_iff.mp found
  cases changed
  obtain ⟨shorter, longer⟩ := near _ _ _ read
  refine ⟨shorter, fun more stops => ?_⟩
  exact Option.map_eq_some_iff.mpr ⟨(first, rest ++ more), longer more stops, rfl⟩

theorem readFraction_point (characters : List Char) :
    readFraction ('.' :: characters) =
      (readDigits characters).map fun (digits, rest) => (some digits, rest) := by
  simp only [readFraction, readDigits]
  rcases spanDigits characters with ⟨_ | ⟨head, tail⟩, left⟩ <;> rfl

theorem readExponentDigits_eq (negative : Bool) (characters : List Char) :
    readExponentDigits negative characters =
      (readDigits characters).map fun (digits, rest) => (some (negative, digits), rest) := by
  simp only [readExponentDigits, readDigits]
  rcases spanDigits characters with ⟨_ | ⟨head, tail⟩, left⟩ <;> rfl

theorem local_readExponentDigits (negative : Bool) : Local (readExponentDigits negative) := by
  rw [funext (readExponentDigits_eq negative)]
  exact local_readDigits.map fun digits => some (negative, digits)

theorem Local.cons {α : Type} {read inner : List Char → Option (α × List Char)}
    (near : Local inner) {head : Char} {characters : List Char} {value : α} {rest : List Char}
    (passes : ∀ more, read (head :: more) = inner more)
    (found : read (head :: characters) = some (value, rest)) :
    rest.length ≤ (head :: characters).length ∧
      ∀ more, (rest = [] → Stops more) →
        read (head :: characters ++ more) = some (value, rest ++ more) := by
  rw [passes] at found
  obtain ⟨shorter, longer⟩ := near _ _ _ found
  refine ⟨Nat.le_succ_of_le shorter, fun more stops => ?_⟩
  rw [List.cons_append, passes, longer more stops]

theorem local_readFraction : Local readFraction := by
  intro characters fraction rest found
  cases characters with
  | nil =>
      cases found
      refine ⟨le_rfl, fun more stops => ?_⟩
      cases more with
      | nil => rfl
      | cons head tail =>
          have point := (stops rfl).2.1
          simp [readFraction, point]
  | cons head tail =>
      by_cases point : head = '.'
      · subst point
        exact (local_readDigits.map some).cons readFraction_point found
      · have passed (more : List Char) :
            readFraction (head :: more) = some (none, head :: more) := by
          simp [readFraction, point]
        rw [passed] at found
        cases found
        exact ⟨le_rfl, fun more _ => passed (tail ++ more)⟩

/-- Reads the digits of an exponent after its sign, if it has one. -/
def readSignedDigits : List Char → Option (Option (Bool × List Char) × List Char)
  | '+' :: rest => readExponentDigits false rest
  | '-' :: rest => readExponentDigits true rest
  | rest => readExponentDigits false rest

theorem local_readSignedDigits : Local readSignedDigits := by
  intro characters exponent rest found
  cases characters with
  | nil => cases found
  | cons head tail =>
      by_cases plus : head = '+'
      · subst plus
        exact (local_readExponentDigits false).cons (fun _ => rfl) found
      by_cases minus : head = '-'
      · subst minus
        exact (local_readExponentDigits true).cons (fun _ => rfl) found
      have unsigned (more : List Char) :
          readSignedDigits (head :: more) = readExponentDigits false (head :: more) := by
        simp [readSignedDigits, plus, minus]
      rw [unsigned] at found
      obtain ⟨shorter, longer⟩ := local_readExponentDigits false _ _ _ found
      refine ⟨shorter, fun more stops => ?_⟩
      rw [List.cons_append, unsigned]
      exact longer more stops

theorem local_readExponent : Local readExponent := by
  intro characters exponent rest found
  cases characters with
  | nil =>
      cases found
      refine ⟨le_rfl, fun more stops => ?_⟩
      cases more with
      | nil => rfl
      | cons head tail =>
          have letters := (stops rfl).2.2
          simp [readExponent, letters]
  | cons head tail =>
      by_cases letter : head = 'e' ∨ head = 'E'
      · have opened (more : List Char) : readExponent (head :: more) = readSignedDigits more := by
          rcases letter with rfl | rfl <;> rfl
        exact local_readSignedDigits.cons opened found
      · have passed (more : List Char) :
            readExponent (head :: more) = some (none, head :: more) := by
          simp [readExponent, letter]
        rw [passed] at found
        cases found
        exact ⟨le_rfl, fun more _ => passed (tail ++ more)⟩

/-- One part after the other. A part that leaves nothing over is followed by parts that take
nothing, so what stops the last one stops all of them. -/
theorem Local.andThen {α β : Type} {first : List Char → Option (α × List Char)}
    {second : List Char → Option (β × List Char)} (near : Local first) (later : Local second) :
    Local fun characters => (first characters).bind fun (value, rest) =>
      (second rest).map fun (other, rest) => ((value, other), rest) := by
  rintro characters ⟨value, other⟩ rest found
  obtain ⟨⟨_, left⟩, begins, continues⟩ := Option.bind_eq_some_iff.mp found
  obtain ⟨⟨_, last⟩, ends, same⟩ := Option.map_eq_some_iff.mp continues
  cases same
  obtain ⟨shorter, longer⟩ := near _ _ _ begins
  obtain ⟨shortest, longest⟩ := later _ _ _ ends
  refine ⟨shortest.trans shorter, fun more stops => ?_⟩
  have stopped : left = [] → Stops more := by
    rintro rfl
    exact stops (List.length_eq_zero_iff.mp (Nat.le_zero.mp shortest))
  refine Option.bind_eq_some_iff.mpr ⟨_, longer more stopped, ?_⟩
  exact Option.map_eq_some_iff.mpr ⟨_, longest more stops, rfl⟩

/-! ### Numbers -/

/-- Reads all parts of a number. -/
def readParts (characters : List Char) :
    Option ((List Char × Option (List Char) × Option (Bool × List Char)) × List Char) :=
  (readWhole characters).bind fun (whole, rest) =>
    (((readFraction rest).bind fun (fraction, rest) =>
      (readExponent rest).map fun (exponent, rest) => ((fraction, exponent), rest))).map
        fun (others, rest) => ((whole, others), rest)

theorem local_readParts : Local readParts :=
  local_readWhole.andThen (local_readFraction.andThen local_readExponent)

theorem readNumber_eq (negative : Bool) (characters : List Char) :
    readNumber negative characters =
      match readParts characters with
      | none => (.unreadable false, none)
      | some ((whole, fraction, exponent), rest) =>
          (((JsonNumber.ofNumeral negative whole fraction exponent).map number).getD
            (.unreadable true), some rest) := by
  unfold readNumber readParts
  cases readWhole characters with
  | none => rfl
  | some first =>
      simp only [Option.bind_some]
      cases readFraction first.2 with
      | none => rfl
      | some second =>
          simp only [Option.bind_some]
          cases readExponent second.2 with
          | none => rfl
          | some third =>
              simp only [Option.map_some]
              cases JsonNumber.ofNumeral negative first.1 second.1 third.1 <;> rfl

theorem length_of_readParts {characters rest : List Char}
    {parts : List Char × Option (List Char) × Option (Bool × List Char)}
    (found : readParts characters = some (parts, rest)) : rest.length < characters.length := by
  obtain ⟨⟨whole, left⟩, begins, continues⟩ := Option.bind_eq_some_iff.mp found
  obtain ⟨⟨others, last⟩, ends, same⟩ := Option.map_eq_some_iff.mp continues
  cases same
  have later : rest.length ≤ left.length :=
    ((local_readFraction.andThen local_readExponent) _ _ _ ends).1
  obtain ⟨span, nonempty, -⟩ := readWhole_eq_some_iff.mp begins
  have taken : whole ++ left = characters := by
    rw [spanDigits, Prod.mk.injEq] at span
    rw [← span.1, ← span.2]
    exact List.takeWhile_append_dropWhile
  have positive := List.length_pos_iff.mpr nonempty
  rw [← taken, List.length_append]
  change rest.length < _
  omega

/-- A number is read in the same way if what follows it does not continue it. -/
theorem readNumber_append {negative : Bool} {characters rest : List Char} {document : Document}
    (found : readNumber negative characters = (document, some rest)) :
    rest.length < characters.length ∧
      ∀ more, (rest = [] → Stops more) →
        readNumber negative (characters ++ more) = (document, some (rest ++ more)) := by
  simp only [readNumber_eq] at found ⊢
  cases parts : readParts characters with
  | none => simp [parts] at found
  | some read =>
      obtain ⟨read, left⟩ := read
      rw [parts] at found
      simp only [Prod.mk.injEq, Option.some.injEq] at found
      obtain ⟨rfl, rfl⟩ := found
      refine ⟨length_of_readParts parts, fun more stops => ?_⟩
      rw [(local_readParts _ _ _ parts).2 more stops]

/-! ### Strings -/

theorem readHex_append {characters rest : List Char} {unit : Nat}
    (found : readHex characters = some (unit, rest)) :
    rest.length < characters.length ∧
      ∀ more, readHex (characters ++ more) = some (unit, rest ++ more) := by
  match characters with
  | [] | [_] | [_, _] | [_, _, _] => cases found
  | first :: second :: third :: fourth :: left =>
      simp only [readHex, List.cons_append, List.length_cons] at found ⊢
      split at found
      · next a b c d =>
          simp only [Option.some.injEq, Prod.mk.injEq] at found
          obtain ⟨rfl, rfl⟩ := found
          exact ⟨by omega, fun more => rfl⟩
      · cases found

theorem readLowSurrogate_append {characters rest : List Char} {unit : Nat}
    (found : readLowSurrogate characters = some (unit, rest)) :
    rest.length < characters.length ∧
      ∀ more, readLowSurrogate (characters ++ more) = some (unit, rest ++ more) := by
  unfold readLowSurrogate at found
  split at found
  · next rest =>
      split at found
      · next hex =>
          obtain ⟨shorter, longer⟩ := readHex_append hex
          split at found
          · next low =>
              cases found
              refine ⟨by simp only [List.length_cons]; omega, fun more => ?_⟩
              simp [readLowSurrogate, longer more, low]
          · cases found
      · cases found
  · cases found

/-- What is not half of a surrogate pair does not become one, if a string can be read from it. -/
theorem readLowSurrogate_append_of_none {fuel : Nat} {found : Option (List Char)}
    {characters : List Char} {result : Option String × List Char}
    (read : readString fuel found characters = some result)
    (absent : readLowSurrogate characters = none) (more : List Char) :
    readLowSurrogate (characters ++ more) = none := by
  obtain ⟨fuel, rfl⟩ : ∃ less, fuel = less + 1 := by
    cases fuel with
    | zero => simp [readString] at read
    | succ less => exact ⟨less, rfl⟩
  cases characters with
  | nil => simp [readString] at read
  | cons head tail =>
      by_cases backslash : head = '\\'
      · subst backslash
        cases tail with
        | nil => simp [readString] at read
        | cons escape rest =>
            by_cases unit : escape = 'u'
            · subst unit
              rw [readString] at read
              cases hex : readHex rest with
              | none => simp [hex] at read
              | some first =>
                  have longer := (readHex_append hex).2 more
                  simp only [readLowSurrogate, hex, List.cons_append, longer] at absent ⊢
                  split at absent
                  · cases absent
                  · next high => rw [if_neg high]
            · simp [readLowSurrogate, unit]
      · simp [readLowSurrogate, backslash]

/-- A string is read in the same way whatever follows it. -/
theorem readString_append {fuel : Nat} {found : Option (List Char)} {characters rest : List Char}
    {text : Option String} (read : readString fuel found characters = some (text, rest)) :
    rest.length < characters.length ∧ ∀ extra more,
      readString (fuel + extra) found (characters ++ more) = some (text, rest ++ more) := by
  induction fuel, found, characters using readString.induct with
  | case1 => simp [readString] at read
  | case2 => simp [readString] at read
  | case3 fuel found left =>
      simp only [readString, Option.some.injEq, Prod.mk.injEq] at read
      obtain ⟨rfl, rfl⟩ := read
      refine ⟨Nat.lt_succ_self _, fun extra more => ?_⟩
      rw [Nat.succ_add]
      rfl
  | case4 fuel found left hex => simp [readString, hex] at read
  | case5 fuel found left unit afterHex hex high low afterLow surrogate point ih =>
      simp only [readString, hex, if_pos high, surrogate] at read
      obtain ⟨shorter, longer⟩ := ih read
      obtain ⟨hexShorter, hexLonger⟩ := readHex_append hex
      obtain ⟨lowShorter, lowLonger⟩ := readLowSurrogate_append surrogate
      refine ⟨by simp only [List.length_cons]; omega, fun extra more => ?_⟩
      rw [Nat.succ_add, List.cons_append, List.cons_append, readString.eq_4, hexLonger]
      simp only [if_pos high, lowLonger]
      exact longer extra more
  | case6 fuel found left unit afterHex hex high surrogate ih =>
      simp only [readString, hex, if_pos high, surrogate] at read
      obtain ⟨shorter, longer⟩ := ih read
      obtain ⟨hexShorter, hexLonger⟩ := readHex_append hex
      have absent := readLowSurrogate_append_of_none read surrogate
      refine ⟨by simp only [List.length_cons]; omega, fun extra more => ?_⟩
      rw [Nat.succ_add, List.cons_append, List.cons_append, readString.eq_4, hexLonger]
      simp only [if_pos high, absent]
      exact longer extra more
  | case7 fuel found left unit afterHex hex notHigh low ih =>
      simp only [readString, hex, if_neg notHigh, if_pos low] at read
      obtain ⟨shorter, longer⟩ := ih read
      obtain ⟨hexShorter, hexLonger⟩ := readHex_append hex
      refine ⟨by simp only [List.length_cons]; omega, fun extra more => ?_⟩
      rw [Nat.succ_add, List.cons_append, List.cons_append, readString.eq_4, hexLonger]
      simp only [if_neg notHigh, if_pos low]
      exact longer extra more
  | case8 fuel found left unit afterHex hex notHigh notLow ih =>
      simp only [readString, hex, if_neg notHigh, if_neg notLow] at read
      obtain ⟨shorter, longer⟩ := ih read
      obtain ⟨hexShorter, hexLonger⟩ := readHex_append hex
      refine ⟨by simp only [List.length_cons]; omega, fun extra more => ?_⟩
      rw [Nat.succ_add, List.cons_append, List.cons_append, readString.eq_4, hexLonger]
      simp only [if_neg notHigh, if_neg notLow]
      exact longer extra more
  | case9 fuel found escape left notUnit character short ih =>
      rw [readString.eq_5 _ _ _ _ notUnit, short] at read
      obtain ⟨shorter, longer⟩ := ih read
      refine ⟨by simp only [List.length_cons]; omega, fun extra more => ?_⟩
      rw [Nat.succ_add, List.cons_append, List.cons_append, readString.eq_5 _ _ _ _ notUnit, short]
      exact longer extra more
  | case10 fuel found escape left notUnit unknown =>
      rw [readString.eq_5 _ _ _ _ notUnit, unknown] at read
      cases read
  | case11 fuel found character left notQuote notUnit notEscape refused =>
      rw [readString.eq_6 _ _ _ _ notQuote notUnit notEscape, if_pos refused] at read
      cases read
  | case12 fuel found character left notQuote notUnit notEscape kept ih =>
      rw [readString.eq_6 _ _ _ _ notQuote notUnit notEscape, if_neg kept] at read
      obtain ⟨shorter, longer⟩ := ih read
      have plain : character ≠ '\\' := by
        rintro rfl
        exact kept rfl
      refine ⟨Nat.lt_succ_of_lt shorter, fun extra more => ?_⟩
      rw [Nat.succ_add, List.cons_append, readString.eq_6 _ _ _ _ notQuote
        (fun _ same _ => plain same) (fun _ _ same _ => plain same), if_neg kept]
      exact longer extra more

end LightningGateway.Document
