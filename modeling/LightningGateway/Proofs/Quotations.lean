import Mathlib.Data.List.TakeWhile
import LightningGateway.Toml.Writer

/-!
# Quotations that are read back

Whatever characters a text has, the quotation that is written for it is read as that text.
Between three quotes a text may hold quotes of the same kind as long as there are never three of
them in a row.
-/

namespace LightningGateway.Toml

variable {quote character : Char} {escapes : Bool} {characters written rest found : List Char}

/-! ### Escapes -/

theorem codePoint?_append {digits : List Char} {point : Nat}
    (value : hexValue? 0 digits = some point) (valid : point.isValidChar) (rest : List Char) :
    codePoint? digits.length (digits ++ rest) = some (Char.ofNat point, rest) := by
  simp [codePoint?, value, valid]

/-- Four digits are enough for every control character. -/
theorem hexValue?_upperHex :
    ∀ point < 0x80, ((Text.paddedHex 4 point).map Char.toUpper).length = 4 ∧
      hexValue? 0 ((Text.paddedHex 4 point).map Char.toUpper) = some point := by
  decide

theorem toNat_lt_of_isForbidden (forbidden : isForbidden character = true) :
    character.toNat < 0x80 := by
  simp only [isForbidden, Bool.or_eq_true, Bool.and_eq_true, decide_eq_true_eq,
    beq_iff_eq] at forbidden
  omega

theorem escape?_upperHex (small : character.toNat < 0x80) (rest : List Char) :
    escape? ('u' :: ((Text.paddedHex 4 character.toNat).map Char.toUpper ++ rest)) =
      some (character, rest) := by
  obtain ⟨four, value⟩ := hexValue?_upperHex _ small
  have valid : character.toNat.isValidChar := .inl (by omega)
  have read := codePoint?_append value valid rest
  rw [four, Char.ofNat_toNat] at read
  exact read

/-- The ways in which a character stands in a quotation with escapes. -/
inductive Escaped (character : Char) : List Char → Prop
  | plain (unquoted : character ≠ '"') (unmarked : character ≠ '\\')
      (allowed : isForbidden character = false) : Escaped character [character]
  | marked {letter : Char} {letters : List Char} (solid : isSpace letter = false)
      (inLine : letter ≠ '\n' ∧ letter ≠ '\r')
      (read : ∀ rest, escape? (letter :: (letters ++ rest)) = some (character, rest)) :
      Escaped character ('\\' :: letter :: letters)

theorem escaped_escapedCharacter (character : Char) :
    Escaped character (escapedCharacter character) := by
  fun_cases escapedCharacter character with
  | case8 _ forbidden =>
      rw [if_pos forbidden]
      exact .marked rfl (by decide) (escape?_upperHex (toNat_lt_of_isForbidden forbidden))
  | case9 _ allowed _ _ _ _ _ unquoted unmarked =>
      rw [if_neg allowed]
      exact .plain unquoted unmarked (by simpa using allowed)
  | _ => exact .marked rfl (by decide) fun _ => rfl

theorem Escaped.exists_cons (escaped : Escaped character written) :
    ∃ head tail, written = head :: tail ∧ head ≠ '"' := by
  cases escaped with
  | plain unquoted => exact ⟨_, _, rfl, unquoted⟩
  | marked => exact ⟨_, _, rfl, by decide⟩

theorem Escaped.readBasic (escaped : Escaped character written) (fuel : Nat)
    (found rest : List Char) :
    readBasic (fuel + 1) found (written ++ rest) = readBasic fuel (character :: found) rest := by
  cases escaped with
  | plain unquoted unmarked allowed => simp [Toml.readBasic, unquoted, unmarked, allowed]
  | marked solid inLine read => simp [Toml.readBasic, read]

theorem readBasic_flatMap (characters found rest : List Char) {fuel : Nat}
    (enough : characters.length < fuel) :
    readBasic fuel found (characters.flatMap escapedCharacter ++ '"' :: rest) =
      some (String.ofList (found.reverse ++ characters), rest) := by
  induction characters generalizing found fuel with
  | nil =>
      obtain ⟨fuel, rfl⟩ := Nat.exists_eq_succ_of_ne_zero (Nat.ne_of_gt enough)
      simp [readBasic]
  | cons head tail ih =>
      obtain ⟨fuel, rfl⟩ := Nat.exists_eq_succ_of_ne_zero (Nat.ne_of_gt (Nat.zero_lt_of_lt enough))
      have step := (escaped_escapedCharacter head).readBasic fuel found
      have enough : tail.length < fuel := Nat.lt_of_succ_lt_succ enough
      rw [List.flatMap_cons, List.append_assoc, step, ih (head :: found) enough]
      simp

/-! ### Quotations on one line -/

theorem length_le_flatMap (characters : List Char) :
    characters.length ≤ (characters.flatMap escapedCharacter).length := by
  induction characters with
  | nil => exact le_rfl
  | cons head tail ih =>
      obtain ⟨first, others, begins, -⟩ := (escaped_escapedCharacter head).exists_cons
      simp only [List.flatMap_cons, List.length_append, List.length_cons, begins]
      omega

theorem readQuoted_double (severalLines : Bool) (single : ∀ rest, characters ≠ '"' :: '"' :: rest) :
    readQuoted severalLines ('"' :: characters) =
      readBasic (characters.length + 1) [] characters := by
  rw [readQuoted]
  intro rest same
  exact single rest same

theorem readQuoted_basic (severalLines : Bool) (text : String) (rest : List Char) :
    readQuoted severalLines
        ('"' :: (text.toList.flatMap escapedCharacter ++ '"' :: '\n' :: rest)) =
      some (text, '\n' :: rest) := by
  have single (others : List Char) :
      text.toList.flatMap escapedCharacter ++ '"' :: '\n' :: rest ≠ '"' :: '"' :: others := by
    cases text.toList with
    | nil => simp
    | cons head tail =>
        obtain ⟨first, rest, begins, unquoted⟩ := (escaped_escapedCharacter head).exists_cons
        simp [begins, unquoted]
  have enough := length_le_flatMap text.toList
  rw [readQuoted_double severalLines single, readBasic_flatMap]
  · simp
  · simp only [List.length_append]
    omega

/-- Between single quotes there are no escapes. -/
theorem readQuoted_literal (severalLines : Bool) {text : String}
    (unquoted : text.toList.contains '\'' = false) (allowed : text.toList.any isForbidden = false)
    (rest : List Char) :
    readQuoted severalLines ('\'' :: (text.toList ++ '\'' :: '\n' :: rest)) =
      some (text, '\n' :: rest) := by
  have inside : ∀ character ∈ text.toList, (character != '\'') = true := by
    intro character member
    simp only [List.contains_eq_mem, decide_eq_false_iff_not] at unquoted
    exact bne_iff_ne.mpr fun same => unquoted (same ▸ member)
  have single (others : List Char) :
      text.toList ++ '\'' :: '\n' :: rest ≠ '\'' :: '\'' :: others := by
    cases begins : text.toList with
    | nil => simp
    | cons head tail =>
        have unquoted := inside head (begins ▸ List.mem_cons_self)
        simp [bne_iff_ne.mp unquoted]
  rw [readQuoted, readLiteral, List.takeWhile_append_of_pos inside,
    List.dropWhile_append_of_pos inside]
  · simp [allowed]
  · intro others same
    exact single others same

/-! ### Quotations on several lines -/

/-- Characters that are read as one character between three quotes, and that do not begin with
such a quote. -/
structure Taken (quote : Char) (escapes : Bool) (character : Char) (written : List Char) :
    Prop where
  begins : ∃ head tail, written = head :: tail ∧ head ≠ quote
  read : ∀ fuel found rest,
    readLines quote escapes (fuel + 1) found (written ++ rest) =
      readLines quote escapes fuel (character :: found) rest

theorem afterLineEnd?_cons (newline : character ≠ '\n') (carriage : character ≠ '\r')
    (rest : List Char) : afterLineEnd? (character :: rest) = none := by
  simp [afterLineEnd?, newline, carriage]

theorem ne_carriage_of_allowed (allowed : isForbidden character = false) : character ≠ '\r' := by
  rintro rfl
  revert allowed
  decide

theorem taken_allowed (unquoted : character ≠ quote) (unmarked : escapes = true → character ≠ '\\')
    (allowed : isForbidden character = false ∨ character = '\n') :
    Taken quote escapes character [character] := by
  refine ⟨⟨_, _, rfl, unquoted⟩, fun fuel found rest => ?_⟩
  have noEscape : (escapes && character == '\\') = false := by
    cases escapes with
    | false => rfl
    | true => simpa using unmarked rfl
  by_cases newline : character = '\n'
  · subst newline
    simp [readLines, unquoted, afterLineEnd?]
  · have allowed := allowed.resolve_right newline
    have inLine := afterLineEnd?_cons newline (ne_carriage_of_allowed allowed) rest
    simp [readLines, unquoted, noEscape, inLine, allowed]

theorem Escaped.taken (escaped : Escaped character written) : Taken '"' true character written := by
  cases escaped with
  | plain unquoted unmarked allowed =>
      exact taken_allowed unquoted (fun _ => unmarked) (.inl allowed)
  | @marked letter letters solid inLine read =>
      refine ⟨⟨_, _, rfl, by decide⟩, fun fuel found rest => ?_⟩
      have skipped : skipSpaces (letter :: (letters ++ rest)) = letter :: (letters ++ rest) :=
        List.dropWhile_cons_of_neg (by simp [solid])
      have inLine := afterLineEnd?_cons inLine.1 inLine.2 (letters ++ rest)
      simp [readLines, skipped, inLine, read]

/-- What may stand between three quotes: characters that are taken one by one, and between them
runs of at most two quotes. -/
inductive Block (quote : Char) (escapes : Bool) : List Char → List Char → Prop
  | last {run : Nat} (short : run < 3) :
      Block quote escapes (List.replicate run quote) (List.replicate run quote)
  | next {run : Nat} (short : run < 3) {character : Char} {written : List Char}
      (taken : Taken quote escapes character written) {characters others : List Char}
      (block : Block quote escapes characters others) :
      Block quote escapes (List.replicate run quote ++ character :: characters)
        (List.replicate run quote ++ (written ++ others))

theorem length_run (run : Nat) (stops : rest.head? ≠ some quote) :
    ((List.replicate run quote ++ rest).takeWhile (· == quote)).length = run := by
  have stopped : rest.takeWhile (· == quote) = [] := by
    cases rest with
    | nil => rfl
    | cons head tail => simpa using stops
  rw [List.takeWhile_append_of_pos (by simp), stopped, List.append_nil, List.length_replicate]

theorem takeQuotes_short {run : Nat} (short : run < 3) (stops : rest.head? ≠ some quote) :
    takeQuotes quote (List.replicate run quote ++ rest) =
      (List.replicate run quote, false, rest) := by
  simp only [takeQuotes, length_run run stops, if_pos short]
  simp

theorem takeQuotes_closing {run : Nat} (short : run < 3) (stops : rest.head? ≠ some quote) :
    takeQuotes quote (List.replicate (run + 3) quote ++ rest) =
      (List.replicate run quote, true, rest) := by
  have taken : min (run + 3) 5 = run + 3 := by omega
  have closing : ¬run + 3 < 3 := by omega
  simp only [takeQuotes, length_run (run + 3) stops, if_neg closing, taken]
  simp

theorem readLines_run {run : Nat} (short : run + 1 < 3) (stops : rest.head? ≠ some quote)
    (fuel : Nat) (found : List Char) :
    readLines quote escapes (fuel + 1) found (List.replicate (run + 1) quote ++ rest) =
      readLines quote escapes fuel (List.replicate (run + 1) quote ++ found) rest := by
  have taken := takeQuotes_short short stops
  rw [List.replicate_succ, List.cons_append] at taken ⊢
  simp [readLines, taken]

theorem readLines_closing {run : Nat} (short : run < 3) (stops : rest.head? ≠ some quote)
    (fuel : Nat) (found : List Char) :
    readLines quote escapes (fuel + 1) found (List.replicate (run + 3) quote ++ rest) =
      some (String.ofList (found.reverse ++ List.replicate run quote), rest) := by
  have taken := takeQuotes_closing short stops
  rw [List.replicate_succ, List.cons_append] at taken ⊢
  simp [readLines, taken]

theorem Block.readLines (block : Block quote escapes characters written)
    (stops : rest.head? ≠ some quote) {fuel : Nat} (enough : written.length < fuel)
    (found : List Char) :
    readLines quote escapes fuel found (written ++ (List.replicate 3 quote ++ rest)) =
      some (String.ofList (found.reverse ++ characters), rest) := by
  induction block generalizing fuel found with
  | @last run short =>
      obtain ⟨fuel, rfl⟩ := Nat.exists_eq_succ_of_ne_zero (Nat.ne_of_gt (Nat.zero_lt_of_lt enough))
      rw [← List.append_assoc, List.replicate_append_replicate]
      exact readLines_closing short stops fuel found
  | @next run short character written taken characters others block ih =>
      obtain ⟨head, tail, begins, unquoted⟩ := taken.begins
      have some_written : 1 ≤ written.length := by simp [begins]
      simp only [List.length_append, List.length_replicate] at enough
      cases run with
      | zero =>
          obtain ⟨fuel, rfl⟩ : ∃ left, fuel = left + 1 := ⟨fuel - 1, by omega⟩
          have later := @ih fuel (by omega) (character :: found)
          rw [List.replicate_zero, List.nil_append, List.nil_append, List.append_assoc, taken.read,
            later]
          simp
      | succ run =>
          obtain ⟨fuel, rfl⟩ : ∃ left, fuel = left + 2 := ⟨fuel - 2, by omega⟩
          have later := @ih fuel (by omega) (character :: (List.replicate (run + 1) quote ++ found))
          have stops : (written ++ (others ++ (List.replicate 3 quote ++ rest))).head? ≠
              some quote := by
            simp [begins, unquoted]
          rw [List.append_assoc, List.append_assoc, readLines_run short stops, taken.read, later]
          simp

theorem readBlock_block (block : Block quote escapes characters written)
    (stops : rest.head? ≠ some quote) :
    readBlock quote escapes ('\n' :: (written ++ (List.replicate 3 quote ++ rest))) =
      some (String.ofList characters, rest) := by
  have enough : written.length <
      ('\n' :: (written ++ (List.replicate 3 quote ++ rest))).length + 1 := by
    simp only [List.length_cons, List.length_append]
    omega
  exact block.readLines stops enough []

/-- Without a line end in it, a text may stand right behind the opening quotes. -/
theorem readBlock_block_inline (block : Block quote escapes characters written)
    (stops : rest.head? ≠ some quote) (mark : quote ≠ '\n' ∧ quote ≠ '\r')
    (inLine : ∀ head ∈ written.head?, head ≠ '\n' ∧ head ≠ '\r') :
    readBlock quote escapes (written ++ (List.replicate 3 quote ++ rest)) =
      some (String.ofList characters, rest) := by
  have enough : written.length < (written ++ (List.replicate 3 quote ++ rest)).length + 1 := by
    simp only [List.length_append]
    omega
  have opened : afterLineEnd? (written ++ (List.replicate 3 quote ++ rest)) = none := by
    cases written with
    | nil => exact afterLineEnd?_cons mark.1 mark.2 _
    | cons head tail =>
        have inLine := inLine head rfl
        exact afterLineEnd?_cons inLine.1 inLine.2 _
  rw [readBlock, opened]
  exact block.readLines stops enough []

/-! ### Runs of quotes -/

/-- The length of the run at a character and the longest run up to it, from those before. -/
def runStep (mark : Char) (state : Nat × Nat) (character : Char) : Nat × Nat :=
  if character == mark then (state.1 + 1, max state.2 (state.1 + 1)) else (0, state.2)

theorem longestRun_eq_foldl (mark : Char) (characters : List Char) :
    longestRun mark characters = (characters.foldl (runStep mark) (0, 0)).2 :=
  rfl

theorem le_foldl_runStep (mark : Char) (characters : List Char) (state : Nat × Nat) :
    state.2 ≤ (characters.foldl (runStep mark) state).2 := by
  induction characters generalizing state with
  | nil => exact le_rfl
  | cons head tail ih =>
      have step : state.2 ≤ (runStep mark state head).2 := by
        rw [runStep]
        split
        · exact le_max_left _ _
        · exact le_rfl
      exact step.trans (ih _)

theorem block_of_foldl_runStep {write : Char → List Char} (itself : write quote = [quote])
    (characters : List Char)
    (taken : ∀ character ∈ characters, character ≠ quote →
      Taken quote escapes character (write character))
    {run longest : Nat} (within : run ≤ longest)
    (short : (characters.foldl (runStep quote) (run, longest)).2 < 3) :
    Block quote escapes (List.replicate run quote ++ characters)
      (List.replicate run quote ++ characters.flatMap write) := by
  have runShort : run < 3 := within.trans_lt ((le_foldl_runStep _ _ _).trans_lt short)
  induction characters generalizing run longest with
  | nil =>
      rw [List.flatMap_nil, List.append_nil]
      exact .last runShort
  | cons head tail ih =>
      have takenTail := fun character member => taken character (.tail head member)
      rw [List.foldl_cons, runStep] at short
      by_cases same : head = quote
      · subst same
        rw [if_pos (beq_self_eq_true head)] at short
        have longer := le_max_right longest (run + 1)
        have runShort := longer.trans_lt ((le_foldl_runStep _ _ _).trans_lt short)
        have block := ih takenTail longer short runShort
        rw [List.replicate_succ', List.append_assoc, List.append_assoc] at block
        rw [List.flatMap_cons, itself]
        exact block
      · rw [if_neg (by simpa using same)] at short
        have block := ih takenTail (Nat.zero_le longest) short (by decide)
        rw [List.flatMap_cons]
        exact .next runShort (taken head List.mem_cons_self same) block

theorem block_of_longestRun {write : Char → List Char} (itself : write quote = [quote])
    (taken : ∀ character ∈ characters, character ≠ quote →
      Taken quote escapes character (write character))
    (short : longestRun quote characters < 3) :
    Block quote escapes characters (characters.flatMap write) := by
  rw [longestRun_eq_foldl] at short
  exact block_of_foldl_runStep itself characters taken le_rfl short

theorem block_of_escaped {write : Char → List Char} (characters : List Char)
    (taken : ∀ character, Taken quote escapes character (write character)) :
    Block quote escapes characters (characters.flatMap write) := by
  induction characters with
  | nil => exact @Block.last _ _ 0 (by decide)
  | cons head tail ih => exact @Block.next _ _ 0 (by decide) _ _ (taken head) _ _ ih

/-! ### All quotations -/

theorem taken_escapedInBlock (character : Char) :
    Taken '"' true character (escapedInBlock character) := by
  by_cases newline : character = '\n'
  · subst newline
    exact taken_allowed (by decide) (fun _ => by decide) (.inr rfl)
  · rw [escapedInBlock, if_neg (by simpa using newline)]
    exact (escaped_escapedCharacter character).taken

/-- Tabs are the only characters that are written in another way than as themselves where no
backslash and no other control character has to be written. -/
def tabEscaped (character : Char) : List Char :=
  if character == '\t' then ['\\', 't'] else [character]

theorem taken_tabEscaped (unquoted : character ≠ '"') (unmarked : character ≠ '\\')
    (allowed : isForbidden character = false ∨ character = '\n') :
    Taken '"' true character (tabEscaped character) := by
  by_cases tab : character = '\t'
  · subst tab
    have escaped : Escaped '\t' ['\\', 't'] := .marked rfl (by decide) fun _ => rfl
    exact escaped.taken
  · rw [tabEscaped, if_neg (by simpa using tab)]
    exact taken_allowed unquoted (fun _ => unmarked) allowed

theorem inLine_of_allowed {write : Char → List Char}
    (allowed : ∀ character ∈ characters, isForbidden character = false ∨ character = '\n')
    (noLines : characters.contains '\n' = false)
    (begins : ∀ character, ∃ head tail, write character = head :: tail ∧
      (head = character ∨ head = '\\')) :
    ∀ head ∈ (characters.flatMap write).head?, head ≠ '\n' ∧ head ≠ '\r' := by
  cases characters with
  | nil => nofun
  | cons first others =>
      obtain ⟨head, tail, written, same⟩ := begins first
      rw [List.flatMap_cons, written, List.cons_append, List.head?_cons]
      rintro _ ⟨⟩
      rcases same with rfl | rfl
      · have newline : head ≠ '\n' := by
          rintro rfl
          simp at noLines
        have allowed := (allowed head List.mem_cons_self).resolve_right newline
        exact ⟨newline, ne_carriage_of_allowed allowed⟩
      · decide

/-- A text between three quotes, with a line end in front of it if there is one in it. -/
theorem readBlock_quotation {text : String} (block : Block quote escapes text.toList written)
    (mark : quote ≠ '\n' ∧ quote ≠ '\r')
    (inLine : text.toList.contains '\n' = false →
      ∀ head ∈ written.head?, head ≠ '\n' ∧ head ≠ '\r')
    (rest : List Char) :
    readBlock quote escapes
        ((if text.toList.contains '\n' then ['\n'] else []) ++
          (written ++ (List.replicate 3 quote ++ '\n' :: rest))) =
      some (text, '\n' :: rest) := by
  have stops : ('\n' :: rest).head? ≠ some quote := by simpa using mark.1.symm
  cases lines : text.toList.contains '\n' with
  | true => simpa using readBlock_block block stops
  | false => simpa using readBlock_block_inline block stops mark (inLine lines)

/-- The quotations of a text. -/
inductive Quoted (text : String) : List Char → Prop
  | basic : Quoted text ('"' :: text.toList.flatMap escapedCharacter ++ ['"'])
  | literal (unquoted : text.toList.contains '\'' = false)
      (allowed : text.toList.any isForbidden = false) :
      Quoted text ('\'' :: text.toList ++ ['\''])
  | block {quote : Char} {escapes : Bool} {written : List Char}
      (kind : quote = '"' ∧ escapes = true ∨ quote = '\'' ∧ escapes = false)
      (block : Block quote escapes text.toList written)
      (inLine : text.toList.contains '\n' = false →
        ∀ head ∈ written.head?, head ≠ '\n' ∧ head ≠ '\r') :
      Quoted text ([quote, quote, quote] ++
        (if text.toList.contains '\n' then ['\n'] else []) ++ written ++ [quote, quote, quote])

theorem Quoted.read {text : String} (quoted : Quoted text written) (rest : List Char) :
    readQuoted true (written ++ '\n' :: rest) = some (text, '\n' :: rest) := by
  cases quoted with
  | basic => simpa using readQuoted_basic true text rest
  | literal unquoted allowed => simpa using readQuoted_literal true unquoted allowed rest
  | block kind block inLine =>
      rcases kind with ⟨rfl, rfl⟩ | ⟨rfl, rfl⟩
      · simpa [readQuoted] using readBlock_quotation block (by decide) inLine rest
      · simpa [readQuoted] using readBlock_quotation block (by decide) inLine rest

theorem allowed_of_no_control
    (noControl : (characters.any fun character => isForbidden character && character != '\n') =
      false) :
    ∀ character ∈ characters, isForbidden character = false ∨ character = '\n' := by
  intro character member
  have allowed := List.any_eq_false.mp noControl character member
  cases forbidden : isForbidden character with
  | false => exact .inl rfl
  | true => exact .inr (by simpa [forbidden] using allowed)

theorem any_isForbidden_of_no_control
    (noControl : (characters.any fun character => isForbidden character && character != '\n') =
      false)
    (noLines : characters.contains '\n' = false) : characters.any isForbidden = false := by
  refine List.any_eq_false.mpr fun character member => ?_
  rcases allowed_of_no_control noControl character member with allowed | rfl
  · simp [allowed]
  · simp [member] at noLines

theorem quoted_double {text : String}
    (allowed : ∀ character ∈ text.toList, isForbidden character = false ∨ character = '\n')
    (unmarked : text.toList.contains '\\' = false) (short : longestRun '"' text.toList < 3) :
    Quoted text (['"', '"', '"'] ++ (if text.toList.contains '\n' then ['\n'] else []) ++
      text.toList.flatMap tabEscaped ++ ['"', '"', '"']) := by
  have taken : ∀ character ∈ text.toList, character ≠ '"' →
      Taken '"' true character (tabEscaped character) := by
    intro character member unquoted
    refine taken_tabEscaped unquoted ?_ (allowed character member)
    rintro rfl
    simp [member] at unmarked
  have begins (character : Char) : ∃ head tail, tabEscaped character = head :: tail ∧
      (head = character ∨ head = '\\') := by
    rw [tabEscaped]
    split
    · exact ⟨_, _, rfl, .inr rfl⟩
    · exact ⟨_, _, rfl, .inl rfl⟩
  exact .block (.inl ⟨rfl, rfl⟩) (block_of_longestRun rfl taken short)
    fun noLines => inLine_of_allowed allowed noLines begins

theorem quoted_single {text : String}
    (allowed : ∀ character ∈ text.toList, isForbidden character = false ∨ character = '\n')
    (short : longestRun '\'' text.toList < 3) :
    Quoted text (['\'', '\'', '\''] ++ (if text.toList.contains '\n' then ['\n'] else []) ++
      text.toList ++ ['\'', '\'', '\'']) := by
  have taken : ∀ character ∈ text.toList, character ≠ '\'' →
      Taken '\'' false character [character] :=
    fun character member unquoted => taken_allowed unquoted nofun (allowed character member)
  have block := block_of_longestRun rfl taken short
  have itself : text.toList.flatMap (fun character => [character]) = text.toList :=
    List.flatMap_singleton' text.toList
  have inLine (noLines : text.toList.contains '\n' = false) :=
    inLine_of_allowed allowed noLines fun character => ⟨character, [], rfl, .inl rfl⟩
  rw [itself] at block inLine
  exact .block (.inr ⟨rfl, rfl⟩) block inLine

theorem quoted_lines {text : String} (lines : text.toList.contains '\n' = true) :
    Quoted text (['"', '"', '"'] ++ (if text.toList.contains '\n' then ['\n'] else []) ++
      text.toList.flatMap escapedInBlock ++ ['"', '"', '"']) :=
  .block (.inl ⟨rfl, rfl⟩) (block_of_escaped text.toList taken_escapedInBlock)
    fun noLines => absurd (lines.symm.trans noLines) (by decide)

theorem quoted_quotation (text : String) : Quoted text (quotation text) := by
  rw [quotation]
  split
  next => exact .basic
  split
  next literal =>
    simp only [Bool.and_eq_true, Bool.not_eq_true'] at literal
    obtain ⟨⟨noLines, noControl⟩, unquoted⟩ := literal
    exact .literal unquoted (any_isForbidden_of_no_control noControl noLines)
  split
  next double =>
    simp only [Bool.and_eq_true, Bool.not_eq_true', decide_eq_true_eq] at double
    obtain ⟨⟨noControl, unmarked⟩, short⟩ := double
    exact quoted_double (allowed_of_no_control noControl) unmarked short
  split
  next single =>
    simp only [Bool.and_eq_true, Bool.not_eq_true', decide_eq_true_eq] at single
    exact quoted_single (allowed_of_no_control single.1) single.2
  by_cases lines : text.toList.contains '\n' = true
  · have quoted := quoted_lines lines
    simpa only [lines, if_true] using quoted
  · rw [if_neg lines]
    exact .basic

/-- A quotation is read as its text. -/
theorem readQuoted_quotation (text : String) (rest : List Char) :
    readQuoted true (quotation text ++ '\n' :: rest) = some (text, '\n' :: rest) :=
  (quoted_quotation text).read rest

end LightningGateway.Toml
