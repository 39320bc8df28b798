import LightningGateway.Proofs.Scanning

/-!
# Reading a value within a text

The bound on the recursion of the reader is never reached, and what the reader finds at the front
of a text does not depend on what follows it, unless a number goes on there. So a value is read in
the same way wherever it stands.
-/

namespace LightningGateway.Document

/-! ### Values -/

/-- Reads something at the front of characters. -/
abbrev Reader (α : Type) := List Char → α × Option (List Char)

/-- Reads what is enclosed up to a closing character, from behind the opening one. -/
def enclosed {α : Type} (closing : Char) (wrap : List α → Bool → Document)
    (inside : Reader (List α)) : Reader Document :=
  fun characters =>
    if (skipGap characters).head? = some closing then
      (wrap [] true, some (skipGap characters).tail)
    else
      (wrap (inside (skipGap characters)).1 (inside (skipGap characters)).2.isSome,
        (inside (skipGap characters)).2)

/-- Reads a value that is not preceded by blanks. -/
def valueStep (items : Reader (List Document)) (fields : Reader (List (Option String × Document))) :
    Reader Document
  | 'n' :: rest => takeWord "ull".toList .null rest
  | 't' :: rest => takeWord "rue".toList (.bool true) rest
  | 'f' :: rest => takeWord "alse".toList (.bool false) rest
  | '"' :: rest =>
      match readString (rest.length + 1) (some []) rest with
      | some (some text, rest) => (.string text, some rest)
      | some (none, rest) => (.unreadable true, some rest)
      | none => (.unreadable false, none)
  | '[' :: rest => enclosed ']' .array items rest
  | '\x7b' :: rest => enclosed '\x7d' .object fields rest
  | '-' :: rest => readNumber true rest
  | characters => readNumber false characters

theorem readValue_succ (fuel : Nat) (characters : List Char) :
    readValue (fuel + 1) characters =
      valueStep (readItems fuel) (readFields fuel) (skipGap characters) := by
  rw [readValue]
  generalize skipGap characters = solid
  split
  case h_5 rest =>
    rw [valueStep, enclosed]
    rcases skipGap rest with _ | ⟨head, tail⟩
    · rfl
    · by_cases closed : head = ']' <;> simp [closed]
  case h_6 rest =>
    rw [valueStep, enclosed]
    rcases skipGap rest with _ | ⟨head, tail⟩
    · rfl
    · by_cases closed : head = '\x7d' <;> simp [closed]
  case h_8 => rw [valueStep] <;> assumption
  all_goals rfl

/-- Goes on behind an entry of something enclosed: to the end, or to more entries. -/
def following {α : Type} (closing : Char) (inside : Reader (List α)) (entry : α) :
    Reader (List α) :=
  fun characters =>
    match skipGap characters with
    | [] => ([entry], none)
    | head :: rest =>
        if head = closing then ([entry], some rest)
        else if head = ',' ∧ (skipGap rest).head? ≠ some closing then
          (entry :: (inside (skipGap rest)).1, (inside (skipGap rest)).2)
        else ([entry], none)

def itemsStep (value : Reader Document) (items : Reader (List Document)) : Reader (List Document) :=
  fun characters =>
    match value characters with
    | (item, none) => ([item], none)
    | (item, some rest) => following ']' items item rest

theorem readItems_succ (fuel : Nat) :
    readItems (fuel + 1) = itemsStep (readValue fuel) (readItems fuel) := by
  funext characters
  rw [readItems, itemsStep]
  rcases readValue fuel characters with ⟨item, _ | rest⟩
  · rfl
  · simp only [following]
    rcases skipGap rest with _ | ⟨head, tail⟩
    · rfl
    · by_cases closing : head = ']'
      · simp [closing]
      · by_cases comma : head = ','
        · subst comma
          rcases inner : skipGap tail with _ | ⟨first, others⟩
          · simp [inner]
          · by_cases closed : first = ']' <;> simp [inner, closed]
        · simp [closing, comma]

def fieldsStep (value : Reader Document) (fields : Reader (List (Option String × Document))) :
    Reader (List (Option String × Document))
  | '"' :: rest =>
      match readString (rest.length + 1) (some []) rest with
      | none => ([], none)
      | some (key, rest) =>
          match skipGap rest with
          | ':' :: rest =>
              match value rest with
              | (value, none) => ([(key, value)], none)
              | (value, some rest) => following '\x7d' fields (key, value) rest
          | _ => ([(key, .unreadable false)], none)
  | _ => ([], none)

theorem readFields_of_closing (fuel : Nat) {characters : List Char}
    (closed : characters.head? = some '\x7d') : readFields fuel characters = ([], none) := by
  obtain ⟨tail, rfl⟩ := List.head?_eq_some_iff.mp closed
  cases fuel <;> rfl

theorem readFields_succ (fuel : Nat) :
    readFields (fuel + 1) = fieldsStep (readValue fuel) (readFields fuel) := by
  funext characters
  rw [readFields.eq_def]
  dsimp only
  split
  · next inner =>
    rw [fieldsStep]
    rcases readString (inner.length + 1) (some []) inner with _ | ⟨key, afterKey⟩
    · rfl
    · dsimp only
      rcases skipGap afterKey with _ | ⟨head, afterColon⟩
      · rfl
      · by_cases colon : head = ':'
        · subst colon
          rcases read : readValue fuel afterColon with ⟨value, _ | rest⟩
          · simp [read]
          · simp only [read, following]
            rcases skipGap rest with _ | ⟨next, tail⟩
            · rfl
            · by_cases closing : next = '\x7d'
              · simp [closing]
              · by_cases comma : next = ','
                · subst comma
                  by_cases closed : (skipGap tail).head? = some '\x7d'
                  · simp [closed, readFields_of_closing fuel closed]
                  · simp [closed]
                · simp [closing, comma]
        · simp [colon]
  · rw [fieldsStep]
    assumption

/-! ### The bound on the recursion -/

theorem length_skipGap (characters : List Char) :
    (skipGap characters).length ≤ characters.length :=
  (List.dropWhile_suffix _).length_le

/-- Two readers read the same from all shorter texts. -/
def AgreeBelow {α : Type} (length : Nat) (first second : Reader α) : Prop :=
  ∀ characters, characters.length < length → first characters = second characters

theorem AgreeBelow.mono {α : Type} {less more : Nat} {first second : Reader α}
    (agree : AgreeBelow more first second) (fewer : less ≤ more) : AgreeBelow less first second :=
  fun characters short => agree characters (short.trans_le fewer)

theorem enclosed_congr {α : Type} {closing : Char} {wrap : List α → Bool → Document}
    {inside otherInside : Reader (List α)} (characters : List Char)
    (same : AgreeBelow (characters.length + 1) inside otherInside) :
    enclosed closing wrap inside characters = enclosed closing wrap otherInside characters := by
  unfold enclosed
  rw [same (skipGap characters) (Nat.lt_succ_of_le (length_skipGap characters))]

theorem valueStep_congr {items otherItems : Reader (List Document)}
    {fields otherFields : Reader (List (Option String × Document))} (characters : List Char)
    (sameItems : AgreeBelow characters.length items otherItems)
    (sameFields : AgreeBelow characters.length fields otherFields) :
    valueStep items fields characters = valueStep otherItems otherFields characters := by
  unfold valueStep
  split
  case h_5 rest => exact enclosed_congr rest sameItems
  case h_6 rest => exact enclosed_congr rest sameFields
  all_goals rfl

/-- What is left over after something was read is shorter. -/
def Shortens {α : Type} (reader : Reader α) : Prop :=
  ∀ characters value rest, reader characters = (value, some rest) →
    rest.length < characters.length

theorem following_congr {α : Type} {closing : Char} {inside otherInside : Reader (List α)}
    (entry : α) (characters : List Char)
    (same : AgreeBelow characters.length inside otherInside) :
    following closing inside entry characters =
      following closing otherInside entry characters := by
  have fewer := length_skipGap characters
  unfold following
  rcases gap : skipGap characters with _ | ⟨head, tail⟩
  · rfl
  · rw [gap] at fewer
    have shorter : (skipGap tail).length < characters.length :=
      (Nat.lt_succ_of_le (length_skipGap tail)).trans_le fewer
    dsimp only
    rw [same (skipGap tail) shorter]

theorem itemsStep_congr {value otherValue : Reader Document}
    {items otherItems : Reader (List Document)} (shortens : Shortens value)
    (characters : List Char) (sameValue : value characters = otherValue characters)
    (sameItems : AgreeBelow characters.length items otherItems) :
    itemsStep value items characters = itemsStep otherValue otherItems characters := by
  unfold itemsStep
  rw [← sameValue]
  rcases found : value characters with ⟨item, _ | rest⟩
  · rfl
  · have shorter := shortens _ _ _ found
    exact following_congr item rest (sameItems.mono shorter.le)

theorem fieldsStep_congr {value otherValue : Reader Document}
    {fields otherFields : Reader (List (Option String × Document))} (shortens : Shortens value)
    (characters : List Char) (sameValue : AgreeBelow characters.length value otherValue)
    (sameFields : AgreeBelow characters.length fields otherFields) :
    fieldsStep value fields characters = fieldsStep otherValue otherFields characters := by
  unfold fieldsStep
  split
  · next inner =>
    cases read : readString (inner.length + 1) (some []) inner with
    | none => rfl
    | some found =>
        obtain ⟨key, afterKey⟩ := found
        have keyShorter := (readString_append read).1
        dsimp only
        split
        · next afterColon gap =>
            have fewer := length_skipGap afterKey
            rw [gap, List.length_cons] at fewer
            have short : afterColon.length < ('"' :: inner).length := by
              rw [List.length_cons]
              omega
            rw [← sameValue afterColon short]
            rcases found : value afterColon with ⟨document, _ | left⟩
            · rfl
            · have shorter := shortens _ _ _ found
              exact following_congr _ left (sameFields.mono (shorter.trans short).le)
        · rfl
  · rfl

/-! ### What follows a value -/

/-- What one reader finds another one finds too, whatever follows. -/
def Extends {α : Type} (first second : Reader α) : Prop :=
  ∀ characters value rest, first characters = (value, some rest) →
    rest.length < characters.length ∧
      ∀ more, (rest = [] → Stops more) → second (characters ++ more) = (value, some (rest ++ more))

theorem Extends.shortens {α : Type} {first second : Reader α} (extending : Extends first second) :
    Shortens first :=
  fun characters value rest found => (extending characters value rest found).1

theorem skipGap_append {characters : List Char} (solid : skipGap characters ≠ [])
    (more : List Char) : skipGap (characters ++ more) = skipGap characters ++ more := by
  unfold skipGap at solid ⊢
  rw [List.dropWhile_append]
  simp [solid]

theorem takeWord_append {expected characters rest : List Char} {document result : Document}
    (found : takeWord expected document characters = (result, some rest)) :
    rest.length ≤ characters.length ∧
      ∀ more, takeWord expected document (characters ++ more) = (result, some (rest ++ more)) := by
  unfold takeWord at found ⊢
  split at found
  · next begins =>
      cases found
      have start := List.isPrefixOf_iff_prefix.mp begins
      refine ⟨by simp, fun more => ?_⟩
      have longer := List.isPrefixOf_iff_prefix.mpr (start.trans (List.prefix_append _ more))
      rw [if_pos longer, List.drop_append_of_le_length start.length_le]
  · cases found

theorem exists_digit_of_readNumber {negative : Bool} {characters rest : List Char}
    {document : Document} (found : readNumber negative characters = (document, some rest)) :
    ∃ head tail, characters = head :: tail ∧ Text.isDigit head = true := by
  unfold readNumber at found
  cases read : readWhole characters with
  | none => simp [read] at found
  | some first =>
      obtain ⟨span, nonempty, -⟩ := readWhole_eq_some_iff.mp read
      cases characters with
      | nil => cases read
      | cons head tail =>
          refine ⟨head, tail, rfl, ?_⟩
          by_contra other
          rw [spanDigits, List.takeWhile_cons_of_neg other] at span
          exact nonempty (Prod.mk.inj span).1.symm

theorem valueStep_of_isDigit (items : Reader (List Document))
    (fields : Reader (List (Option String × Document))) {head : Char}
    (digit : Text.isDigit head = true) (tail : List Char) :
    valueStep items fields (head :: tail) = readNumber false (head :: tail) := by
  unfold valueStep
  split
  all_goals try
    next same =>
      cases same
      cases digit
  rfl

theorem enclosed_extends {α : Type} {closing : Char} {wrap : List α → Bool → Document}
    {inside otherInside : Reader (List α)} (extending : Extends inside otherInside) :
    Extends (enclosed closing wrap inside) (enclosed closing wrap otherInside) := by
  intro characters value rest found
  have fewer := length_skipGap characters
  unfold enclosed at found ⊢
  by_cases closed : (skipGap characters).head? = some closing
  · rw [if_pos closed] at found
    obtain ⟨rfl, last⟩ := Prod.mk.inj found
    obtain rfl := Option.some.inj last
    have solid : skipGap characters ≠ [] := by
      intro empty
      simp [empty] at closed
    obtain ⟨head, tail, begins⟩ := List.exists_cons_of_ne_nil solid
    rw [begins] at closed fewer ⊢
    refine ⟨fewer, fun more _ => ?_⟩
    rw [skipGap_append solid, begins]
    exact if_pos closed
  · rw [if_neg closed] at found
    obtain ⟨rfl, inner⟩ := Prod.mk.inj found
    obtain ⟨shorter, longer⟩ := extending _ _ _ (Prod.ext rfl inner)
    have solid : skipGap characters ≠ [] := by
      intro empty
      rw [empty] at shorter
      exact Nat.not_lt_zero _ shorter
    obtain ⟨head, tail, begins⟩ := List.exists_cons_of_ne_nil solid
    refine ⟨shorter.trans_le fewer, fun more stops => ?_⟩
    have unclosed : (skipGap characters ++ more).head? ≠ some closing := by
      rwa [begins] at closed ⊢
    rw [skipGap_append solid, if_neg unclosed, longer more stops, inner]
    rfl

theorem valueStep_extends {items otherItems : Reader (List Document)}
    {fields otherFields : Reader (List (Option String × Document))}
    (extendsItems : Extends items otherItems) (extendsFields : Extends fields otherFields) :
    Extends (valueStep items fields) (valueStep otherItems otherFields) := by
  intro characters value rest found
  unfold valueStep at found
  split at found
  case h_1 =>
    obtain ⟨shorter, longer⟩ := takeWord_append found
    exact ⟨Nat.lt_succ_of_le shorter, fun more _ => longer more⟩
  case h_2 =>
    obtain ⟨shorter, longer⟩ := takeWord_append found
    exact ⟨Nat.lt_succ_of_le shorter, fun more _ => longer more⟩
  case h_3 =>
    obtain ⟨shorter, longer⟩ := takeWord_append found
    exact ⟨Nat.lt_succ_of_le shorter, fun more _ => longer more⟩
  case h_4 inner =>
    cases read : readString (inner.length + 1) (some []) inner with
    | none => simp [read] at found
    | some result =>
        obtain ⟨text, left⟩ := result
        obtain ⟨shorter, longer⟩ := readString_append read
        obtain rfl : left = rest := by cases text <;> simp_all
        refine ⟨Nat.lt_succ_of_lt shorter, fun more _ => ?_⟩
        have whole := longer more.length more
        rw [Nat.add_right_comm, ← List.length_append] at whole
        rw [read] at found
        rw [List.cons_append, valueStep, whole]
        cases text <;> cases found <;> rfl
  case h_5 =>
    obtain ⟨shorter, longer⟩ := enclosed_extends extendsItems _ _ _ found
    exact ⟨Nat.lt_succ_of_lt shorter, longer⟩
  case h_6 =>
    obtain ⟨shorter, longer⟩ := enclosed_extends extendsFields _ _ _ found
    exact ⟨Nat.lt_succ_of_lt shorter, longer⟩
  case h_7 =>
    obtain ⟨shorter, longer⟩ := readNumber_append found
    exact ⟨Nat.lt_succ_of_lt shorter, longer⟩
  case h_8 =>
    obtain ⟨head, tail, rfl, digit⟩ := exists_digit_of_readNumber found
    obtain ⟨shorter, longer⟩ := readNumber_append found
    refine ⟨shorter, fun more stops => ?_⟩
    rw [List.cons_append, valueStep_of_isDigit _ _ digit]
    exact longer more stops

theorem following_extends {α : Type} {closing : Char} {inside otherInside : Reader (List α)}
    (extending : Extends inside otherInside) (entry : α) :
    Extends (following closing inside entry) (following closing otherInside entry) := by
  intro characters entries rest found
  have fewer := length_skipGap characters
  unfold following at found ⊢
  rcases gap : skipGap characters with _ | ⟨head, tail⟩
  · simp [gap] at found
  · have joined (more : List Char) : skipGap (characters ++ more) = head :: (tail ++ more) := by
      rw [skipGap_append (by rw [gap]; exact List.cons_ne_nil _ _), gap, List.cons_append]
    rw [gap] at found fewer
    dsimp only at found
    simp only [joined]
    by_cases closed : head = closing
    · rw [if_pos closed] at found
      cases found
      exact ⟨fewer, fun more _ => if_pos closed⟩
    · rw [if_neg closed] at found
      split at found
      · next comma =>
          obtain ⟨rfl, inner⟩ := Prod.mk.inj found
          obtain ⟨shorter, longer⟩ := extending _ _ _ (Prod.ext rfl inner)
          have less := length_skipGap tail
          rw [List.length_cons] at fewer
          refine ⟨by omega, fun more stops => ?_⟩
          have solid : skipGap tail ≠ [] := by
            intro empty
            rw [empty] at shorter
            exact Nat.not_lt_zero _ shorter
          have entered : head = ',' ∧ (skipGap (tail ++ more)).head? ≠ some closing := by
            obtain ⟨first, others, begins⟩ := List.exists_cons_of_ne_nil solid
            rw [skipGap_append solid, begins]
            rw [begins] at comma
            exact comma
          rw [if_neg closed, if_pos entered, skipGap_append solid, longer more stops]
      · cases found

theorem itemsStep_extends {value otherValue : Reader Document}
    {items otherItems : Reader (List Document)} (extendsValue : Extends value otherValue)
    (extendsItems : Extends items otherItems) :
    Extends (itemsStep value items) (itemsStep otherValue otherItems) := by
  intro characters documents rest found
  unfold itemsStep at found ⊢
  rcases first : value characters with ⟨item, _ | afterItem⟩
  · simp [first] at found
  · rw [first] at found
    obtain ⟨shorter, longer⟩ := extendsValue _ _ _ first
    obtain ⟨shortest, longest⟩ := following_extends extendsItems item _ _ _ found
    refine ⟨shortest.trans shorter, fun more stops => ?_⟩
    have solid : afterItem ≠ [] := List.ne_nil_of_length_pos (by omega)
    rw [longer more fun empty => absurd empty solid]
    exact longest more stops

theorem fieldsStep_extends {value otherValue : Reader Document}
    {fields otherFields : Reader (List (Option String × Document))}
    (extendsValue : Extends value otherValue) (extendsFields : Extends fields otherFields) :
    Extends (fieldsStep value fields) (fieldsStep otherValue otherFields) := by
  intro characters entries rest found
  unfold fieldsStep at found
  split at found
  · next inner =>
    cases read : readString (inner.length + 1) (some []) inner with
    | none => simp [read] at found
    | some key =>
        obtain ⟨key, afterKey⟩ := key
        obtain ⟨keyShorter, keyLonger⟩ := readString_append read
        rw [read] at found
        dsimp only at found
        split at found
        · next afterColon gap =>
            have fewer := length_skipGap afterKey
            rw [gap, List.length_cons] at fewer
            rcases first : value afterColon with ⟨document, _ | left⟩
            · simp [first] at found
            · rw [first] at found
              obtain ⟨shorter, longer⟩ := extendsValue _ _ _ first
              obtain ⟨shortest, longest⟩ := following_extends extendsFields _ _ _ _ found
              refine ⟨by rw [List.length_cons]; omega, fun more stops => ?_⟩
              have whole := keyLonger more.length more
              rw [Nat.add_right_comm, ← List.length_append] at whole
              have solid : left ≠ [] := List.ne_nil_of_length_pos (by omega)
              have joined : skipGap (afterKey ++ more) = ':' :: (afterColon ++ more) := by
                rw [skipGap_append (by rw [gap]; exact List.cons_ne_nil _ _), gap,
                  List.cons_append]
              rw [List.cons_append, fieldsStep, whole]
              dsimp only
              rw [joined]
              change (match otherValue (afterColon ++ more) with
                | (value, none) => ([(key, value)], none)
                | (value, some rest) => following '\x7d' otherFields (key, value) rest) = _
              rw [longer more fun empty => absurd empty solid]
              exact longest more stops
        · cases found
  · cases found

/-! ### All readers -/

/-- With more fuel the readers find the same, whatever follows. -/
theorem readers_extend (fuel extra : Nat) :
    Extends (readValue fuel) (readValue (fuel + extra)) ∧
      Extends (readItems fuel) (readItems (fuel + extra)) ∧
      Extends (readFields fuel) (readFields (fuel + extra)) := by
  induction fuel with
  | zero =>
      refine ⟨?_, ?_, ?_⟩
      · intro characters value rest found
        cases found
      · intro characters value rest found
        cases found
      · intro characters value rest found
        cases found
  | succ fuel ih =>
      obtain ⟨values, items, fields⟩ := ih
      rw [Nat.add_right_comm]
      refine ⟨?_, ?_, ?_⟩
      · intro characters value rest found
        rw [readValue_succ] at found
        obtain ⟨shorter, longer⟩ := valueStep_extends items fields _ _ _ found
        have solid : skipGap characters ≠ [] := List.ne_nil_of_length_pos (by omega)
        refine ⟨shorter.trans_le (length_skipGap characters), fun more stops => ?_⟩
        rw [readValue_succ, skipGap_append solid]
        exact longer more stops
      · rw [readItems_succ, readItems_succ]
        exact itemsStep_extends values items
      · rw [readFields_succ, readFields_succ]
        exact fieldsStep_extends values fields

/-- Fuel for twice the length of the characters is enough. -/
theorem readers_agree (fuel extra : Nat) :
    (∀ characters : List Char, 2 * characters.length + 1 ≤ fuel →
      readValue (fuel + extra) characters = readValue fuel characters) ∧
    (∀ characters : List Char, 2 * characters.length + 2 ≤ fuel →
      readItems (fuel + extra) characters = readItems fuel characters) ∧
    (∀ characters : List Char, 2 * characters.length + 2 ≤ fuel →
      readFields (fuel + extra) characters = readFields fuel characters) := by
  induction fuel with
  | zero => exact ⟨nofun, nofun, nofun⟩
  | succ fuel ih =>
      obtain ⟨values, items, fields⟩ := ih
      have shortens := (readers_extend (fuel + extra) 0).1.shortens
      rw [Nat.add_right_comm]
      refine ⟨?_, ?_, ?_⟩
      · intro characters enough
        have fewer := length_skipGap characters
        rw [readValue_succ, readValue_succ]
        refine valueStep_congr _ (fun inner short => ?_) (fun inner short => ?_)
        · exact items inner (by omega)
        · exact fields inner (by omega)
      · intro characters enough
        rw [readItems_succ, readItems_succ]
        refine itemsStep_congr shortens characters ?_ (fun inner short => ?_)
        · exact values characters (by omega)
        · exact items inner (by omega)
      · intro characters enough
        rw [readFields_succ, readFields_succ]
        refine fieldsStep_congr shortens characters (fun inner short => ?_) (fun inner short => ?_)
        · exact values inner (by omega)
        · exact fields inner (by omega)

/-! ### What is enclosed -/

/-- Characters that are read as a key, up to the colon. -/
def IsKey (characters : List Char) (key : Option String) : Prop :=
  ∃ before written after, characters = before ++ '"' :: (written ++ (after ++ [':'])) ∧
    skipGap before = [] ∧ skipGap after = [] ∧
    readString (written.length + 1) (some []) written = some (key, [])

theorem skipGap_skipGap (characters : List Char) :
    skipGap (skipGap characters) = skipGap characters :=
  List.dropWhile_idempotent isGap characters

theorem skipGap_append_of_eq_nil {characters : List Char} (blank : skipGap characters = [])
    (more : List Char) : skipGap (characters ++ more) = skipGap more := by
  unfold skipGap at blank ⊢
  rw [List.dropWhile_append, blank]
  rfl

theorem readValue_skipGap (fuel : Nat) (characters : List Char) :
    readValue fuel (skipGap characters) = readValue fuel characters := by
  cases fuel with
  | zero => rfl
  | succ fuel => rw [readValue_succ, readValue_succ, skipGap_skipGap]

theorem readItems_skipGap (fuel : Nat) (characters : List Char) :
    readItems fuel (skipGap characters) = readItems fuel characters := by
  cases fuel with
  | zero => rfl
  | succ fuel => rw [readItems_succ, itemsStep, itemsStep, readValue_skipGap]

/-- Reads the fields of an object from the blanks in front of the first key. -/
def openedFields (fuel : Nat) : Reader (List (Option String × Document)) :=
  fun characters => readFields fuel (skipGap characters)

/-- Something other than a closing character comes first. -/
def Opens (closing : Char) (characters : List Char) : Prop :=
  ∃ head tail, skipGap characters = head :: tail ∧ head ≠ closing

theorem Opens.append {closing : Char} {characters : List Char} (opens : Opens closing characters)
    (more : List Char) : Opens closing (characters ++ more) := by
  obtain ⟨head, tail, begins, other⟩ := opens
  refine ⟨head, tail ++ more, ?_, other⟩
  rw [skipGap_append (by rw [begins]; exact List.cons_ne_nil _ _), begins, List.cons_append]

theorem Opens.head?_ne {closing : Char} {characters : List Char}
    (opens : Opens closing characters) : (skipGap characters).head? ≠ some closing := by
  obtain ⟨head, tail, begins, other⟩ := opens
  rw [begins]
  exact fun same => other (Option.some.inj same)

theorem IsKey.opens {characters : List Char} {key : Option String} (isKey : IsKey characters key) :
    Opens '\x7d' characters := by
  obtain ⟨before, written, after, rfl, blank, -⟩ := isKey
  exact ⟨'"', written ++ (after ++ [':']), skipGap_append_of_eq_nil blank _, by decide⟩

section Entries

variable {α : Type} {closing : Char} {inside : Nat → Reader (List α)} {name : List Char}
  {entry : Document → α}

/-- An entry is read as its value, which stands behind its name. Items have an empty name. -/
def Enters (closing : Char) (inside : Nat → Reader (List α)) (name : List Char)
    (entry : Document → α) : Prop :=
  ∀ fuel characters, inside (fuel + 1) (name ++ characters) =
    match readValue fuel characters with
    | (document, none) => ([entry document], none)
    | (document, some rest) => following closing (inside fuel) (entry document) rest

/-- Blanks in front of the first entry do not count. -/
def Skips (inside : Nat → Reader (List α)) : Prop :=
  ∀ fuel characters, inside fuel (skipGap characters) = inside fuel characters

theorem enters_readItems : Enters ']' readItems [] id := by
  intro fuel characters
  rw [readItems_succ, itemsStep]
  rfl

theorem following_openedFields (fuel : Nat) (field : Option String × Document)
    (characters : List Char) :
    following '\x7d' (openedFields fuel) field characters =
      following '\x7d' (readFields fuel) field characters := by
  simp only [following, openedFields, skipGap_skipGap]

theorem enters_openedFields {key : Option String} (isKey : IsKey name key) :
    Enters '\x7d' openedFields name fun document => (key, document) := by
  obtain ⟨before, written, after, rfl, blank, gap, quoted⟩ := isKey
  intro fuel characters
  have opened : skipGap (before ++ '"' :: (written ++ (after ++ [':'])) ++ characters) =
      '"' :: (written ++ (after ++ ':' :: characters)) := by
    rw [List.append_assoc, skipGap_append_of_eq_nil blank]
    simp [skipGap, isGap]
  have read := (readString_append quoted).2 (after ++ ':' :: characters).length
    (after ++ ':' :: characters)
  rw [Nat.add_right_comm, ← List.length_append] at read
  have colon : skipGap (after ++ ':' :: characters) = ':' :: characters :=
    skipGap_append_of_eq_nil gap _
  rw [openedFields, readFields_succ, opened, fieldsStep, read]
  dsimp only
  rw [List.nil_append, colon]
  simp only [following_openedFields]

theorem enclosed_of_opens {wrap : List α → Bool → Document} {fuel : Nat}
    {characters : List Char} (opens : Opens closing characters) (skips : Skips inside) :
    enclosed closing wrap (inside fuel) characters =
      (wrap (inside fuel characters).1 (inside fuel characters).2.isSome,
        (inside fuel characters).2) := by
  rw [enclosed, if_neg opens.head?_ne, skips]

end Entries

theorem openedFields_skipGap (fuel : Nat) (characters : List Char) :
    openedFields fuel (skipGap characters) = openedFields fuel characters := by
  rw [openedFields, openedFields, skipGap_skipGap]

theorem enclosed_openedFields (fuel : Nat) (characters : List Char) :
    enclosed '\x7d' .object (openedFields fuel) characters =
      enclosed '\x7d' .object (readFields fuel) characters := by
  simp only [enclosed, openedFields, skipGap_skipGap]

end LightningGateway.Document
