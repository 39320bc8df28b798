import Mathlib.Data.String.Basic
import Mathlib.Logic.Function.Basic
import LightningGateway.Label
import LightningGateway.Proofs.Numerals

/-!
# Labels for many callers

Any number of callers may want an identifier at once. Each reads its clock, looks at the last
identifier in one step, and takes its own in another one, if nobody was faster. Between two steps of
a caller the others may take any number of theirs, and the clocks may stand still or go back. Still,
no identifier is given twice, and every identifier is greater than all that were given before its
caller came.
-/

namespace LightningGateway

/-! ### Numerals of the same width -/

namespace Text

/-- Of two lists of as many digits the one that goes on from a smaller number is smaller. -/
theorem ofDigitChars_lt_of_start_lt {first second : List Char}
    (width : first.length = second.length) (numeric : ∀ digit ∈ first, digit.isDigit)
    {start other : Nat} (smaller : start < other) :
    Nat.ofDigitChars 10 first start < Nat.ofDigitChars 10 second other := by
  induction first generalizing second start other with
  | nil =>
      obtain rfl : second = [] := List.eq_nil_of_length_eq_zero width.symm
      exact smaller
  | cons head rest ih =>
      cases second with
      | nil => cases width
      | cons next others =>
          obtain ⟨digit, numeric⟩ := List.forall_mem_cons.mp numeric
          have between := between_of_isDigit digit
          have zero : '0'.toNat = 48 := rfl
          rw [Nat.ofDigitChars_cons, Nat.ofDigitChars_cons, zero]
          exact ih (Nat.succ.inj width) numeric (by omega)

/-- Lists of as many digits are ordered as the numbers that they give. -/
theorem lt_iff_ofDigitChars_lt {first second : List Char} (width : first.length = second.length)
    (numeric : ∀ digit ∈ first, digit.isDigit) (also : ∀ digit ∈ second, digit.isDigit)
    (start : Nat) :
    first < second ↔
      Nat.ofDigitChars 10 first start < Nat.ofDigitChars 10 second start := by
  induction first generalizing second start with
  | nil =>
      obtain rfl : second = [] := List.eq_nil_of_length_eq_zero width.symm
      simp
  | cons head rest ih =>
      cases second with
      | nil => cases width
      | cons next others =>
          obtain ⟨digit, restNumeric⟩ := List.forall_mem_cons.mp numeric
          obtain ⟨nextDigit, othersNumeric⟩ := List.forall_mem_cons.mp also
          have between := between_of_isDigit digit
          have nextBetween := between_of_isDigit nextDigit
          have zero : '0'.toNat = 48 := rfl
          have same_width : rest.length = others.length := Nat.succ.inj width
          rw [List.cons_lt_cons_iff, Nat.ofDigitChars_cons, Nat.ofDigitChars_cons, zero]
          rcases lt_trichotomy head.toNat next.toNat with less | same | greater
          · exact iff_of_true (.inl less)
              (ofDigitChars_lt_of_start_lt same_width restNumeric (by omega))
          · obtain rfl : head = next := Char.toNat_inj.mp same
            simpa using ih same_width restNumeric othersNumeric _
          · have later : Nat.ofDigitChars 10 others (10 * start + (next.toNat - 48)) <
                Nat.ofDigitChars 10 rest (10 * start + (head.toNat - 48)) :=
              ofDigitChars_lt_of_start_lt same_width.symm othersNumeric (by omega)
            refine iff_of_false ?_ (lt_asymm later)
            rintro (less | ⟨rfl, -⟩)
            · exact lt_asymm greater less
            · exact lt_irrefl _ greater

theorem append_lt_append_iff (start first second : List Char) :
    start ++ first < start ++ second ↔ first < second := by
  induction start with
  | nil => rfl
  | cons head rest ih => simp [ih]

theorem toList_paddedNumeral (width value : Nat) :
    (paddedNumeral width value).toList =
      List.replicate (width - (digits value).length) '0' ++ digits value := by
  rw [paddedNumeral, String.toList_ofList]

theorem isDigit_of_mem_paddedNumeral {width value : Nat} {character : Char}
    (member : character ∈ (paddedNumeral width value).toList) : character.isDigit := by
  rw [toList_paddedNumeral] at member
  rcases List.mem_append.mp member with filling | digit
  · obtain rfl := (List.mem_replicate.mp filling).2
    rfl
  · exact isDigit_of_mem_digits digit

/-- The zeros in front do not change the number. -/
theorem ofDigitChars_paddedNumeral (width value : Nat) :
    Nat.ofDigitChars 10 (paddedNumeral width value).toList 0 = value := by
  have zeros (count : Nat) : Nat.ofDigitChars 10 (List.replicate count '0') 0 = 0 := by
    induction count with
    | zero => rfl
    | succ count ih =>
        rw [List.replicate_succ, Nat.ofDigitChars_cons]
        exact ih
  rw [toList_paddedNumeral, Nat.ofDigitChars_append, zeros]
  exact Nat.ofDigitChars_ten_toDigits

theorem length_paddedNumeral {width value : Nat} (fits : (digits value).length ≤ width) :
    (paddedNumeral width value).toList.length = width := by
  rw [toList_paddedNumeral, List.length_append, List.length_replicate]
  omega

theorem paddedNumeral_lt_iff {width first second : Nat} (fits : (digits first).length ≤ width)
    (also : (digits second).length ≤ width) :
    (paddedNumeral width first).toList < (paddedNumeral width second).toList ↔
      first < second := by
  have width := (length_paddedNumeral fits).trans (length_paddedNumeral also).symm
  rw [lt_iff_ofDigitChars_lt width (fun _ => isDigit_of_mem_paddedNumeral)
      (fun _ => isDigit_of_mem_paddedNumeral) 0,
    ofDigitChars_paddedNumeral, ofDigitChars_paddedNumeral]

end Text

namespace Label

/-! ### The texts of labels -/

theorem toList_text (identifier : Nat) :
    (text identifier).toList =
      "lnfacade-".toList ++ (Text.paddedNumeral 13 identifier).toList := by
  rw [text, String.toList_append]

theorem text_injective : Function.Injective text := by
  intro first second same
  have numerals : (Text.paddedNumeral 13 first).toList = (Text.paddedNumeral 13 second).toList := by
    rw [← List.append_cancel_left_eq "lnfacade-".toList, ← toList_text, ← toList_text, same]
  rw [← Text.ofDigitChars_paddedNumeral 13 first, numerals, Text.ofDigitChars_paddedNumeral]

/-- The bound of the identifiers whose labels have thirteen digits. -/
def sortable : Nat := 10000000000000

theorem length_digits_of_sortable {identifier : Nat} (small : identifier < sortable) :
    (Text.digits identifier).length ≤ 13 :=
  (Nat.length_toDigits_le_iff (by decide) (by decide)).mpr small

/-- Labels with thirteen digits sort in the order of their identifiers. -/
theorem text_lt_text_iff {first second : Nat} (small : first < sortable)
    (also : second < sortable) : text first < text second ↔ first < second := by
  rw [String.lt_iff_toList_lt, toList_text, toList_text,
    ← Text.paddedNumeral_lt_iff (length_digits_of_sortable small) (length_digits_of_sortable also)]
  exact Text.append_lt_append_iff _ _ _

/-! ### Callers at once -/

/-- What may happen next. -/
inductive Move (ν : Type) where
  /-- A caller comes and reads its clock. -/
  | arrive (now : ν)
  /-- The caller at a place makes a step, if there is one. -/
  | proceed (place : Nat) (spurious : Bool)
  deriving Repr, BEq, DecidableEq

/-- The reading of the clock of a caller that comes. -/
def Move.reading? : Move Nat → Option Nat
  | arrive now => some now
  | proceed _ _ => none

def Caller.reading : Caller Nat → Nat
  | arrived now | looked now _ | served now _ => now

def Caller.identifier? : Caller Nat → Option Nat
  | served _ identifier => some identifier
  | arrived _ | looked _ _ => none

/-- The last identifier with all who have come for one. -/
structure Shared (ν : Type) where
  last : ν
  callers : List (Caller ν)
  deriving Repr, BEq, DecidableEq

namespace Shared

/-- What becomes of all after a move, given what follows an identifier. -/
def moved {ν : Type} [DecidableEq ν] (follows : ν → ν → ν) (shared : Shared ν) :
    Move ν → Shared ν
  | .arrive now => { shared with callers := shared.callers ++ [.arrived now] }
  | .proceed place spurious =>
      match shared.callers[place]? with
      | none => shared
      | some caller =>
          let stepped := step follows shared.last spurious caller
          ⟨stepped.1, shared.callers.set place stepped.2⟩

def next : Shared Nat → Move Nat → Shared Nat := moved following

def run (shared : Shared Nat) (moves : List (Move Nat)) : Shared Nat :=
  moves.foldl next shared

/-- The run in words of 64 bits. -/
def runWords (shared : Shared UInt64) (moves : List (Move UInt64)) : Shared UInt64 :=
  moves.foldl (moved followingWord) shared

/-- What the caller at a place was given, if it has come to that. -/
def identifier? (shared : Shared Nat) (place : Nat) : Option Nat :=
  shared.callers[place]?.bind Caller.identifier?

/-- What a move can do: nobody is given anything, or one caller that had nothing is given the
identifier that follows the last one at the reading of its clock. -/
inductive Change (shared changed : Shared Nat) : Prop where
  | quiet (last : changed.last = shared.last) (same : changed.identifier? = shared.identifier?)
  | given (place now : Nat) (reading : (shared.callers.map Caller.reading)[place]? = some now)
      (waiting : shared.identifier? place = none) (last : changed.last = following shared.last now)
      (others : changed.identifier? =
        Function.update shared.identifier? place (some (following shared.last now)))

variable {shared : Shared Nat}

theorem identifier?_arrive (now : Nat) : (shared.next (.arrive now)).identifier? =
    shared.identifier? := by
  funext place
  rw [identifier?, next, moved, identifier?]
  rcases Nat.lt_trichotomy place shared.callers.length with before | rfl | after
  · rw [List.getElem?_append_left before]
  · simp [Caller.identifier?]
  · have outside : (shared.callers ++ [Caller.arrived now]).length ≤ place := by
      simpa using Nat.succ_le_of_lt after
    rw [List.getElem?_eq_none outside, List.getElem?_eq_none after.le]

theorem identifier?_set {place : Nat} (within : place < shared.callers.length) (last : Nat)
    (caller : Caller Nat) : identifier? ⟨last, shared.callers.set place caller⟩ =
      Function.update shared.identifier? place caller.identifier? := by
  funext other
  rw [identifier?]
  by_cases same : other = place
  · subst same
    simp [List.getElem?_set_self within]
  · rw [Function.update_of_ne same, List.getElem?_set_ne (Ne.symm same), identifier?]

/-- A caller that is given nothing by its step leaves everybody with what they had. -/
theorem change_of_quiet {place : Nat} {caller stepped : Caller Nat}
    (present : shared.callers[place]? = some caller)
    (same : stepped.identifier? = caller.identifier?) :
    shared.Change ⟨shared.last, shared.callers.set place stepped⟩ := by
  obtain ⟨within, -⟩ := List.getElem?_eq_some_iff.mp present
  refine .quiet rfl ?_
  have had : shared.identifier? place = caller.identifier? := by rw [identifier?, present]; rfl
  rw [identifier?_set within, same, ← had, Function.update_eq_self]

theorem change_next (shared : Shared Nat) (move : Move Nat) : shared.Change (shared.next move) := by
  cases move with
  | arrive now => exact .quiet rfl (identifier?_arrive now)
  | proceed place spurious =>
      rw [next, moved]
      cases present : shared.callers[place]? with
      | none => exact .quiet rfl rfl
      | some caller =>
          cases caller with
          | arrived now => exact change_of_quiet present rfl
          | served now identifier => exact change_of_quiet present rfl
          | looked now seen =>
              dsimp only [step]
              split
              next free =>
                obtain ⟨within, -⟩ := List.getElem?_eq_some_iff.mp present
                rw [free.1]
                refine .given place now ?_ ?_ rfl (identifier?_set within _ _)
                · rw [List.getElem?_map, present]
                  rfl
                · rw [identifier?, present]
                  rfl
              next => exact change_of_quiet present rfl

/-! ### What moves keep -/

/-- Identifiers only grow, and nobody's changes. -/
structure Follows (earlier later : Shared Nat) : Prop where
  last_le : earlier.last ≤ later.last
  kept : ∀ place identifier, earlier.identifier? place = some identifier →
    later.identifier? place = some identifier
  fresh : ∀ place identifier, later.identifier? place = some identifier →
    earlier.identifier? place = some identifier ∨ earlier.last < identifier

theorem Follows.refl (shared : Shared Nat) : shared.Follows shared where
  last_le := le_rfl
  kept _ _ := id
  fresh _ _ := .inl

theorem Follows.trans {earlier middle later : Shared Nat} (first : earlier.Follows middle)
    (second : middle.Follows later) : earlier.Follows later where
  last_le := first.last_le.trans second.last_le
  kept place identifier := second.kept place identifier ∘ first.kept place identifier
  fresh place identifier given := by
    rcases second.fresh place identifier given with before | after
    · exact first.fresh place identifier before
    · exact .inr (first.last_le.trans_lt after)

theorem last_lt_following (last now : Nat) : last < following last now :=
  Nat.lt_of_lt_of_le (Nat.lt_succ_self last) (le_max_right now (last + 1))

theorem now_le_following (last now : Nat) : now ≤ following last now :=
  le_max_left now (last + 1)

theorem Change.follows {changed : Shared Nat} (change : shared.Change changed) :
    shared.Follows changed := by
  cases change with
  | quiet last same =>
      refine ⟨last.ge, fun place identifier had => ?_, fun place identifier given => .inl ?_⟩
      · rwa [same]
      · rwa [← same]
  | given place now reading waiting last others =>
      refine ⟨last.symm ▸ (last_lt_following _ _).le, fun other identifier had => ?_,
        fun other identifier given => ?_⟩
      · rwa [others, Function.update_of_ne]
        rintro rfl
        rw [waiting] at had
        cases had
      · rw [others, Function.update_apply] at given
        split_ifs at given
        · cases given
          exact .inr (last_lt_following _ _)
        · exact .inl given

theorem follows_run (shared : Shared Nat) (moves : List (Move Nat)) :
    shared.Follows (shared.run moves) := by
  induction moves generalizing shared with
  | nil => exact .refl shared
  | cons move moves ih => exact (change_next shared move).follows.trans (ih _)

/-- The readings of the clocks of the callers that come, in the order of their coming. -/
def readings (moves : List (Move Nat)) : List Nat :=
  moves.filterMap Move.reading?

theorem reading_step (last : Nat) (spurious : Bool) (caller : Caller Nat) :
    (step following last spurious caller).2.reading = caller.reading := by
  cases caller with
  | arrived | served => rfl
  | looked now seen =>
      rw [step]
      split <;> rfl

theorem map_reading_next (shared : Shared Nat) (move : Move Nat) :
    (shared.next move).callers.map Caller.reading =
      shared.callers.map Caller.reading ++ readings [move] := by
  cases move with
  | arrive now => simp [next, moved, readings, Move.reading?, Caller.reading]
  | proceed place spurious =>
      simp only [next, moved, readings, Move.reading?, List.filterMap_cons, List.filterMap_nil,
        List.append_nil]
      cases present : shared.callers[place]? with
      | none => rfl
      | some caller =>
          obtain ⟨within, rfl⟩ := List.getElem?_eq_some_iff.mp present
          have kept := @List.set_getElem_self _ (shared.callers.map Caller.reading) place
            (by simpa using within)
          rw [List.getElem_map] at kept
          rw [List.map_set, reading_step, kept]

/-- The state of an identifier that was given to callers with some readings of their clocks. -/
structure Orderly (shared : Shared Nat) (readings : List Nat) : Prop where
  reading : shared.callers.map Caller.reading = readings
  /-- The last identifier was given to somebody, unless nobody was given one. -/
  source : shared.last = 0 ∨ ∃ place, shared.identifier? place = some shared.last
  last_le : ∀ place identifier, shared.identifier? place = some identifier →
    identifier ≤ shared.last
  since : ∀ place identifier, shared.identifier? place = some identifier →
    ∃ now, readings[place]? = some now ∧ now ≤ identifier
  distinct : ∀ place other identifier, shared.identifier? place = some identifier →
    shared.identifier? other = some identifier → place = other

theorem orderly_start : Orderly ⟨0, []⟩ [] := ⟨rfl, .inl rfl, nofun, nofun, nofun⟩

theorem Orderly.next {readings : List Nat} (orderly : shared.Orderly readings) (move : Move Nat) :
    (shared.next move).Orderly (readings ++ Shared.readings [move]) := by
  have prefixed {place now : Nat} (found : readings[place]? = some now) :
      (readings ++ Shared.readings [move])[place]? = some now :=
    List.getElem?_append_left (List.getElem?_eq_some_iff.mp found).1 ▸ found
  have reading := map_reading_next shared move
  rw [orderly.reading] at reading
  cases change_next shared move with
  | quiet last same =>
      refine ⟨reading, ?_, ?_, fun place identifier given => ?_, ?_⟩
      · rw [last, same]
        exact orderly.source
      · rw [last, same]
        exact orderly.last_le
      · rw [same] at given
        obtain ⟨now, found, since⟩ := orderly.since place identifier given
        exact ⟨now, prefixed found, since⟩
      · rw [same]
        exact orderly.distinct
  | given place now found waiting last others =>
      rw [orderly.reading] at found
      have earlier {other identifier : Nat} (elsewhere : other ≠ place)
          (given : (shared.next move).identifier? other = some identifier) :
          shared.identifier? other = some identifier := by
        rwa [others, Function.update_of_ne elsewhere] at given
      have here : (shared.next move).identifier? place = some (following shared.last now) := by
        rw [others, Function.update_self]
      have fresh {other identifier : Nat} (elsewhere : other ≠ place)
          (given : (shared.next move).identifier? other = some identifier) :
          identifier < following shared.last now :=
        (orderly.last_le other identifier (earlier elsewhere given)).trans_lt
          (last_lt_following _ _)
      refine ⟨reading, .inr ⟨place, last ▸ here⟩, fun other identifier given => ?_,
        fun other identifier given => ?_, fun one other identifier given also => ?_⟩
      · rw [last]
        by_cases same : other = place
        · subst same
          exact (Option.some.inj (given.symm.trans here)).le
        · exact (fresh same given).le
      · by_cases same : other = place
        · subst same
          obtain rfl := Option.some.inj (given.symm.trans here)
          exact ⟨now, prefixed found, now_le_following _ _⟩
        · obtain ⟨now, found, since⟩ := orderly.since other identifier (earlier same given)
          exact ⟨now, prefixed found, since⟩
      · by_cases first : one = place <;> by_cases second : other = place
        · exact first.trans second.symm
        · subst first
          obtain rfl := Option.some.inj (given.symm.trans here)
          exact absurd (fresh second also) (lt_irrefl _)
        · subst second
          obtain rfl := Option.some.inj (also.symm.trans here)
          exact absurd (fresh first given) (lt_irrefl _)
        · exact orderly.distinct one other identifier (earlier first given) (earlier second also)

theorem Orderly.run {readings : List Nat} (orderly : shared.Orderly readings)
    (moves : List (Move Nat)) : (shared.run moves).Orderly (readings ++ Shared.readings moves) := by
  induction moves generalizing shared readings with
  | nil =>
      rw [Shared.readings, List.filterMap_nil, List.append_nil]
      exact orderly
  | cons move moves ih =>
      have later := ih (orderly.next move)
      rw [List.append_assoc] at later
      have joined : Shared.readings [move] ++ Shared.readings moves =
          Shared.readings (move :: moves) := by
        rw [Shared.readings, Shared.readings, ← List.filterMap_append]
        rfl
      rwa [joined] at later

theorem length_callers_run (moves : List (Move Nat)) :
    (run ⟨0, []⟩ moves).callers.length = (readings moves).length := by
  have reading := (orderly_start.run moves).reading
  rw [List.nil_append] at reading
  rw [← reading, List.length_map]

end Shared

/-! ### Words of 64 bits -/

section Images

variable {ν μ : Type} (image : ν → μ)

/-- A caller with the images of its reading and its identifier. -/
def Caller.map : Caller ν → Caller μ
  | arrived now => .arrived (image now)
  | looked now last => .looked (image now) (image last)
  | served now identifier => .served (image now) (image identifier)

def Move.map : Move ν → Move μ
  | arrive now => .arrive (image now)
  | proceed place spurious => .proceed place spurious

def Shared.map (shared : Shared ν) : Shared μ :=
  ⟨image shared.last, shared.callers.map (Caller.map image)⟩

end Images

/-- What a caller takes for the last identifier. -/
def Caller.seen : Caller Nat → Nat
  | looked _ seen => seen
  | arrived _ | served _ _ => 0

namespace Shared

variable {shared : Shared Nat}

theorem seen_step_le {last : Nat} {caller : Caller Nat} (earlier : caller.seen ≤ last)
    (spurious : Bool) :
    (step following last spurious caller).2.seen ≤ (step following last spurious caller).1 := by
  cases caller with
  | arrived now => exact le_rfl
  | served now identifier => exact Nat.zero_le _
  | looked now seen =>
      rw [step]
      split
      · exact Nat.zero_le _
      · exact le_rfl

/-- Nobody has seen an identifier that comes after the last one. -/
theorem seen_le_last_next (earlier : ∀ caller ∈ shared.callers, caller.seen ≤ shared.last)
    (move : Move Nat) : ∀ caller ∈ (shared.next move).callers,
      caller.seen ≤ (shared.next move).last := by
  have grown := (change_next shared move).follows.last_le
  intro caller member
  cases move with
  | arrive now =>
      rcases List.mem_append.mp member with old | new
      · exact earlier caller old
      · obtain rfl := List.mem_singleton.mp new
        exact Nat.zero_le _
  | proceed place spurious =>
      rw [next, moved] at grown member ⊢
      cases present : shared.callers[place]? with
      | none =>
          rw [present] at member
          exact earlier caller member
      | some stepping =>
          simp only [present] at grown member ⊢
          rcases List.mem_or_eq_of_mem_set member with old | rfl
          · exact (earlier caller old).trans grown
          · exact seen_step_le (earlier stepping (List.mem_of_getElem? present)) spurious

theorem seen_le_last_run (earlier : ∀ caller ∈ shared.callers, caller.seen ≤ shared.last)
    (moves : List (Move Nat)) : ∀ caller ∈ (shared.run moves).callers,
      caller.seen ≤ (shared.run moves).last := by
  induction moves generalizing shared with
  | nil => exact earlier
  | cons move moves ih => exact ih (seen_le_last_next earlier move)

/-- Below the largest word the next identifier is computed in words without a carry. -/
theorem toNat_max_add_one {seen : UInt64} (small : seen.toNat < Bound.word64 - 1) (now : UInt64) :
    (max now (seen + 1)).toNat = following seen.toNat now.toNat := by
  have added : (seen + 1).toNat = seen.toNat + 1 := by
    rw [UInt64.toNat_add]
    exact Nat.mod_eq_of_lt (by simpa using Nat.add_lt_of_lt_sub small)
  rw [UInt64.toNat_max, added, following]

/-- A step in words is one in numbers, while the last identifier is below the largest word. -/
theorem toNat_step {last : UInt64} (small : last.toNat < Bound.word64 - 1) (spurious : Bool)
    (caller : Caller UInt64) :
    (step followingWord last spurious caller).map UInt64.toNat (Caller.map UInt64.toNat) =
      step following last.toNat spurious (caller.map UInt64.toNat) := by
  cases caller with
  | arrived | served => rfl
  | looked now seen =>
      by_cases taken : seen = last ∧ spurious = false
      · obtain ⟨rfl, rfl⟩ := taken
        have next : (followingWord seen now).toNat = following seen.toNat now.toNat :=
          toNat_max_add_one small now
        simp [step, Caller.map, next]
      · simp [step, Caller.map, taken, UInt64.toNat_inj]

theorem map_moved {shared : Shared UInt64} (small : shared.last.toNat < Bound.word64 - 1)
    (move : Move UInt64) :
    (shared.moved followingWord move).map UInt64.toNat =
      (shared.map UInt64.toNat).next (move.map UInt64.toNat) := by
  cases move with
  | arrive now => simp [Shared.map, Move.map, Caller.map, next, moved]
  | proceed place spurious =>
      cases present : shared.callers[place]? with
      | none => simp [Shared.map, Move.map, next, moved, present]
      | some caller =>
          have stepped := toNat_step small spurious caller
          simp [Shared.map, Move.map, next, moved, present, ← stepped, List.map_set]

/-- A run in words is one in numbers, if its last identifier stays below the largest word. -/
theorem map_runWords (shared : Shared UInt64) {moves : List (Move UInt64)}
    (small : ((shared.map UInt64.toNat).run (moves.map (Move.map UInt64.toNat))).last <
      Bound.word64 - 1) :
    (shared.runWords moves).map UInt64.toNat =
      (shared.map UInt64.toNat).run (moves.map (Move.map UInt64.toNat)) := by
  induction moves generalizing shared with
  | nil => rfl
  | cons move moves ih =>
      -- Identifiers only grow, so the bound on the last one holds all along.
      have below : shared.last.toNat < Bound.word64 - 1 :=
        (follows_run (shared.map UInt64.toNat) _).last_le.trans_lt small
      have first := map_moved below move
      rw [List.map_cons, run, List.foldl_cons, ← first] at small ⊢
      exact ih _ small

/-! ### Callers that are served -/

/-- A caller that makes two steps on end, of which none fails for no reason, has an identifier. -/
theorem isSome_identifier?_of_two_steps {place : Nat} (within : place < shared.callers.length) :
    ((shared.run [.proceed place false, .proceed place false]).identifier? place).isSome := by
  obtain ⟨caller, present⟩ : ∃ caller, shared.callers[place]? = some caller :=
    ⟨_, List.getElem?_eq_getElem within⟩
  have self {stepped : Caller Nat} : (shared.callers.set place stepped)[place]? = some stepped :=
    List.getElem?_set_self within
  cases caller with
  | arrived now => simp [run, next, moved, present, self, step, identifier?, Caller.identifier?]
  | served now identifier =>
      simp [run, next, moved, present, self, step, identifier?, Caller.identifier?]
  | looked now seen =>
      by_cases current : seen = shared.last
      · simp [run, next, moved, present, self, step, identifier?, Caller.identifier?, current]
      · simp [run, next, moved, present, self, step, identifier?, Caller.identifier?, current]

/-- The moves of callers that come one after another, from a place on. -/
def turns : Nat → List Nat → List (Move Nat)
  | _, [] => []
  | place, now :: rest =>
      .arrive now :: .proceed place false :: .proceed place false :: turns (place + 1) rest

theorem run_turn (shared : Shared Nat) (now : Nat) :
    shared.run [.arrive now, .proceed shared.callers.length false,
        .proceed shared.callers.length false] =
      ⟨following shared.last now,
        shared.callers ++ [.served now (following shared.last now)]⟩ := by
  simp [run, next, moved, step]

/-- Callers that come one after another are given what they are given without steps between. -/
theorem identifiers_of_turns (shared : Shared Nat) (nows : List Nat) :
    (shared.run (turns shared.callers.length nows)).callers.filterMap Caller.identifier? =
      shared.callers.filterMap Caller.identifier? ++ serve shared.last nows := by
  induction nows generalizing shared with
  | nil => simp [turns, run, serve]
  | cons now rest ih =>
      have first := run_turn shared now
      have later := ih ⟨following shared.last now,
        shared.callers ++ [.served now (following shared.last now)]⟩
      rw [← first] at later
      simp only [run, List.foldl_cons, List.foldl_nil, turns] at first later ⊢
      simpa [first, serve, Caller.identifier?] using later

end Shared

/-- Whatever the steps of the callers and the readings of their clocks are, no identifier is given
twice, each is greater than all that were given before its caller came, and none is below the
reading of its caller's clock. Their labels differ, and sort as the identifiers do as long as they
have thirteen digits. Nothing that is given is taken back, and a caller that makes two steps on end
has its identifier. As long as the identifiers stay below the largest word, the run in words of 64
bits is the same. -/
theorem identifiers_of_any_interleaving (before later : List (Move Nat)) :
    let earlier := Shared.run ⟨0, []⟩ before
    let final := Shared.run ⟨0, []⟩ (before ++ later)
    (∀ place other identifier, final.identifier? place = some identifier →
      final.identifier? other = some identifier → place = other) ∧
    (∀ place identifier, (Shared.readings before).length ≤ place →
      final.identifier? place = some identifier →
      ∀ other given, earlier.identifier? other = some given → given < identifier) ∧
    (∀ place identifier, final.identifier? place = some identifier →
      ∃ now, (Shared.readings (before ++ later))[place]? = some now ∧ now ≤ identifier) ∧
    (∀ place other first second, place ≠ other → final.identifier? place = some first →
      final.identifier? other = some second → text first ≠ text second) ∧
    (∀ first second, first < sortable → second < sortable →
      (text first < text second ↔ first < second)) ∧
    (∀ place identifier, earlier.identifier? place = some identifier →
      final.identifier? place = some identifier) ∧
    (∀ place, place < (Shared.readings before).length →
      ((earlier.run [.proceed place false, .proceed place false]).identifier? place).isSome) ∧
    ((∀ place identifier, final.identifier? place = some identifier →
        identifier < Bound.word64 - 1) →
      ∀ now seen : UInt64, .looked now.toNat seen.toNat ∈ final.callers →
        (max now (seen + 1)).toNat = following seen.toNat now.toNat) ∧
    ((∀ place identifier, final.identifier? place = some identifier →
        identifier < Bound.word64 - 1) →
      ∀ words : List (Move UInt64), words.map (Move.map UInt64.toNat) = before ++ later →
        (Shared.runWords ⟨0, []⟩ words).map UInt64.toNat = final) := by
  intro earlier final
  have ordered : earlier.Orderly (Shared.readings before) := Shared.orderly_start.run before
  have orderly : final.Orderly (Shared.readings (before ++ later)) :=
    Shared.orderly_start.run (before ++ later)
  have follows : earlier.Follows final := by
    have split : final = earlier.run later := List.foldl_append
    exact split ▸ Shared.follows_run earlier later
  have below (small : ∀ place identifier, final.identifier? place = some identifier →
      identifier < Bound.word64 - 1) : final.last < Bound.word64 - 1 := by
    rcases orderly.source with unused | ⟨place, given⟩
    · rw [unused]
      decide
    · exact small place _ given
  refine ⟨orderly.distinct, fun place identifier new given other known had => ?_, orderly.since,
    fun place other first second apart given also same => ?_,
    fun first second => text_lt_text_iff, follows.kept, fun place within => ?_,
    fun small now seen member => ?_, fun small words same => ?_⟩
  · rcases follows.fresh place identifier given with old | greater
    · have absent : earlier.callers[place]? = none :=
        List.getElem?_eq_none ((Shared.length_callers_run before).trans_le new)
      rw [Shared.identifier?, absent] at old
      cases old
    · exact (ordered.last_le other known had).trans_lt greater
  · exact apart (orderly.distinct place other first given (text_injective same ▸ also))
  · exact Shared.isSome_identifier?_of_two_steps
      (within.trans_eq (Shared.length_callers_run before).symm)
  · have seen_le : seen.toNat ≤ final.last :=
      Shared.seen_le_last_run (List.forall_mem_nil _) _ _ member
    exact Shared.toNat_max_add_one (seen_le.trans_lt (below small)) now
  · have bounded : (Shared.run ⟨0, []⟩ (words.map (Move.map UInt64.toNat))).last <
        Bound.word64 - 1 := by
      rw [same]
      exact below small
    exact (Shared.map_runWords ⟨0, []⟩ bounded).trans (congrArg (Shared.run ⟨0, []⟩) same)

/-- Two callers look at the same identifier. The first one to take its own makes the other look
again. A third caller comes later, with a clock that goes back, and once fails for no reason. -/
def crossingMoves : List (Move Nat) :=
  [.arrive 1000, .arrive 1000, .proceed 0 false, .proceed 1 false, .proceed 1 false,
    .proceed 0 false, .arrive 999, .proceed 2 false, .proceed 2 true, .proceed 2 false,
    .proceed 0 false, .proceed 0 false]

/-- The same moves, with the readings of the clocks in words of 64 bits. -/
def crossingWords : List (Move UInt64) :=
  crossingMoves.map (Move.map UInt64.ofNat)

theorem identifiers_of_crossing :
    let final := Shared.run ⟨0, []⟩ (crossingMoves.take 6 ++ crossingMoves.drop 6)
    (final.identifier? 0 = some 1002 ∧ final.identifier? 1 = some 1000 ∧
      final.identifier? 2 = some 1001) ∧
    (1000 < 1001 ∧ text 1000 ≠ text 1001 ∧ text 1000 < text 1001) ∧
    (∃ now, (Shared.readings crossingMoves)[2]? = some now ∧ now ≤ 1001) ∧
    (∀ place identifier, final.identifier? place = some identifier →
      identifier < Bound.word64 - 1) ∧
    (Shared.runWords ⟨0, []⟩ crossingWords).map UInt64.toNat = final := by
  intro final
  have given : final.identifier? 0 = some 1002 ∧ final.identifier? 1 = some 1000 ∧
      final.identifier? 2 = some 1001 := by decide
  obtain ⟨-, greater, since, apart, sorted, -, -, -, inWords⟩ :=
    identifiers_of_any_interleaving (crossingMoves.take 6) (crossingMoves.drop 6)
  have fresh : 1000 < 1001 := greater 2 1001 (by decide) given.2.2 1 1000 (by decide)
  have small : ∀ place identifier, final.identifier? place = some identifier →
      identifier < Bound.word64 - 1 := by
    rintro (_ | _ | _ | place) identifier found
    · cases given.1.symm.trans found
      decide
    · cases given.2.1.symm.trans found
      decide
    · cases given.2.2.symm.trans found
      decide
    · cases found
  exact ⟨given, ⟨fresh, apart 1 2 1000 1001 (by decide) given.2.1 given.2.2,
    (sorted 1000 1001 (by decide) (by decide)).mpr fresh⟩, since 2 1001 given.2.2, small,
    inWords small crossingWords (by decide)⟩

end Label

end LightningGateway
