import Mathlib.Data.List.Nodup
import Mathlib.Tactic.SplitIfs
import LightningGateway.Proofs.Sorting
import LightningGateway.Toml.Reader

/-!
# Keys of tables

A text may give a table piece by piece, but it never gives a key two values: in every table that
is read, at any depth, each key stands once.
-/

namespace LightningGateway.Toml

/-- In every table inside a value each key stands once. -/
inductive Value.Distinct : Value → Prop where
  | text (value : String) : Distinct (.text value)
  | integer (value : Int) : Distinct (.integer value)
  | float (value : Binary64.Reading) : Distinct (.float value)
  | boolean (value : Bool) : Distinct (.boolean value)
  | moment (written : String) : Distinct (.moment written)
  | array (headed : Bool) {items : List Value} (items_distinct : ∀ item ∈ items, Distinct item) :
      Distinct (.array headed items)
  | table (kind : TableKind) {entries : List (String × Value)}
      (keys_distinct : (entries.map Prod.fst).Nodup)
      (values_distinct : ∀ entry ∈ entries, Distinct entry.2) : Distinct (.table kind entries)

/-- Each key stands once, here and in every table below. -/
structure Entries.Distinct (entries : Entries) : Prop where
  keys : (entries.map Prod.fst).Nodup
  values : ∀ entry ∈ entries, entry.2.Distinct

theorem Value.distinct_table_iff {kind : TableKind} {entries : Entries} :
    (Value.table kind entries).Distinct ↔ entries.Distinct := by
  constructor
  · rintro ⟨⟩
    next keys values => exact ⟨keys, values⟩
  · rintro ⟨keys, values⟩
    exact .table kind keys values

theorem Value.distinct_array_iff {headed : Bool} {items : List Value} :
    (Value.array headed items).Distinct ↔ ∀ item ∈ items, item.Distinct := by
  constructor
  · rintro ⟨⟩
    assumption
  · exact .array headed

/-! ### Building tables -/

namespace Entries

variable {entries changed : Entries} {key : String} {value : Value}

theorem distinct_nil : Distinct [] := ⟨.nil, List.forall_mem_nil _⟩

theorem Distinct.append (distinct : entries.Distinct) (free : entries.lookup key = none)
    (whole : value.Distinct) : Distinct (entries ++ [(key, value)]) where
  keys := by
    have fresh := lookup_eq_none_iff_notMem.mp free
    rw [List.map_append, List.nodup_append]
    refine ⟨distinct.keys, by simp, ?_⟩
    rintro other member _ (_ | ⟨_, ⟨⟩⟩) rfl
    exact fresh member
  values := by
    intro entry member
    rcases List.mem_append.mp member with old | new
    · exact distinct.values entry old
    · obtain rfl := List.mem_singleton.mp new
      exact whole

theorem Distinct.of_lookup (distinct : entries.Distinct) (found : entries.lookup key = some value) :
    value.Distinct := by
  obtain ⟨before, after, rfl, -⟩ := List.lookup_eq_some_iff.mp found
  exact distinct.values (key, value) (by simp)

theorem mem_put {entry : String × Value} (member : entry ∈ put key value entries) :
    entry = (key, value) ∨ entry ∈ entries := by
  induction entries with
  | nil => exact .inl (List.mem_singleton.mp member)
  | cons first rest ih =>
      rw [put] at member
      split_ifs at member
      · exact (List.mem_cons.mp member).imp id (.tail first)
      · rcases List.mem_cons.mp member with rfl | later
        · exact .inr (.head rest)
        · exact (ih later).imp id (.tail first)

theorem Distinct.put (distinct : entries.Distinct) (whole : value.Distinct) :
    Distinct (put key value entries) where
  keys := by
    obtain ⟨keys, -⟩ := distinct
    induction entries with
    | nil => exact List.nodup_singleton key
    | cons first rest ih =>
        obtain ⟨fresh, keys⟩ := List.nodup_cons.mp keys
        rw [Entries.put]
        split_ifs with same
        · subst same
          exact List.nodup_cons.mpr ⟨fresh, keys⟩
        · refine List.nodup_cons.mpr ⟨fun member => ?_, ih keys⟩
          obtain ⟨entry, member, named⟩ := List.mem_map.mp member
          rcases mem_put member with rfl | old
          · exact same named.symm
          · exact fresh (named ▸ List.mem_map_of_mem old)
  values := by
    intro entry member
    rcases mem_put member with rfl | old
    · exact whole
    · exact distinct.values entry old

theorem Distinct.assign {parents : List String} (distinct : entries.Distinct)
    (whole : value.Distinct) (assigned : assign key value parents entries = some changed) :
    changed.Distinct := by
  induction parents generalizing entries changed with
  | nil =>
      rw [Entries.assign] at assigned
      split_ifs at assigned with taken
      cases assigned
      exact distinct.append (Option.not_isSome_iff_eq_none.mp taken) whole
  | cons parent rest ih =>
      rw [Entries.assign] at assigned
      cases found : entries.lookup parent with
      | none =>
          simp only [found, Option.map_eq_some_iff] at assigned
          obtain ⟨inner, made, rfl⟩ := assigned
          exact distinct.append found (Value.distinct_table_iff.mpr (ih distinct_nil made))
      | some old =>
          have below := distinct.of_lookup found
          cases old with
          | table kind inner =>
              simp only [found] at assigned
              split_ifs at assigned
              obtain ⟨inner, made, rfl⟩ := Option.map_eq_some_iff.mp assigned
              exact distinct.put (Value.distinct_table_iff.mpr
                (ih (Value.distinct_table_iff.mp below) made))
          | _ => simp [found] at assigned

theorem Distinct.assignAll {assignments : List Assignment} (distinct : entries.Distinct)
    (whole : ∀ assignment ∈ assignments, assignment.value.Distinct)
    (assigned : assignAll assignments entries = some changed) : changed.Distinct := by
  induction assignments generalizing entries with
  | nil =>
      cases assigned
      exact distinct
  | cons assignment rest ih =>
      obtain ⟨first, others⟩ := List.forall_mem_cons.mp whole
      obtain ⟨next, made, assigned⟩ := Option.bind_eq_some_iff.mp assigned
      exact ih (distinct.assign first made) others assigned

/-- A change of a value, if there is one, that keeps its keys apart. -/
def KeepsDistinct (change : Option Value → Option Value) : Prop :=
  ∀ before after, (∀ value, before = some value → value.Distinct) →
    change before = some after → after.Distinct

theorem keepsDistinct_headTable {body : List Assignment}
    (whole : ∀ assignment ∈ body, assignment.value.Distinct) : KeepsDistinct (headTable body) := by
  intro before after distinct changed
  rw [headTable.eq_def] at changed
  split at changed
  next =>
    obtain ⟨entries, made, rfl⟩ := Option.map_eq_some_iff.mp changed
    exact Value.distinct_table_iff.mpr (distinct_nil.assignAll whole made)
  next before =>
    obtain ⟨entries, made, rfl⟩ := Option.map_eq_some_iff.mp changed
    have old := Value.distinct_table_iff.mp (distinct _ rfl)
    exact Value.distinct_table_iff.mpr (old.assignAll whole made)
  next => cases changed

theorem keepsDistinct_headElement {body : List Assignment}
    (whole : ∀ assignment ∈ body, assignment.value.Distinct) :
    KeepsDistinct (headElement body) := by
  intro before after distinct changed
  rw [headElement.eq_def] at changed
  have element {entries : Entries} (made : assignAll body [] = some entries) :
      (Value.table .headed entries).Distinct :=
    Value.distinct_table_iff.mpr (distinct_nil.assignAll whole made)
  split at changed
  next =>
    obtain ⟨entries, made, rfl⟩ := Option.map_eq_some_iff.mp changed
    exact .array true (List.forall_mem_singleton.mpr (element made))
  next items =>
    obtain ⟨entries, made, rfl⟩ := Option.map_eq_some_iff.mp changed
    have old := Value.distinct_array_iff.mp (distinct _ rfl)
    exact .array true (List.forall_mem_append.mpr
      ⟨old, List.forall_mem_singleton.mpr (element made)⟩)
  next => cases changed

theorem distinct_changeLast {change : Entries → Option Entries} {items results : List Value}
    (kept : ∀ before after, before.Distinct → change before = some after → after.Distinct)
    (distinct : ∀ item ∈ items, item.Distinct) (changed : changeLast change items = some results) :
    ∀ item ∈ results, item.Distinct := by
  fun_induction changeLast change items generalizing results with
  | case1 => cases changed
  | case2 kind entries =>
      obtain ⟨after, made, rfl⟩ := Option.map_eq_some_iff.mp changed
      have old := Value.distinct_table_iff.mp (List.forall_mem_singleton.mp distinct)
      exact List.forall_mem_singleton.mpr (Value.distinct_table_iff.mpr (kept _ _ old made))
  | case3 => cases changed
  | case4 item rest _ _ ih =>
      obtain ⟨later, made, rfl⟩ := Option.map_eq_some_iff.mp changed
      obtain ⟨first, others⟩ := List.forall_mem_cons.mp distinct
      exact List.forall_mem_cons.mpr ⟨first, ih others made⟩

theorem Distinct.changeAt {change : Option Value → Option Value} (keeps : KeepsDistinct change)
    {parents : List String} (distinct : entries.Distinct)
    (reached : changeAt key change parents entries = some changed) : changed.Distinct := by
  induction parents generalizing entries changed with
  | nil =>
      obtain ⟨value, made, rfl⟩ := Option.map_eq_some_iff.mp reached
      exact distinct.put (keeps _ _ (fun _ found => distinct.of_lookup found) made)
  | cons parent rest ih =>
      rw [Entries.changeAt] at reached
      split at reached
      next free =>
        obtain ⟨inner, made, rfl⟩ := Option.map_eq_some_iff.mp reached
        exact distinct.append free (Value.distinct_table_iff.mpr (ih distinct_nil made))
      next => cases reached
      next kind inner _ found =>
        obtain ⟨after, made, rfl⟩ := Option.map_eq_some_iff.mp reached
        have old := Value.distinct_table_iff.mp (distinct.of_lookup found)
        exact distinct.put (Value.distinct_table_iff.mpr (ih old made))
      next items found =>
        obtain ⟨after, made, rfl⟩ := Option.map_eq_some_iff.mp reached
        have old := Value.distinct_array_iff.mp (distinct.of_lookup found)
        exact distinct.put (.array true (distinct_changeLast (fun _ _ => ih) old made))
      next => cases reached

theorem Distinct.addSections {sections : List Section} (distinct : entries.Distinct)
    (whole : ∀ part ∈ sections, ∀ assignment ∈ part.body, assignment.value.Distinct)
    (made : addSections sections entries = some changed) : changed.Distinct := by
  induction sections generalizing entries with
  | nil =>
      cases made
      exact distinct
  | cons part rest ih =>
      obtain ⟨body, others⟩ := List.forall_mem_cons.mp whole
      obtain ⟨next, added, made⟩ := Option.bind_eq_some_iff.mp made
      have keeps : KeepsDistinct
          (if part.isElement then headElement part.body else headTable part.body) := by
        split
        · exact keepsDistinct_headElement body
        · exact keepsDistinct_headTable body
      exact ih (distinct.changeAt keeps added) others made

end Entries

/-! ### Reading values -/

theorem distinct_withinRange {number : Int} {value : Value}
    (read : withinRange number = some value) : value.Distinct := by
  rw [withinRange] at read
  split_ifs at read
  cases read
  exact .integer number

theorem distinct_finite {reading : Option Binary64.Reading} {value : Value}
    (read : (do
      match ← reading with
      | .finite value => some (Value.float (.finite value))
      | _ => none) = some value) : value.Distinct := by
  obtain ⟨found, -, read⟩ := Option.bind_eq_some_iff.mp read
  split at read
  next finite =>
    cases read
    exact .float (.finite finite)
  next => cases read

theorem distinct_float? {negative : Bool} {characters : List Char} {value : Value}
    (read : float? negative characters = some value) : value.Distinct := by
  simp only [float?] at read
  split_ifs at read
  obtain ⟨whole, -, read⟩ := Option.bind_eq_some_iff.mp read
  split at read
  all_goals
    obtain ⟨fraction, -, read⟩ := Option.bind_eq_some_iff.mp read
    split at read
    all_goals
      obtain ⟨exponent, -, read⟩ := Option.bind_eq_some_iff.mp read
      exact distinct_finite read

theorem distinct_number? {negative : Bool} {characters : List Char} {value : Value}
    (read : number? negative characters = some value) : value.Distinct := by
  rw [number?] at read
  split at read
  next =>
    obtain ⟨number, -, read⟩ := Option.bind_eq_some_iff.mp read
    exact distinct_withinRange read
  next =>
    split_ifs at read
    · cases read
      exact .float .infinite
    · cases read
      exact .float .notANumber
    · exact distinct_float? read

theorem distinct_word? {word : List Char} {value : Value} (read : word? word = some value) :
    value.Distinct := by
  rw [word?.eq_def] at read
  split at read
  · cases read
    exact .boolean true
  · cases read
    exact .boolean false
  iterate 3
    · obtain ⟨number, -, read⟩ := Option.bind_eq_some_iff.mp read
      exact distinct_withinRange read
  · exact distinct_number? read
  · exact distinct_number? read
  · split_ifs at read
    · cases read
      exact .moment (String.ofList word)
    · exact distinct_number? read

/-- What is read with a bound on the recursion has distinct keys. -/
structure ReadsDistinct (fuel : Nat) : Prop where
  value : ∀ {depth characters value rest},
    readValue fuel depth characters = some (value, rest) → value.Distinct
  items : ∀ {depth characters items rest},
    readItems fuel depth characters = some (items, rest) → ∀ item ∈ items, item.Distinct
  pairs : ∀ {depth characters pairs rest},
    readPairs fuel depth characters = some (pairs, rest) → ∀ pair ∈ pairs, pair.value.Distinct
  pair : ∀ {depth characters pair rest},
    readPair fuel depth characters = some (pair, rest) → pair.value.Distinct

namespace ReadsDistinct

variable {fuel depth : Nat} {characters rest : List Char}

theorem value_succ (below : ReadsDistinct fuel) {value : Value}
    (read : readValue (fuel + 1) depth characters = some (value, rest)) : value.Distinct := by
  rw [readValue.eq_def] at read
  dsimp only at read
  split at read
  next => cases read
  next head tail =>
    split_ifs at read
    · obtain ⟨⟨text, after⟩, -, read⟩ := Option.map_eq_some_iff.mp read
      cases read
      exact .text text
    · obtain ⟨⟨items, after⟩, found, read⟩ := Option.map_eq_some_iff.mp read
      cases read
      exact .array false (below.items found)
    · split at read
      next pairs after found =>
        obtain ⟨entries, made, read⟩ := Option.map_eq_some_iff.mp read
        cases read
        exact Value.distinct_table_iff.mpr
          (Entries.distinct_nil.assignAll (below.pairs found) made)
      next => cases read
    · obtain ⟨word, found, read⟩ := Option.map_eq_some_iff.mp read
      cases read
      exact distinct_word? found

theorem items_succ (below : ReadsDistinct fuel) {items : List Value}
    (read : readItems (fuel + 1) depth characters = some (items, rest)) :
    ∀ item ∈ items, item.Distinct := by
  rw [readItems.eq_def] at read
  dsimp only at read
  split at read
  next => cases read
  next =>
    cases read
    exact List.forall_mem_nil _
  next =>
    split at read
    next => cases read
    next item after found =>
      split at read
      next =>
        cases read
        exact List.forall_mem_singleton.mpr (below.value found)
      next =>
        obtain ⟨⟨others, left⟩, later, read⟩ := Option.map_eq_some_iff.mp read
        cases read
        exact List.forall_mem_cons.mpr ⟨below.value found, below.items later⟩
      next => cases read

theorem pairs_succ (below : ReadsDistinct fuel) {pairs : List Assignment}
    (read : readPairs (fuel + 1) depth characters = some (pairs, rest)) :
    ∀ pair ∈ pairs, pair.value.Distinct := by
  rw [readPairs.eq_def] at read
  dsimp only at read
  split at read
  next => cases read
  next =>
    cases read
    exact List.forall_mem_nil _
  next =>
    split at read
    next => cases read
    next pair after found =>
      split at read
      next =>
        cases read
        exact List.forall_mem_singleton.mpr (below.pair found)
      next =>
        obtain ⟨⟨others, left⟩, later, read⟩ := Option.map_eq_some_iff.mp read
        cases read
        exact List.forall_mem_cons.mpr ⟨below.pair found, below.pairs later⟩
      next => cases read

theorem pair_succ (below : ReadsDistinct fuel) {pair : Assignment}
    (read : readPair (fuel + 1) depth characters = some (pair, rest)) : pair.value.Distinct := by
  rw [readPair.eq_def] at read
  dsimp only at read
  split at read
  next =>
    obtain ⟨⟨value, after⟩, found, read⟩ := Option.map_eq_some_iff.mp read
    cases read
    exact below.value found
  next => cases read

end ReadsDistinct

theorem readsDistinct (fuel : Nat) : ReadsDistinct fuel := by
  induction fuel with
  | zero =>
      exact ⟨by simp [readValue], by simp [readItems], by simp [readPairs], by simp [readPair]⟩
  | succ fuel below =>
      exact ⟨below.value_succ, below.items_succ, below.pairs_succ, below.pair_succ⟩

/-! ### Reading texts -/

/-- A line with an assignment gives a value with distinct keys. -/
def Line.Distinct : Line → Prop
  | .header _ _ => True
  | .assignment given => given.value.Distinct

theorem distinct_readLine {fuel : Nat} {characters rest : List Char} {line : Line}
    (read : readLine fuel characters = some (line, rest)) : line.Distinct := by
  have header {isElement : Bool} {characters : List Char}
      (read : readHeader isElement characters = some (line, rest)) : line.Distinct := by
    rw [readHeader] at read
    split at read
    next =>
      split at read
      · cases read
        trivial
      · cases read
        trivial
      · cases read
    next => cases read
  rw [readLine.eq_def] at read
  split at read
  · exact header read
  · exact header read
  · obtain ⟨⟨assignment, after⟩, found, read⟩ := Option.map_eq_some_iff.mp read
    cases read
    exact (readsDistinct fuel).pair found

theorem distinct_readAllLines {fuel : Nat} {characters : List Char} {lines : List Line}
    (read : readAllLines fuel characters = some lines) : ∀ line ∈ lines, line.Distinct := by
  induction fuel generalizing characters lines with
  | zero => cases read
  | succ fuel ih =>
      rw [readAllLines] at read
      split at read
      next => cases read
      next =>
        cases read
        exact List.forall_mem_nil _
      next =>
        split at read
        next => cases read
        next line rest found =>
          obtain ⟨after, -, read⟩ := Option.bind_eq_some_iff.mp read
          obtain ⟨others, later, rfl⟩ := Option.map_eq_some_iff.mp read
          exact List.forall_mem_cons.mpr ⟨distinct_readLine found, ih later⟩

theorem distinct_group {lines : List Line} (distinct : ∀ line ∈ lines, line.Distinct) :
    (∀ assignment ∈ (group lines).1, assignment.value.Distinct) ∧
      ∀ part ∈ (group lines).2, ∀ assignment ∈ part.body, assignment.value.Distinct := by
  induction lines with
  | nil => exact ⟨List.forall_mem_nil _, List.forall_mem_nil _⟩
  | cons line rest ih =>
      obtain ⟨first, others⟩ := List.forall_mem_cons.mp distinct
      obtain ⟨assignments, sections⟩ := ih others
      cases line with
      | header isElement path =>
          exact ⟨List.forall_mem_nil _, List.forall_mem_cons.mpr ⟨assignments, sections⟩⟩
      | assignment assignment =>
          exact ⟨List.forall_mem_cons.mpr ⟨first, assignments⟩, sections⟩

/-- Each key of a text stands once in its table. -/
theorem distinct_of_read {text : String} {entries : Entries}
    (read : Toml.read text = some entries) : entries.Distinct := by
  obtain ⟨lines, found, read⟩ := Option.bind_eq_some_iff.mp read
  obtain ⟨assignments, sections⟩ := distinct_group (distinct_readAllLines found)
  obtain ⟨before, assigned, read⟩ := Option.bind_eq_some_iff.mp read
  exact (Entries.distinct_nil.assignAll assignments assigned).addSections sections read

end LightningGateway.Toml
