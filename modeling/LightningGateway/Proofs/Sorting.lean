import Mathlib.Data.String.Basic
import LightningGateway.Json

/-!
# Objects with sorted fields

Sorting keeps what the fields of an object say, as long as no key is repeated, and sorting again
changes nothing.
-/

namespace LightningGateway

theorem lookup_eq_none_iff_notMem {α : Type} {name : String} {entries : List (String × α)} :
    entries.lookup name = none ↔ name ∉ entries.map Prod.fst := by
  rw [List.lookup_eq_none_iff, List.mem_map]
  constructor
  · rintro different ⟨entry, member, rfl⟩
    simpa using different entry member
  · intro absent entry member
    have other : name ≠ entry.1 := by
      rintro rfl
      exact absent ⟨entry, member, rfl⟩
    simpa using other

namespace Json

/-- The keys increase. -/
def Increasing (fields : List (String × Json)) : Prop :=
  fields.Pairwise fun first second => first.1 < second.1

variable {key name : String} {value content : Json} {fields sorted : List (String × Json)}

/-! ### Fields by name -/

theorem lookup_cons_eq_ite :
    List.lookup name ((key, value) :: fields) =
      if name = key then some value else fields.lookup name := by
  by_cases same : name = key
  · subst same
    simp
  · rw [List.lookup_cons, beq_false_of_ne same, if_neg same]

theorem lookup_eq_some_of_mem (distinct : (fields.map Prod.fst).Nodup)
    (member : (name, content) ∈ fields) : fields.lookup name = some content := by
  induction fields with
  | nil => cases member
  | cons field fields ih =>
      obtain ⟨others, distinct⟩ := List.nodup_cons.mp distinct
      rcases List.mem_cons.mp member with rfl | later
      · exact List.lookup_cons_self
      · have other : name ≠ field.1 := by
          rintro rfl
          exact others (List.mem_map.mpr ⟨_, later, rfl⟩)
        rw [lookup_cons_eq_ite, if_neg other]
        exact ih distinct later

/-! ### Putting in a field -/

theorem mem_insertField {entry : String × Json} (member : entry ∈ insertField key value fields) :
    entry = (key, value) ∨ entry ∈ fields := by
  induction fields with
  | nil => exact .inl (List.mem_singleton.mp member)
  | cons field fields ih =>
      obtain ⟨other, old⟩ := field
      rw [insertField] at member
      split at member
      · exact (List.mem_cons.mp member).imp id fun later => .tail _ later
      · split at member
        · exact List.mem_cons.mp member
        · rcases List.mem_cons.mp member with rfl | later
          · exact .inr List.mem_cons_self
          · exact (ih later).imp id fun found => .tail _ found

theorem Increasing.insertField (increasing : Increasing fields) (key : String) (value : Json) :
    Increasing (insertField key value fields) := by
  induction fields with
  | nil => exact List.pairwise_singleton _ _
  | cons field fields ih =>
      obtain ⟨other, old⟩ := field
      obtain ⟨first, later⟩ := List.pairwise_cons.mp increasing
      rw [Json.insertField]
      split
      · next same =>
          subst same
          exact List.pairwise_cons.mpr ⟨first, later⟩
      · next different =>
          split
          · next before =>
              have less : key < other := of_decide_eq_true before
              refine List.pairwise_cons.mpr ⟨fun entry member => ?_, increasing⟩
              rcases List.mem_cons.mp member with rfl | member
              · exact less
              · exact less.trans (first entry member)
          · next behind =>
              have less : other < key :=
                lt_of_le_of_ne (not_lt.mp fun before => behind (decide_eq_true before))
                  (Ne.symm different)
              refine List.pairwise_cons.mpr ⟨fun entry member => ?_, ih later⟩
              rcases mem_insertField member with rfl | member
              · exact less
              · exact first entry member

theorem lookup_insertField :
    (insertField key value fields).lookup name =
      if name = key then some value else fields.lookup name := by
  induction fields with
  | nil => exact lookup_cons_eq_ite
  | cons field fields ih =>
      obtain ⟨other, old⟩ := field
      rw [insertField]
      split
      · next same =>
          subst same
          simp only [lookup_cons_eq_ite]
          split <;> rfl
      · next different =>
          split
          · rw [lookup_cons_eq_ite]
          · rw [lookup_cons_eq_ite, lookup_cons_eq_ite, ih]
            by_cases found : name = other
            · rw [if_pos found, if_pos found, if_neg (found ▸ Ne.symm different)]
            · rw [if_neg found, if_neg found]

/-! ### Collecting fields -/

/-- The fields put one by one into those sorted already. -/
def insertFields (sorted fields : List (String × Json)) : List (String × Json) :=
  fields.foldl (fun sorted field => insertField field.1 field.2 sorted) sorted

theorem collectFields_eq_insertFields (fields : List (String × Json)) :
    collectFields fields = insertFields [] fields :=
  rfl

theorem insertFields_cons (sorted : List (String × Json)) (field : String × Json)
    (fields : List (String × Json)) :
    insertFields sorted (field :: fields) =
      insertFields (insertField field.1 field.2 sorted) fields :=
  rfl

theorem Increasing.insertFields (increasing : Increasing sorted)
    (fields : List (String × Json)) : Increasing (insertFields sorted fields) := by
  induction fields generalizing sorted with
  | nil => exact increasing
  | cons field fields ih => exact ih (increasing.insertField field.1 field.2)

theorem increasing_collectFields (fields : List (String × Json)) :
    Increasing (collectFields fields) :=
  Increasing.insertFields .nil fields

theorem Increasing.nodup (increasing : Increasing fields) : (fields.map Prod.fst).Nodup :=
  List.pairwise_map.mpr (increasing.imp fun less => less.ne)

theorem lookup_insertFields (distinct : (fields.map Prod.fst).Nodup) (name : String) :
    (insertFields sorted fields).lookup name = (fields.lookup name <|> sorted.lookup name) := by
  induction fields generalizing sorted with
  | nil => rfl
  | cons field fields ih =>
      obtain ⟨key, value⟩ := field
      obtain ⟨others, distinct⟩ := List.nodup_cons.mp distinct
      rw [insertFields_cons, ih distinct, lookup_insertField, lookup_cons_eq_ite]
      by_cases same : name = key
      · subst same
        rw [lookup_eq_none_iff_notMem.mpr others, if_pos rfl, if_pos rfl]
        rfl
      · rw [if_neg same, if_neg same]

theorem lookup_collectFields (distinct : (fields.map Prod.fst).Nodup) (name : String) :
    (collectFields fields).lookup name = fields.lookup name := by
  rw [collectFields_eq_insertFields, lookup_insertFields distinct]
  simp

theorem insertField_of_increasing (increasing : Increasing (fields ++ [(key, value)])) :
    insertField key value fields = fields ++ [(key, value)] := by
  induction fields with
  | nil => rfl
  | cons field fields ih =>
      obtain ⟨other, old⟩ := field
      obtain ⟨first, later⟩ := List.pairwise_cons.mp increasing
      have less : other < key := first (key, value) (by simp)
      have behind : keyBefore key other = false := decide_eq_false less.asymm
      rw [insertField, if_neg less.ne', behind, if_neg Bool.false_ne_true, ih later,
        List.cons_append]

theorem insertFields_of_increasing (whole : Increasing (sorted ++ fields)) :
    insertFields sorted fields = sorted ++ fields := by
  induction fields generalizing sorted with
  | nil => exact (List.append_nil sorted).symm
  | cons field fields ih =>
      have split : sorted ++ field :: fields = (sorted ++ [field]) ++ fields := by simp
      rw [split] at whole ⊢
      rw [insertFields_cons, insertField_of_increasing (List.pairwise_append.mp whole).1, ih whole]

theorem collectFields_of_increasing (increasing : Increasing fields) :
    collectFields fields = fields :=
  insertFields_of_increasing increasing

/-! ### Sorting values -/

theorem sortEntries_eq_map (fields : List (String × Json)) :
    sortEntries fields = fields.map fun (key, value) => (key, value.sortFields) := by
  induction fields with
  | nil => rfl
  | cons field fields ih => rw [sortEntries, ih, List.map_cons]

theorem lookup_sortEntries (fields : List (String × Json)) (name : String) :
    (sortEntries fields).lookup name = (fields.lookup name).map sortFields := by
  induction fields with
  | nil => rfl
  | cons field fields ih =>
      obtain ⟨key, value⟩ := field
      rw [sortEntries, List.lookup_cons, List.lookup_cons]
      cases name == key with
      | true => rfl
      | false => exact ih

theorem keys_sortEntries (fields : List (String × Json)) :
    (sortEntries fields).map Prod.fst = fields.map Prod.fst := by
  rw [sortEntries_eq_map, List.map_map]
  rfl

/-- The fields of a sorted object, without those of its values. -/
def sortedFields (fields : List (String × Json)) : List (String × Json) :=
  collectFields (sortEntries fields)

theorem lookup_sortedFields (distinct : (fields.map Prod.fst).Nodup) (name : String) :
    (sortedFields fields).lookup name = (fields.lookup name).map sortFields := by
  rw [← keys_sortEntries] at distinct
  rw [sortedFields, lookup_collectFields distinct, lookup_sortEntries]

theorem nodup_sortedFields (fields : List (String × Json)) :
    ((sortedFields fields).map Prod.fst).Nodup :=
  (increasing_collectFields _).nodup

theorem sortEntries_insertField (key : String) (value : Json) (fields : List (String × Json)) :
    sortEntries (insertField key value fields) =
      insertField key value.sortFields (sortEntries fields) := by
  induction fields with
  | nil => rfl
  | cons field fields ih =>
      obtain ⟨other, old⟩ := field
      rw [insertField, sortEntries, insertField]
      split
      · rfl
      · split
        · rfl
        · rw [sortEntries, ih]

theorem sortEntries_insertFields (sorted fields : List (String × Json)) :
    sortEntries (insertFields sorted fields) =
      insertFields (sortEntries sorted) (sortEntries fields) := by
  induction fields generalizing sorted with
  | nil => rfl
  | cons field fields ih =>
      rw [insertFields_cons, ih, sortEntries_insertField, sortEntries, insertFields_cons]

theorem sortEntries_collectFields (fields : List (String × Json)) :
    sortEntries (collectFields fields) = collectFields (sortEntries fields) :=
  sortEntries_insertFields [] fields

mutual

/-- Sorting again changes nothing. -/
theorem sortFields_sortFields (value : Json) : value.sortFields.sortFields = value.sortFields := by
  match value with
  | .null | .bool _ | .number _ | .string _ => simp only [sortFields]
  | .array items => rw [sortFields, sortFields, sortItems_sortItems items]
  | .object fields =>
      rw [sortFields, sortFields, sortEntries_collectFields, sortEntries_sortEntries fields,
        collectFields_of_increasing (increasing_collectFields _)]

theorem sortItems_sortItems (items : List Json) :
    sortItems (sortItems items) = sortItems items := by
  match items with
  | [] => rfl
  | item :: rest =>
      rw [sortItems, sortItems, sortFields_sortFields item, sortItems_sortItems rest]

theorem sortEntries_sortEntries (fields : List (String × Json)) :
    sortEntries (sortEntries fields) = sortEntries fields := by
  match fields with
  | [] => rfl
  | (key, value) :: rest =>
      rw [sortEntries, sortEntries, sortFields_sortFields value, sortEntries_sortEntries rest]

end

end Json

end LightningGateway
