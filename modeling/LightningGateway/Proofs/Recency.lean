import Mathlib.Data.Finset.Card
import Mathlib.Data.List.Nodup
import LightningGateway.Proofs.Cache

/-!
# What was used last

A key that was stored can be found as long as fewer other keys than the cache can hold were stored
or found since it was used last. The cache holds the keys in the order of their last use, and drops
nothing else than the end of this order. A key that is missed is not used, and neither is one whose
fetch fails.
-/

namespace LightningGateway.Cache

variable {κ ν ε ω : Type} [DecidableEq κ]

/-- What can be asked of a cache. -/
inductive Use (κ ν ε : Type) where
  | get (key : κ)
  | insert (key : κ) (value : ν)
  /-- Looks up a value, or fetches it and stores it. -/
  | remember (key : κ) (fetch : Dialogue Unit (Except ε ν))

/-- What makes a key the most recently used one. -/
inductive Touch (κ ν : Type) where
  | hit (key : κ)
  | stored (key : κ) (value : ν)
  deriving DecidableEq

namespace Touch

def key : Touch κ ν → κ
  | hit key | stored key _ => key

/-- The value that is stored for a key. -/
def valueFor? (key : κ) : Touch κ ν → Option ν
  | hit _ => none
  | stored other value => if other = key then some value else none

end Touch

/-- The value that was stored last for a key. The latest touch comes first. -/
def lastStored (touches : List (Touch κ ν)) (key : κ) : Option ν :=
  touches.findSome? (Touch.valueFor? key)

/-- The keys that were touched since a key was touched last. -/
def since (touches : List (Touch κ ν)) (key : κ) : List κ :=
  (touches.map Touch.key).takeWhile fun other => other ≠ key

/-- A cache in use. -/
structure Record (κ ν ω : Type) where
  cache : Cache κ ν
  world : ω
  /-- What was stored or hit, the latest first. -/
  touches : List (Touch κ ν)

def Record.add (answer : Surroundings ω) (record : Record κ ν ω) :
    Use κ ν ε → Record κ ν ω
  | .get key =>
      match record.cache.get key with
      | (some _, cache) => { record with cache, touches := .hit key :: record.touches }
      | (none, cache) => { record with cache }
  | .insert key value =>
      { record with
        cache := record.cache.insert key value
        touches := .stored key value :: record.touches }
  | .remember key fetch =>
      match (record.cache.get key).1,
        (remember key (beside fetch)).run answer record.cache record.world with
      | some _, (_, cache, world) => ⟨cache, world, .hit key :: record.touches⟩
      | none, (.ok value, cache, world) => ⟨cache, world, .stored key value :: record.touches⟩
      | none, (.error _, cache, world) => ⟨cache, world, record.touches⟩

/-- A cache after some uses. -/
def record (answer : Surroundings ω) (capacity : Nat) (world : ω) (uses : List (Use κ ν ε)) :
    Record κ ν ω :=
  uses.foldl (Record.add answer) ⟨.empty capacity, world, []⟩

/-! ### The order of last use -/

/-- The keys that were touched, the one that was touched last first. -/
def recent : List (Touch κ ν) → List κ
  | [] => []
  | touch :: earlier => touch.key :: (recent earlier).filter fun other => other ≠ touch.key

theorem nodup_recent (touches : List (Touch κ ν)) : (recent touches).Nodup := by
  induction touches with
  | nil => exact List.nodup_nil
  | cons touch earlier ih =>
      refine List.nodup_cons.mpr ⟨?_, ih.filter _⟩
      intro member
      exact of_decide_eq_true (List.mem_filter.mp member).2 rfl

theorem mem_recent_iff {touches : List (Touch κ ν)} {key : κ} :
    key ∈ recent touches ↔ ∃ touch ∈ touches, touch.key = key := by
  induction touches with
  | nil => simp [recent]
  | cons touch earlier ih =>
      by_cases same : touch.key = key
      · simp [recent, same]
      · have other : key ≠ touch.key := fun same' => same same'.symm
        simp [recent, ih, same, other]

/-- What comes before a key in the order of last use are the keys that were touched since. -/
theorem toFinset_takeWhile_recent (touches : List (Touch κ ν)) (key : κ) :
    ((recent touches).takeWhile fun other => other ≠ key).toFinset =
      (since touches key).toFinset := by
  induction touches with
  | nil => rfl
  | cons touch earlier ih =>
      by_cases same : touch.key = key
      · simp [recent, since, same]
      · have passes : (fun other => !decide (other ≠ touch.key) || decide (other ≠ key)) =
            fun other => decide (other ≠ key) := by
          funext other
          by_cases itself : other = touch.key
          · simp [itself, same]
          · simp [itself]
        unfold since at ih ⊢
        rw [recent, List.takeWhile_cons_of_pos (by simpa using same), List.takeWhile_filter, passes,
          List.map_cons, List.takeWhile_cons_of_pos (by simpa using same), List.toFinset_cons,
          List.toFinset_cons, ← ih]
        ext other
        by_cases itself : other = touch.key
        · simp [itself]
        · simp [itself]

theorem mem_take_iff {keys : List κ} {key : κ} {count : Nat} :
    key ∈ keys.take count ↔
      key ∈ keys ∧ (keys.takeWhile fun other => other ≠ key).length < count := by
  induction keys generalizing count with
  | nil => simp
  | cons first rest ih =>
      cases count with
      | zero => simp
      | succ count =>
          by_cases same : first = key
          · simp [same]
          · have other : key ≠ first := fun same' => same same'.symm
            simp [same, other, ih]

theorem touched_of_lastStored {touches : List (Touch κ ν)} {key : κ} {value : ν}
    (stored : lastStored touches key = some value) : ∃ touch ∈ touches, touch.key = key := by
  obtain ⟨touch, member, found⟩ := List.exists_of_findSome?_eq_some stored
  refine ⟨touch, member, ?_⟩
  cases touch with
  | hit => cases found
  | stored other held =>
      refine Decidable.byContradiction fun (different : ¬ other = key) => ?_
      rw [Touch.valueFor?, if_neg different] at found
      cases found

/-- Removing a key moves up at most one of the others. -/
theorem take_filter_take {keys : List κ} (distinct : keys.Nodup) (key : κ) (count : Nat) :
    ((keys.take (count + 1)).filter fun other => other ≠ key).take count =
      (keys.filter fun other => other ≠ key).take count := by
  induction keys generalizing count with
  | nil => rfl
  | cons first rest ih =>
      obtain ⟨absent, others⟩ := List.nodup_cons.mp distinct
      rw [List.take_succ_cons]
      by_cases same : first = key
      · have kept {part : List κ} (within : part ⊆ rest) :
            part.filter (fun other => other ≠ key) = part :=
          List.filter_eq_self.mpr fun other member =>
            decide_eq_true fun itself => absent (same ▸ itself ▸ within member)
        rw [List.filter_cons_of_neg (by simpa using same),
          List.filter_cons_of_neg (by simpa using same), kept (List.take_subset count rest),
          kept (List.Subset.refl rest), List.take_take, Nat.min_self]
      · rw [List.filter_cons_of_pos (by simpa using same),
          List.filter_cons_of_pos (by simpa using same)]
        cases count with
        | zero => rfl
        | succ count => rw [List.take_succ_cons, List.take_succ_cons, ih others]

/-! ### What a cache keeps -/

theorem find?_insert_self {cache : Cache κ ν} (room : 0 < cache.capacity) (key : κ) (value : ν) :
    (cache.insert key value).find? key = some value := by
  obtain ⟨count, capacity⟩ := Nat.exists_eq_add_one.mpr room
  rw [find?, insert, capacity, List.take_succ_cons, List.lookup_cons_self]

theorem lastStored_stored (touches : List (Touch κ ν)) (key other : κ) (value : ν) :
    lastStored (.stored key value :: touches) other =
      if key = other then some value else lastStored touches other := by
  by_cases same : key = other
  · simp [lastStored, Touch.valueFor?, same]
  · simp [lastStored, Touch.valueFor?, same]

/-- A cache holds the keys that were touched last, with the values that were stored last. -/
structure Keeps (capacity : Nat) (touches : List (Touch κ ν)) (cache : Cache κ ν) : Prop where
  capacity_eq : cache.capacity = max capacity 1
  keys_eq : cache.keys = (recent touches).take (max capacity 1)
  values : ∀ key value, cache.find? key = some value → lastStored touches key = some value

namespace Keeps

variable {capacity : Nat} {touches : List (Touch κ ν)} {cache : Cache κ ν} {key : κ} {value : ν}

theorem empty (capacity : Nat) : Keeps capacity [] (.empty capacity : Cache κ ν) where
  capacity_eq := rfl
  keys_eq := List.take_nil.symm
  values := nofun

/-- Whether a key was stored or hit, it goes to the front, and the last key may drop out. -/
theorem take_touched (keeps : Keeps capacity touches cache) (touch : Touch κ ν) :
    (touch.key :: cache.keys.filter fun other => other ≠ touch.key).take (max capacity 1) =
      (recent (touch :: touches)).take (max capacity 1) := by
  obtain ⟨count, room⟩ : ∃ count, max capacity 1 = count + 1 :=
    Nat.exists_eq_add_one.mpr (Nat.lt_of_lt_of_le Nat.one_pos (Nat.le_max_right capacity 1))
  rw [recent, keeps.keys_eq, room, List.take_succ_cons, List.take_succ_cons,
    take_filter_take (nodup_recent touches)]

theorem hit (keeps : Keeps capacity touches cache) (found : cache.find? key = some value) :
    Keeps capacity (.hit key :: touches) (cache.get key).2 where
  capacity_eq := (capacity_get cache key).trans keeps.capacity_eq
  keys_eq := by
    have present := mem_keys_of_find?_eq_some found
    have fits : (key :: cache.keys.filter fun other => other ≠ key).length ≤ max capacity 1 := by
      have distinct : cache.keys.Nodup := keeps.keys_eq ▸ (nodup_recent touches).take
      rw [(perm_cons_filter_ne distinct present).length_eq, keeps.keys_eq]
      exact List.length_take_le ..
    rw [keys_get_of_mem present, ← keeps.take_touched (.hit key)]
    exact (List.take_of_length_le fits).symm
  values other held looked := by
    rw [find?_get] at looked
    exact keeps.values other held looked

theorem store (keeps : Keeps capacity touches cache) (key : κ) (value : ν) :
    Keeps capacity (.stored key value :: touches) (cache.insert key value) where
  capacity_eq := keeps.capacity_eq
  keys_eq := by
    rw [keys_insert, keeps.capacity_eq]
    exact keeps.take_touched (.stored key value)
  values other held looked := by
    rw [lastStored_stored]
    by_cases same : key = other
    · subst other
      have room : 0 < cache.capacity := by
        rw [keeps.capacity_eq]
        exact Nat.lt_of_lt_of_le Nat.one_pos (Nat.le_max_right capacity 1)
      rw [find?_insert_self room] at looked
      rw [if_pos rfl, looked]
    · rcases find?_insert_eq_some looked with ⟨itself, -⟩ | earlier
      · exact absurd itself.symm same
      · rw [if_neg same]
        exact keeps.values other held earlier

theorem length_le (keeps : Keeps capacity touches cache) : cache.length ≤ max capacity 1 := by
  have bounded : cache.keys.length ≤ max capacity 1 := by
    rw [keeps.keys_eq]
    exact List.length_take_le ..
  rwa [keys, List.length_map] at bounded

theorem mem_keys_iff (keeps : Keeps capacity touches cache) :
    key ∈ cache.keys ↔
      (∃ touch ∈ touches, touch.key = key) ∧
        (since touches key).toFinset.card < max capacity 1 := by
  have distinct : ((recent touches).takeWhile fun other => other ≠ key).Nodup :=
    (List.takeWhile_sublist _).nodup (nodup_recent touches)
  rw [keeps.keys_eq, mem_take_iff, mem_recent_iff, ← toFinset_takeWhile_recent,
    List.toFinset_card_of_nodup distinct]

/-- A key can be found as long as it is among the keys that were touched last. -/
theorem find?_eq_some_iff (keeps : Keeps capacity touches cache) :
    cache.find? key = some value ↔
      lastStored touches key = some value ∧
        (since touches key).toFinset.card < max capacity 1 := by
  constructor
  · intro found
    exact ⟨keeps.values key value found,
      (keeps.mem_keys_iff.mp (mem_keys_of_find?_eq_some found)).2⟩
  · rintro ⟨stored, few⟩
    have present : key ∈ cache.keys := keeps.mem_keys_iff.mpr ⟨touched_of_lastStored stored, few⟩
    cases found : cache.find? key with
    | none => exact absurd present ((Cache.find?_eq_none_iff cache key).mp found)
    | some held => rw [← stored, keeps.values key held found]

end Keeps

/-! ### Any uses -/

variable (answer : Surroundings ω)

theorem fst_get (cache : Cache κ ν) (key : κ) : (cache.get key).1 = cache.find? key := by
  cases found : cache.find? key with
  | none => rw [get_of_find?_eq_none found]
  | some value => rw [get_of_find?_eq_some found]

/-- A value that is missing is fetched, and stored unless the fetch fails. -/
theorem run_remember_beside {cache : Cache κ ν} {key : κ} (missing : cache.find? key = none)
    (fetch : Dialogue Unit (Except ε ν)) (world : ω) :
    (remember key (beside fetch)).run answer cache world =
      ((fetch.run answer () world).1, cache.storing key (fetch.run answer () world).1,
        (fetch.run answer () world).2.2) :=
  run_remember_of_find?_eq_none answer _ missing (run_beside answer fetch cache world)

theorem Keeps.add {capacity : Nat} {record : Record κ ν ω}
    (keeps : Keeps capacity record.touches record.cache) (use : Use κ ν ε) :
    Keeps capacity (record.add answer use).touches (record.add answer use).cache := by
  cases use with
  | insert key value => exact keeps.store key value
  | get key =>
      cases found : record.cache.find? key with
      | none =>
          simp only [Record.add, get_of_find?_eq_none found]
          exact keeps
      | some value =>
          have hit := keeps.hit found
          rw [get_of_find?_eq_some found] at hit
          simp only [Record.add, get_of_find?_eq_some found]
          exact hit
  | remember key fetch =>
      have looked := fst_get record.cache key
      cases found : record.cache.find? key with
      | some value =>
          have came := run_remember_of_find?_eq_some answer (beside fetch) record.world found
          rw [found] at looked
          simp only [Record.add, came, looked]
          exact keeps.hit found
      | none =>
          have came := run_remember_beside answer found fetch record.world
          rw [found] at looked
          cases fetched : (fetch.run answer () record.world).1 with
          | error error =>
              rw [fetched] at came
              simp only [Record.add, came, looked]
              exact keeps
          | ok value =>
              rw [fetched] at came
              simp only [Record.add, came, looked]
              exact keeps.store key value

theorem keeps_record (capacity : Nat) (world : ω) (uses : List (Use κ ν ε)) :
    Keeps capacity (record answer capacity world uses).touches
      (record answer capacity world uses).cache := by
  induction uses using List.reverseRecOn with
  | nil => exact .empty capacity
  | append_singleton uses use ih =>
      rw [record, List.foldl_append]
      exact ih.add answer use

/-- After any uses a look-up finds exactly the value that was stored last, as long as fewer other
keys than the cache can hold were stored or hit since the key was. A look-up that misses changes
nothing. A value is fetched exactly if a look-up would miss, and a fetch that fails changes nothing
either. -/
theorem found_while_recent (capacity : Nat) (world : ω) (uses : List (Use κ ν ε)) :
    let record := record answer capacity world uses
    record.cache.length ≤ max capacity 1 ∧
      (∀ key value, (record.cache.get key).1 = some value ↔
        lastStored record.touches key = some value ∧
          (since record.touches key).toFinset.card < max capacity 1) ∧
      (∀ key, (record.cache.get key).1 = none → (record.cache.get key).2 = record.cache) ∧
      ∀ key (fetch : Dialogue Unit (Except ε ν)),
        let noting := Surroundings.noting answer
        let outcome := (remember key (beside fetch)).run noting record.cache (record.world, [])
        let fetched := fetch.run noting () (record.world, [])
        (∀ value, (record.cache.get key).1 = some value →
            outcome = (.ok value, (record.cache.get key).2, record.world, [])) ∧
          ((record.cache.get key).1 = none → ∀ value, fetched.1 = .ok value →
            outcome = (.ok value, record.cache.insert key value, fetched.2.2)) ∧
          ((record.cache.get key).1 = none → ∀ error, fetched.1 = .error error →
            outcome = (.error error, record.cache, fetched.2.2)) := by
  intro record
  have keeps : Keeps capacity record.touches record.cache := keeps_record answer capacity world uses
  simp only [fst_get]
  refine ⟨keeps.length_le, fun key value => keeps.find?_eq_some_iff, ?_, ?_⟩
  · intro key missing
    rw [get_of_find?_eq_none missing]
  · intro key fetch
    refine ⟨?_, ?_, ?_⟩
    · intro value found
      exact run_remember_of_find?_eq_some _ _ _ found
    · intro missing value fetched
      rw [run_remember_beside _ missing, fetched]
      rfl
    · intro missing error fetched
      rw [run_remember_beside _ missing, fetched]
      rfl

/-- Someone who looks at the clock, and finds it before a given time or not. -/
def lateness (limit : UInt64) : Dialogue Unit (Except String Nat) := do
  let time ← Dialogue.query .now
  return if time < limit then .ok time.toNat else .error "late"

/-- A room for two. The second key leaves it when the third one comes; what comes after that misses
or fails. -/
def crowdedUses : List (Use Nat Nat String) :=
  [.insert 1 10, .insert 2 20, .get 1, .remember 3 (lateness 5), .get 2, .remember 4 (lateness 0)]

/-- It is time zero. -/
def early : Surroundings Unit :=
  (Replies.answering (.error .missingResult) (fun _ => .error .missingResult)
    fun _ => .error .missingResult).surroundings

theorem found_while_recent_crowded :
    let record := record early 2 () crowdedUses
    record.touches = [.stored 3 0, .hit 1, .stored 2 20, .stored 1 10] ∧
      record.cache.length ≤ 2 ∧
      lastStored record.touches 1 = some 10 ∧ (since record.touches 1).toFinset.card < 2 ∧
      (record.cache.get 1).1 = some 10 ∧
      lastStored record.touches 2 = some 20 ∧ ¬ (since record.touches 2).toFinset.card < 2 ∧
      (record.cache.get 2).1 ≠ some 20 ∧
      (record.cache.get 2).2 = record.cache ∧
      (remember 2 (beside (lateness 5))).run (Surroundings.noting early) record.cache ((), []) =
        (.ok 0, record.cache.insert 2 0, ((), [.now])) ∧
      (remember 2 (beside (lateness 0))).run (Surroundings.noting early) record.cache ((), []) =
        (.error "late", record.cache, ((), [.now])) ∧
      (remember 1 (beside (lateness 5))).run (Surroundings.noting early) record.cache ((), []) =
        (.ok 10, (record.cache.get 1).2, ((), [])) := by
  intro record
  obtain ⟨short, found, unchanged, fetches⟩ := found_while_recent early 2 () crowdedUses
  have dropped : ¬ (since record.touches 2).toFinset.card < 2 := by decide
  have first : (record.cache.get 1).1 = some 10 := (found 1 10).mpr ⟨by decide, by decide⟩
  have second : (record.cache.get 2).1 = none := by decide
  exact ⟨by decide, short, by decide, by decide, first, by decide, dropped,
    fun held => dropped ((found 2 20).mp held).2, unchanged 2 second,
    (fetches 2 (lateness 5)).2.1 second 0 rfl, (fetches 2 (lateness 0)).2.2 second "late" rfl,
    (fetches 1 (lateness 5)).1 10 first⟩

end LightningGateway.Cache
