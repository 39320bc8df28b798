import LightningGateway.Cache
import LightningGateway.Proofs.Dialogue

/-!
# What a cache finds

What is found in a cache was there before or has just been stored. Which keys a sequence of
look-ups misses depends on the keys alone, as long as every missed key gets a value.
-/

namespace LightningGateway.Cache

variable {κ ν ε ω : Type} [DecidableEq κ]

/-- The keys in the cache, the most recently used one first. -/
def keys (cache : Cache κ ν) : List κ := cache.entries.map Prod.fst

theorem find?_eq_none_iff (cache : Cache κ ν) (key : κ) :
    cache.find? key = none ↔ key ∉ cache.keys := by
  simp only [find?, keys, List.lookup_eq_none_iff, bne_iff_ne, List.mem_map, not_exists,
    not_and]
  exact ⟨fun unequal entry member same => unequal entry member same.symm,
    fun absent entry member same => absent entry member same.symm⟩

theorem mem_keys_of_find?_eq_some {cache : Cache κ ν} {key : κ} {value : ν}
    (found : cache.find? key = some value) : key ∈ cache.keys := by
  refine Decidable.byContradiction fun absent => ?_
  rw [(find?_eq_none_iff cache key).mpr absent] at found
  cases found

/-! ### Looking up and storing -/

theorem get_of_find?_eq_some {cache : Cache κ ν} {key : κ} {value : ν}
    (found : cache.find? key = some value) :
    cache.get key =
      (some value, { cache with entries := (key, value) :: others key cache.entries }) := by
  simp [get, found]

theorem get_of_find?_eq_none {cache : Cache κ ν} {key : κ} (missing : cache.find? key = none) :
    cache.get key = (none, cache) := by
  simp [get, missing]

theorem lookup_others_of_ne {key other : κ} (different : other ≠ key) (entries : List (κ × ν)) :
    (others key entries).lookup other = entries.lookup other := by
  induction entries with
  | nil => rfl
  | cons entry rest ih =>
      obtain ⟨held, value⟩ := entry
      unfold others at ih ⊢
      by_cases same : held = key
      · have skipped : (other == held) = false := by simpa [same] using different
        rw [List.filter_cons_of_neg (by simpa using same), ih, List.lookup_cons, skipped]
      · rw [List.filter_cons_of_pos (by simpa using same), List.lookup_cons, List.lookup_cons,
          ih]

theorem map_fst_others (key : κ) (entries : List (κ × ν)) :
    (others key entries).map Prod.fst =
      (entries.map Prod.fst).filter fun other => other ≠ key := by
  simp only [others, List.filter_map, Function.comp_def]

theorem find?_get (cache : Cache κ ν) (key other : κ) :
    (cache.get key).2.find? other = cache.find? other := by
  cases found : cache.find? key with
  | none => rw [get_of_find?_eq_none found]
  | some value =>
      rw [get_of_find?_eq_some found]
      by_cases same : other = key
      · subst other
        simpa [find?] using found.symm
      · have skipped : (other == key) = false := by simpa using same
        simp only [find?, List.lookup_cons, skipped]
        exact lookup_others_of_ne same cache.entries

/-- What is found after a value was stored is that value or was there before. -/
theorem find?_insert_eq_some {cache : Cache κ ν} {key other : κ} {value found : ν}
    (present : (cache.insert key value).find? other = some found) :
    other = key ∧ found = value ∨ cache.find? other = some found := by
  have stored : ((key, value) :: others key cache.entries).lookup other = some found := by
    rw [← List.take_append_drop cache.capacity ((key, value) :: others key cache.entries),
      List.lookup_append]
    simp only [insert, find?] at present
    rw [present]
    rfl
  by_cases same : other = key
  · subst other
    rw [List.lookup_cons_self, Option.some.injEq] at stored
    exact Or.inl ⟨rfl, stored.symm⟩
  · have skipped : (other == key) = false := by simpa using same
    simp only [List.lookup_cons, skipped] at stored
    rw [lookup_others_of_ne same] at stored
    exact Or.inr stored

theorem keys_get_of_mem {cache : Cache κ ν} {key : κ} (present : key ∈ cache.keys) :
    (cache.get key).2.keys = key :: cache.keys.filter fun other => other ≠ key := by
  cases found : cache.find? key with
  | none => exact absurd present ((find?_eq_none_iff cache key).mp found)
  | some value =>
      rw [get_of_find?_eq_some found]
      simp only [keys, List.map_cons, map_fst_others]

theorem capacity_get (cache : Cache κ ν) (key : κ) :
    (cache.get key).2.capacity = cache.capacity := by
  unfold get
  split <;> rfl

theorem capacity_insert (cache : Cache κ ν) (key : κ) (value : ν) :
    (cache.insert key value).capacity = cache.capacity := rfl

theorem keys_insert (cache : Cache κ ν) (key : κ) (value : ν) :
    (cache.insert key value).keys =
      (key :: cache.keys.filter fun other => other ≠ key).take cache.capacity := by
  simp only [insert, keys, List.map_take, List.map_cons, map_fst_others]

/-! ### Missed keys -/

/-- The keys that are not there when their turn comes, if those that are looked up are kept up
to a capacity, the most recently used ones first. -/
def missed (capacity : Nat) : List κ → List κ → List κ
  | _, [] => []
  | kept, key :: rest =>
      if key ∈ kept then
        missed capacity (key :: kept.filter fun other => other ≠ key) rest
      else
        key :: missed capacity
          ((key :: kept.filter fun other => other ≠ key).take capacity) rest

/-! ### Remembering -/

variable (answer : Surroundings ω)

omit [DecidableEq κ] in
/-- A fetch that leaves the cache alone. -/
def beside {α : Type} (fetch : Dialogue Unit α) : Dialogue (Cache κ ν) α :=
  fetch.focus (fun _ => ()) fun _ cache => cache

omit [DecidableEq κ] in
theorem run_beside {α : Type} (fetch : Dialogue Unit α) (cache : Cache κ ν) (world : ω) :
    (beside fetch).run answer cache world =
      ((fetch.run answer () world).1, cache, (fetch.run answer () world).2.2) :=
  Dialogue.run_focus answer _ _ (fun _ _ => rfl) (fun _ => rfl) (fun _ _ _ => rfl) fetch cache world

theorem run_remember_of_find?_eq_some (fetch : Dialogue (Cache κ ν) (Except ε ν))
    {cache : Cache κ ν} {key : κ} {value : ν} (world : ω)
    (found : cache.find? key = some value) :
    (remember key fetch).run answer cache world = (.ok value, (cache.get key).2, world) := by
  simp only [remember, Dialogue.run_bind, Dialogue.run_modifyGet, get_of_find?_eq_some found]
  rfl

/-- The cache after a fetch. -/
def storing (cache : Cache κ ν) (key : κ) : Except ε ν → Cache κ ν
  | .ok value => cache.insert key value
  | .error _ => cache

theorem run_remember_of_find?_eq_none (fetch : Dialogue (Cache κ ν) (Except ε ν))
    {cache : Cache κ ν} {key : κ} {world later : ω} {fetched : Except ε ν}
    (missing : cache.find? key = none)
    (fetching : fetch.run answer cache world = (fetched, cache, later)) :
    (remember key fetch).run answer cache world =
      (fetched, cache.storing key fetched, later) := by
  simp only [remember, Dialogue.run_bind, Dialogue.run_modifyGet, get_of_find?_eq_none missing,
    fetching]
  cases fetched <;> rfl

/-! ### Recalling what was fetched -/

/-- Every value is one that a fetch would give. -/
def Sound (fresh : κ → Except ε ν) (cache : Cache κ ν) : Prop :=
  ∀ key value, cache.find? key = some value → fresh key = .ok value

/-- No key is held twice, and all known keys can be held together. -/
structure Roomy (known : List κ) (cache : Cache κ ν) : Prop where
  distinct : cache.keys.Nodup
  within : cache.keys ⊆ known
  enough : known.length ≤ cache.capacity

/-- From one cache to another one some keys were wanted and some were asked for. As long as all
wanted keys can be held together, no key with a value is asked for while it is held, and it stays
when it was asked for. -/
structure Recalls (fresh : κ → Except ε ν) (wanted asked : List κ) (before after : Cache κ ν) :
    Prop where
  sound : before.Sound fresh → after.Sound fresh
  roomy : ∀ known, wanted ⊆ known → before.Roomy known → after.Roomy known
  once : ∀ known, wanted ⊆ known → before.Roomy known → ∀ key value, fresh key = .ok value →
    asked.count key + before.keys.count key ≤ after.keys.count key

variable {fresh : κ → Except ε ν} {cache : Cache κ ν} {key : κ}

theorem sound_empty (capacity : Nat) : (Cache.mk capacity [] : Cache κ ν).Sound fresh := nofun

omit [DecidableEq κ] in
theorem roomy_empty {capacity : Nat} {known : List κ} (enough : known.length ≤ capacity) :
    (Cache.mk capacity [] : Cache κ ν).Roomy known :=
  ⟨List.nodup_nil, List.nil_subset known, enough⟩

theorem Recalls.refl (cache : Cache κ ν) : Recalls fresh [] [] cache cache where
  sound := id
  roomy _ _ := id
  once _ _ _ _ _ _ := by simp

theorem Recalls.mono {wanted more asked : List κ} {before after : Cache κ ν}
    (recalls : Recalls fresh wanted asked before after) (contained : wanted ⊆ more) :
    Recalls fresh more asked before after where
  sound := recalls.sound
  roomy known within := recalls.roomy known (List.Subset.trans contained within)
  once known within := recalls.once known (List.Subset.trans contained within)

theorem Recalls.trans {wanted later asked further : List κ} {before between after : Cache κ ν}
    (first : Recalls fresh wanted asked before between)
    (second : Recalls fresh later further between after) :
    Recalls fresh (wanted ++ later) (asked ++ further) before after where
  sound := second.sound ∘ first.sound
  roomy known within room := by
    obtain ⟨early, late⟩ := List.append_subset.mp within
    exact second.roomy known late (first.roomy known early room)
  once known within room key value gives := by
    obtain ⟨early, late⟩ := List.append_subset.mp within
    have before := first.once known early room key value gives
    have after := second.once known late (first.roomy known early room) key value gives
    rw [List.count_append]
    omega

/-- Moving a key to the front keeps the keys. -/
theorem perm_cons_filter_ne {keys : List κ} (distinct : keys.Nodup) (present : key ∈ keys) :
    (key :: keys.filter fun other => other ≠ key).Perm keys := by
  have others : keys.erase key = keys.filter fun other => other ≠ key := by
    rw [distinct.erase_eq_filter]
    exact List.filter_congr fun other _ => (decide_not (p := other = key)).symm
  rw [← others]
  exact (List.perm_cons_erase present).symm

/-- Looking up a key asks for nothing. -/
theorem recalls_get (cache : Cache κ ν) (key : κ) :
    Recalls fresh [] [] cache (cache.get key).2 := by
  cases found : cache.find? key with
  | none =>
      rw [get_of_find?_eq_none found]
      exact .refl cache
  | some value =>
      have present := mem_keys_of_find?_eq_some found
      have same (distinct : cache.keys.Nodup) : (cache.get key).2.keys.Perm cache.keys := by
        rw [keys_get_of_mem present]
        exact perm_cons_filter_ne distinct present
      exact
        { sound := fun sound other value found => sound other value (by rwa [find?_get] at found)
          roomy := fun known _ room =>
            ⟨(same room.distinct).nodup_iff.mpr room.distinct,
              List.Subset.trans (same room.distinct).subset room.within,
              by rw [capacity_get]; exact room.enough⟩
          once := fun known _ room other value _ => by
            rw [(same room.distinct).count_eq]
            simp }

/-- A new key is stored beside the others if all can be held together. -/
theorem keys_insert_of_roomy (value : ν) {known : List κ} (room : cache.Roomy known)
    (wanted : key ∈ known) (absent : key ∉ cache.keys) :
    (cache.insert key value).keys = key :: cache.keys := by
  have others : cache.keys.filter (fun other => other ≠ key) = cache.keys :=
    List.filter_eq_self.mpr fun other member =>
      decide_eq_true fun same => absent (same ▸ member)
  have distinct : (key :: cache.keys).Nodup := List.nodup_cons.mpr ⟨absent, room.distinct⟩
  have within : key :: cache.keys ⊆ known := List.cons_subset.mpr ⟨wanted, room.within⟩
  have fits : (key :: cache.keys).length ≤ cache.capacity :=
    Nat.le_trans (distinct.length_le_of_subset within) room.enough
  rw [keys_insert, others, List.take_of_length_le fits]

/-- A key that was asked for and has a value is stored. -/
theorem recalls_insert {value : ν} (gives : fresh key = .ok value)
    (missing : cache.find? key = none) :
    Recalls fresh [key] [key] cache (cache.insert key value) := by
  have absent := (find?_eq_none_iff cache key).mp missing
  have keys {known : List κ} (within : [key] ⊆ known) (room : cache.Roomy known) :=
    keys_insert_of_roomy value room (within List.mem_cons_self) absent
  refine ⟨fun sound other found present => ?_, fun known within room => ?_,
    fun known within room other found _ => ?_⟩
  · rcases find?_insert_eq_some present with ⟨rfl, rfl⟩ | held
    · exact gives
    · exact sound other found held
  · refine ⟨?_, ?_, room.enough⟩
    · rw [keys within room]
      exact List.nodup_cons.mpr ⟨absent, room.distinct⟩
    · rw [keys within room]
      exact List.cons_subset.mpr ⟨within List.mem_cons_self, room.within⟩
  · rw [keys within room, List.count_cons, List.count_cons, List.count_nil]
    omega

/-- A key without a value may be asked for again. -/
theorem recalls_of_refused {error : ε} (refuses : fresh key = .error error)
    (cache : Cache κ ν) : Recalls fresh [key] [key] cache cache where
  sound := id
  roomy _ _ := id
  once known _ _ other value gives := by
    have different : other ≠ key := by
      rintro rfl
      rw [refuses] at gives
      cases gives
    simp [different.symm]

/-- Under distinct keys, none with a value is asked for twice. -/
theorem Recalls.count_le_one {wanted asked : List κ} {before after : Cache κ ν}
    (recalls : Recalls fresh wanted asked before after) {known : List κ}
    (within : wanted ⊆ known) (room : before.Roomy known) {key : κ} {value : ν}
    (gives : fresh key = .ok value) : asked.count key ≤ 1 := by
  have once := recalls.once known within room key value gives
  have held := List.nodup_iff_count.mp (recalls.roomy known within room).distinct key
  omega

end LightningGateway.Cache
