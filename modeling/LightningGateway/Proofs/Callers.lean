import LightningGateway.Gateway.Listings
import LightningGateway.Proofs.Courses
import LightningGateway.Proofs.Recency

/-!
# Callers of one cache

Any number of callers may share a cache. Each of them looks up its key in one step. If the value is
missing, the caller fetches it, which may take any number of questions, and stores it in one more
step. Between two steps of a caller the others may take any number of theirs, so two callers may
fetch the value of one key, and a value may drop out before its caller is done. Still, whatever is
held or returned was fetched by one of the callers for its key.
-/

namespace LightningGateway

namespace Dialogue

variable {σ α ω : Type}

/-- A single access to the state. Nothing comes between a look at the state and a change that is
made right after it. -/
def access : Dialogue σ α → σ → Dialogue σ α × σ
  | read next, state =>
      match next state with
      | write changed rest => (rest, changed)
      | rest => (rest, state)
  | write changed rest, _ => (rest, changed)
  | rest, state => (rest, state)

/-- A dialogue alone goes on from an access as it would have gone on anyway. -/
theorem run_access (answer : Surroundings ω) (dialogue : Dialogue σ α) (state : σ) (world : ω) :
    (dialogue.access state).1.run answer (dialogue.access state).2 world =
      dialogue.run answer state world := by
  cases dialogue with
  | done | write | ask => rfl
  | read next =>
      simp only [access, run]
      split
      · next changed rest written => rw [written, run]
      · rfl

end Dialogue

namespace Cache

variable {κ ν ε : Type} [DecidableEq κ]

/-- Someone who wants the value of a key. -/
structure Caller (κ ν ε : Type) where
  key : κ
  fetch : Dialogue Unit (Except ε ν)
  /-- What the cache held when the caller looked. -/
  found : Option ν
  /-- What the fetch has asked so far, with the answers. -/
  heard : List Answered
  left : Dialogue (Cache κ ν) (Except ε ν)

namespace Caller

def result? (caller : Caller κ ν ε) : Option (Except ε ν) :=
  match caller.left with
  | .done result => some result
  | _ => none

/-- A caller missed a value and returned what its fetch gave. -/
structure Fetched (caller : Caller κ ν ε) (value : ν) : Prop where
  missed : caller.found = none
  goes : caller.fetch.Goes caller.heard (.ok value)
  returned : caller.result? = some (.ok value)

/-- A new caller looks up its key. -/
def enter (key : κ) (fetch : Dialogue Unit (Except ε ν)) (cache : Cache κ ν) :
    Caller κ ν ε × Cache κ ν :=
  let looked := (remember key (beside fetch)).access cache
  (⟨key, fetch, (cache.get key).1, [], looked.1⟩, looked.2)

/-- A caller hears the answer to its question, or makes the next access to the cache. -/
def proceed (replies : Replies) (caller : Caller κ ν ε) (cache : Cache κ ν) :
    Caller κ ν ε × Cache κ ν :=
  match caller.left with
  | .ask query next =>
      ({ caller with
          heard := caller.heard ++ [⟨query, replies query⟩]
          left := next (replies query) }, cache)
  | left => ({ caller with left := (left.access cache).1 }, (left.access cache).2)

end Caller

inductive Move (κ ν ε : Type) where
  | enter (key : κ) (fetch : Dialogue Unit (Except ε ν))
  /-- The caller at a place goes on, if there is one. -/
  | proceed (place : Nat) (replies : Replies)

/-- A cache with all who have called it. -/
structure Shared (κ ν ε : Type) where
  cache : Cache κ ν
  callers : List (Caller κ ν ε)

/-- The place of the caller that makes a move. -/
def Move.place (shared : Shared κ ν ε) : Move κ ν ε → Nat
  | enter _ _ => shared.callers.length
  | proceed place _ => place

def Shared.next (shared : Shared κ ν ε) : Move κ ν ε → Shared κ ν ε
  | .enter key fetch =>
      let moved := Caller.enter key fetch shared.cache
      ⟨moved.2, shared.callers ++ [moved.1]⟩
  | .proceed place replies =>
      match shared.callers[place]? with
      | none => shared
      | some caller =>
          let moved := caller.proceed replies shared.cache
          ⟨moved.2, shared.callers.set place moved.1⟩

/-- An empty cache after some moves of its callers. -/
def shared (capacity : Nat) (moves : List (Move κ ν ε)) : Shared κ ν ε :=
  moves.foldl Shared.next ⟨.empty capacity, []⟩

/-! ### The steps of a caller -/

/-- What a caller does with what it fetched. -/
def keep (key : κ) : Except ε ν → Dialogue (Cache κ ν) (Except ε ν)
  | .ok value => do
      modify fun cache => cache.insert key value
      return .ok value
  | .error error => return .error error

/-- What a caller does with what the cache held. -/
def resume (key : κ) (fetch : Dialogue (Cache κ ν) (Except ε ν)) :
    Option ν → Dialogue (Cache κ ν) (Except ε ν)
  | some value => return .ok value
  | none => fetch >>= keep key

theorem remember_eq_resume (key : κ) (fetch : Dialogue (Cache κ ν) (Except ε ν)) :
    remember key fetch = (modifyGet fun cache => cache.get key) >>= resume key fetch := rfl

/-- A look-up is a single access. -/
theorem access_remember (key : κ) (fetch : Dialogue (Cache κ ν) (Except ε ν)) (cache : Cache κ ν) :
    (remember key fetch).access cache =
      (resume key fetch (cache.get key).1, (cache.get key).2) := by
  rw [remember_eq_resume]
  rfl

/-- What is left of a fetch never changes the cache right after a look at it. -/
theorem access_fetching (key : κ) (next : Unit → Dialogue Unit (Except ε ν)) (cache : Cache κ ν) :
    (beside (.read next) >>= keep key).access cache = (beside (next ()) >>= keep key, cache) := by
  have opened : beside (.read next) >>= keep key =
      Dialogue.read fun _ => beside (next ()) >>= keep key := rfl
  rw [opened, Dialogue.access]
  cases next () with
  | done fetched => cases fetched <;> rfl
  | read | write | ask => rfl

namespace Caller

variable {caller : Caller κ ν ε} {value : ν}

theorem enter_of_find?_eq_some {cache : Cache κ ν} {key : κ} (found : cache.find? key = some value)
    (fetch : Dialogue Unit (Except ε ν)) :
    enter key fetch cache =
      (⟨key, fetch, some value, [], pure (.ok value)⟩, (cache.get key).2) := by
  have looked : (cache.get key).1 = some value := (fst_get cache key).trans found
  simp only [enter, access_remember, looked, resume]

theorem enter_of_find?_eq_none {cache : Cache κ ν} {key : κ} (missing : cache.find? key = none)
    (fetch : Dialogue Unit (Except ε ν)) :
    enter key fetch cache = (⟨key, fetch, none, [], beside fetch >>= keep key⟩, cache) := by
  simp only [enter, access_remember, get_of_find?_eq_none missing, resume]

omit [DecidableEq κ] in
/-- A caller that has returned does nothing more. -/
theorem proceed_of_returned {result : Except ε ν} (returned : caller.result? = some result)
    (replies : Replies) (cache : Cache κ ν) : caller.proceed replies cache = (caller, cache) := by
  obtain ⟨key, fetch, found, heard, left⟩ := caller
  cases left with
  | done => rfl
  | read | write | ask => cases returned

/-- How far a caller can have come. -/
inductive Stands (caller : Caller κ ν ε) : Prop where
  | told (value : ν) (found : caller.found = some value) (returned : caller.left = pure (.ok value))
  /-- The rest of the fetch gives what the fetch gives, and is then kept. -/
  | fetching (rest : Dialogue Unit (Except ε ν)) (missed : caller.found = none)
      (remains : caller.left = beside rest >>= keep caller.key)
      (continues : ∀ said result, rest.Goes said result →
        caller.fetch.Goes (caller.heard ++ said) result)
  | stored (value : ν) (fetched : caller.Fetched value)

/-- What a caller got was told by the cache or fetched. -/
theorem Stands.of_returned (stands : caller.Stands)
    (returned : caller.result? = some (.ok value)) :
    caller.found = some value ∨ caller.Fetched value := by
  cases stands with
  | told held found left =>
      rw [result?, left] at returned
      cases returned
      exact Or.inl found
  | fetching rest missed remains continues =>
      rw [result?, remains] at returned
      cases rest with
      | done fetched => cases fetched <;> cases returned
      | read | write | ask => cases returned
  | stored held fetched =>
      have same := fetched.returned.symm.trans returned
      cases same
      exact Or.inr fetched

/-- What a move of a caller does to the cache. -/
inductive Effect (caller : Caller κ ν ε) (cache : Cache κ ν) : Cache κ ν → Prop where
  | unchanged : Effect caller cache cache
  | told (value : ν) (returned : caller.result? = some (.ok value)) :
      Effect caller cache (cache.get caller.key).2
  | stored (value : ν) (fetched : caller.Fetched value) :
      Effect caller cache (cache.insert caller.key value)

/-- Of the cache only what was used last may change. -/
theorem Effect.keeps {capacity : Nat} {cache changed : Cache κ ν}
    (effect : caller.Effect cache changed) (keeps : ∃ touches, Keeps capacity touches cache) :
    ∃ touches, Keeps capacity touches changed := by
  obtain ⟨touches, keeps⟩ := keeps
  cases effect with
  | unchanged => exact ⟨touches, keeps⟩
  | stored value => exact ⟨_, keeps.store caller.key value⟩
  | told =>
      cases found : cache.find? caller.key with
      | some value => exact ⟨_, keeps.hit found⟩
      | none =>
          rw [get_of_find?_eq_none found]
          exact ⟨touches, keeps⟩

theorem Effect.find?_eq_some {cache changed : Cache κ ν} (effect : caller.Effect cache changed)
    {key : κ} (found : changed.find? key = some value) :
    cache.find? key = some value ∨ caller.key = key ∧ caller.Fetched value := by
  cases effect with
  | unchanged => exact Or.inl found
  | told => exact Or.inl ((find?_get cache caller.key key).symm.trans found)
  | stored held fetched =>
      rcases find?_insert_eq_some found with ⟨rfl, rfl⟩ | earlier
      · exact Or.inr ⟨rfl, fetched⟩
      · exact Or.inl earlier

theorem Effect.eq_or_returned {cache changed : Cache κ ν} (effect : caller.Effect cache changed) :
    changed = cache ∨ ∃ value, caller.result? = some (.ok value) := by
  cases effect with
  | unchanged => exact Or.inl rfl
  | told value returned => exact Or.inr ⟨value, returned⟩
  | stored value fetched => exact Or.inr ⟨value, fetched.returned⟩

/-- A caller that nobody interrupts comes to what it would come to alone. -/
theorem run_enter {ω : Type} (answer : Surroundings ω) (key : κ)
    (fetch : Dialogue Unit (Except ε ν)) (cache : Cache κ ν) (world : ω) :
    (enter key fetch cache).1.left.run answer (enter key fetch cache).2 world =
      (remember key (beside fetch)).run answer cache world :=
  Dialogue.run_access answer _ cache world

theorem stands_enter (key : κ) (fetch : Dialogue Unit (Except ε ν)) (cache : Cache κ ν) :
    (enter key fetch cache).1.Stands ∧
      (enter key fetch cache).1.Effect cache (enter key fetch cache).2 := by
  cases found : cache.find? key with
  | some value =>
      rw [enter_of_find?_eq_some found]
      exact ⟨.told value rfl rfl, .told value rfl⟩
  | none =>
      rw [enter_of_find?_eq_none found]
      exact ⟨.fetching fetch rfl rfl fun said result goes => goes, .unchanged⟩

theorem Stands.proceed (stands : caller.Stands) (replies : Replies) (cache : Cache κ ν) :
    (caller.proceed replies cache).1.Stands ∧
      (caller.proceed replies cache).1.Effect cache (caller.proceed replies cache).2 := by
  cases stands with
  | told value found left =>
      rw [proceed_of_returned (by rw [result?, left]; rfl)]
      exact ⟨.told value found left, .unchanged⟩
  | stored value fetched =>
      rw [proceed_of_returned fetched.returned]
      exact ⟨.stored value fetched, .unchanged⟩
  | fetching rest missed remains continues =>
      obtain ⟨key, fetch, found, heard, left⟩ := caller
      dsimp only at missed remains continues
      subst missed remains
      cases rest with
      | done fetched =>
          cases fetched with
          | error error => exact ⟨.fetching (.done (.error error)) rfl rfl continues, .unchanged⟩
          | ok value =>
              have goes := continues [] (.ok value) (.done _)
              rw [List.append_nil] at goes
              exact ⟨.stored value ⟨rfl, goes, rfl⟩, .stored value ⟨rfl, goes, rfl⟩⟩
      | read next =>
          have went : proceed replies ⟨key, fetch, none, heard, beside (.read next) >>= keep key⟩
              cache = (⟨key, fetch, none, heard, beside (next ()) >>= keep key⟩, cache) := by
            change (Caller.mk key fetch none heard
              ((beside (.read next) >>= keep key).access cache).1, _) = _
            rw [access_fetching]
          rw [went]
          refine ⟨.fetching (next ()) rfl rfl ?_, .unchanged⟩
          intro said result goes
          exact continues said result (.read () goes)
      | write inner next =>
          refine ⟨.fetching next rfl rfl ?_, .unchanged⟩
          intro said result goes
          exact continues said result (.write inner goes)
      | ask query next =>
          refine ⟨.fetching (next (replies query)) rfl rfl ?_, .unchanged⟩
          intro said result goes
          have whole := continues (⟨query, replies query⟩ :: said) result (.ask _ goes)
          rwa [List.append_cons] at whole

omit [DecidableEq κ] in
theorem key_proceed (replies : Replies) (caller : Caller κ ν ε) (cache : Cache κ ν) :
    (caller.proceed replies cache).1.key = caller.key := by
  unfold proceed
  split <;> rfl

omit [DecidableEq κ] in
theorem fetch_proceed (replies : Replies) (caller : Caller κ ν ε) (cache : Cache κ ν) :
    (caller.proceed replies cache).1.fetch = caller.fetch := by
  unfold proceed
  split <;> rfl

omit [DecidableEq κ] in
theorem found_proceed (replies : Replies) (caller : Caller κ ν ε) (cache : Cache κ ν) :
    (caller.proceed replies cache).1.found = caller.found := by
  unfold proceed
  split <;> rfl

end Caller

/-! ### Any moves -/

namespace Shared

variable {capacity : Nat} {shared : Shared κ ν ε} {caller : Caller κ ν ε} {key : κ} {value : ν}

/-- One of the callers fetched a value for a key. -/
def Fetches (shared : Shared κ ν ε) (key : κ) (value : ν) : Prop :=
  ∃ caller ∈ shared.callers, caller.key = key ∧ caller.Fetched value

/-- What is held, and what was told to a caller, was fetched by one of the callers. -/
structure Accounted (capacity : Nat) (shared : Shared κ ν ε) : Prop where
  keeps : ∃ touches, Keeps capacity touches shared.cache
  stands : ∀ caller ∈ shared.callers, caller.Stands
  held : ∀ key value, shared.cache.find? key = some value → shared.Fetches key value
  told : ∀ caller ∈ shared.callers, ∀ value, caller.found = some value →
    shared.Fetches caller.key value

theorem next_proceed {place : Nat} (present : shared.callers[place]? = some caller)
    (replies : Replies) :
    shared.next (.proceed place replies) =
      ⟨(caller.proceed replies shared.cache).2,
        shared.callers.set place (caller.proceed replies shared.cache).1⟩ := by
  rw [next, present]

/-- A caller that has returned stays as it is. -/
theorem getElem?_next {place : Nat} {result : Except ε ν}
    (present : shared.callers[place]? = some caller) (returned : caller.result? = some result)
    (move : Move κ ν ε) : (shared.next move).callers[place]? = some caller := by
  obtain ⟨within, -⟩ := List.getElem?_eq_some_iff.mp present
  cases move with
  | enter key fetch => exact (List.getElem?_append_left within).trans present
  | proceed mover replies =>
      cases found : shared.callers[mover]? with
      | none => rwa [next, found]
      | some other =>
          rw [next_proceed found]
          by_cases same : mover = place
          · subst mover
            cases found.symm.trans present
            rw [Caller.proceed_of_returned returned]
            exact List.getElem?_set_self within
          · exact (List.getElem?_set_ne same).trans present

theorem getElem?_foldl {place : Nat} {result : Except ε ν}
    (present : shared.callers[place]? = some caller) (returned : caller.result? = some result)
    (moves : List (Move κ ν ε)) : (moves.foldl next shared).callers[place]? = some caller := by
  induction moves generalizing shared with
  | nil => exact present
  | cons move later ih => exact ih (getElem?_next present returned move)

theorem Fetches.next (fetches : shared.Fetches key value) (move : Move κ ν ε) :
    (shared.next move).Fetches key value := by
  obtain ⟨source, member, same, fetched⟩ := fetches
  obtain ⟨place, present⟩ := List.mem_iff_getElem?.mp member
  exact ⟨source, List.mem_of_getElem? (getElem?_next present fetched.returned move), same, fetched⟩

/-- A caller made a move. -/
structure Moved (before after : Shared κ ν ε) (caller : Caller κ ν ε) : Prop where
  stands : caller.Stands
  effect : caller.Effect before.cache after.cache
  told : ∀ value, caller.found = some value → before.Fetches caller.key value
  others : ∀ other ∈ after.callers, other ∈ before.callers ∨ other = caller

theorem Accounted.moved (accounted : shared.Accounted capacity) (move : Move κ ν ε) :
    shared.next move = shared ∨
      ∃ caller, (shared.next move).callers[move.place shared]? = some caller ∧
        Moved shared (shared.next move) caller := by
  cases move with
  | enter key fetch =>
      obtain ⟨stands, effect⟩ := Caller.stands_enter key fetch shared.cache
      right
      refine ⟨(Caller.enter key fetch shared.cache).1, List.getElem?_concat_length, stands, effect,
        ?_, ?_⟩
      · intro value found
        apply accounted.held
        exact (fst_get shared.cache key).symm.trans found
      · intro other member
        exact (List.mem_append.mp member).imp_right List.mem_singleton.mp
  | proceed place replies =>
      cases present : shared.callers[place]? with
      | none =>
          left
          rw [next, present]
      | some caller =>
          have member := List.mem_of_getElem? present
          obtain ⟨within, -⟩ := List.getElem?_eq_some_iff.mp present
          obtain ⟨stands, effect⟩ := (accounted.stands caller member).proceed replies shared.cache
          rw [next_proceed present]
          right
          refine ⟨(caller.proceed replies shared.cache).1, List.getElem?_set_self within, stands,
            effect, ?_, fun other => List.mem_or_eq_of_mem_set⟩
          intro value found
          rw [Caller.found_proceed] at found
          rw [Caller.key_proceed]
          exact accounted.told caller member value found

theorem Accounted.next (accounted : shared.Accounted capacity) (move : Move κ ν ε) :
    (shared.next move).Accounted capacity := by
  rcases accounted.moved move with same | ⟨caller, present, moved⟩
  · rw [same]
    exact accounted
  · constructor
    · exact moved.effect.keeps accounted.keeps
    · intro other member
      rcases moved.others other member with earlier | rfl
      · exact accounted.stands other earlier
      · exact moved.stands
    · intro key value found
      rcases moved.effect.find?_eq_some found with earlier | ⟨same, fetched⟩
      · exact (accounted.held key value earlier).next move
      · exact ⟨caller, List.mem_of_getElem? present, same, fetched⟩
    · intro other member value found
      rcases moved.others other member with earlier | rfl
      · exact (accounted.told other earlier value found).next move
      · exact (moved.told value found).next move

theorem accounted_shared (capacity : Nat) (moves : List (Move κ ν ε)) :
    (Cache.shared capacity moves).Accounted capacity := by
  induction moves using List.reverseRecOn with
  | nil => exact ⟨⟨[], .empty capacity⟩, nofun, nofun, nofun⟩
  | append_singleton moves move ih =>
      rw [Cache.shared, List.foldl_append]
      exact ih.next move

/-- What a caller returned was fetched for its key. -/
theorem Accounted.fetches_of_returned (accounted : shared.Accounted capacity)
    (member : caller ∈ shared.callers) (returned : caller.result? = some (.ok value)) :
    shared.Fetches caller.key value := by
  rcases (accounted.stands caller member).of_returned returned with found | fetched
  · exact accounted.told caller member value found
  · exact ⟨caller, member, rfl, fetched⟩

/-- A move of a caller that fails in the end does not change the cache. -/
theorem cache_next_of_fails {error : ε} (accounted : shared.Accounted capacity) (move : Move κ ν ε)
    (later : List (Move κ ν ε))
    (present : (later.foldl next (shared.next move)).callers[move.place shared]? = some caller)
    (fails : caller.result? = some (.error error)) :
    (shared.next move).cache = shared.cache := by
  rcases accounted.moved move with same | ⟨mover, moved, ⟨-, effect, -, -⟩⟩
  · rw [same]
  · rcases effect.eq_or_returned with unchanged | ⟨value, returned⟩
    · exact unchanged
    · -- A caller that has returned a value stays as it is, so it is not one that fails.
      cases (getElem?_foldl moved returned later).symm.trans present
      cases returned.symm.trans fails

end Shared

/-- Whatever the callers of a cache do, it never holds more than it can. What a caller returns and
what is held for a key was fetched for that key by one of the callers, which returned it too. A
caller that fails has not changed the cache. So if all that is fetched for a key is the same value,
nothing else is returned for it. -/
theorem fetched_by_callers (capacity : Nat) (moves : List (Move κ ν ε)) :
    let shared := shared capacity moves
    shared.cache.length ≤ max capacity 1 ∧
      (∀ caller ∈ shared.callers, ∀ value, caller.result? = some (.ok value) →
        ∃ source ∈ shared.callers, source.key = caller.key ∧ source.Fetched value) ∧
      (∀ key value, shared.cache.find? key = some value →
        ∃ source ∈ shared.callers, source.key = key ∧ source.Fetched value) ∧
      (∀ earlier move later, moves = earlier ++ move :: later →
        ∀ caller error,
          shared.callers[move.place (Cache.shared capacity earlier)]? = some caller →
          caller.result? = some (.error error) →
          (Cache.shared capacity (earlier ++ [move])).cache =
            (Cache.shared capacity earlier).cache) ∧
      ∀ key value,
        (∀ source ∈ shared.callers, ∀ fetched, source.key = key → source.Fetched fetched →
          fetched = value) →
        ∀ caller ∈ shared.callers, ∀ result, caller.key = key →
          caller.result? = some (.ok result) → result = value := by
  intro shared
  have accounted : shared.Accounted capacity := Shared.accounted_shared capacity moves
  obtain ⟨touches, keeps⟩ := accounted.keeps
  refine ⟨keeps.length_le, ?_, accounted.held, ?_, ?_⟩
  · intro caller member value returned
    exact accounted.fetches_of_returned member returned
  · intro earlier move later split caller error present fails
    subst split
    have before := Shared.accounted_shared capacity earlier
    have final : shared = later.foldl Shared.next ((Cache.shared capacity earlier).next move) := by
      simp only [shared, Cache.shared, List.foldl_append, List.foldl_cons]
    have after : Cache.shared capacity (earlier ++ [move]) =
        (Cache.shared capacity earlier).next move := by
      simp only [Cache.shared, List.foldl_append, List.foldl_cons, List.foldl_nil]
    rw [final] at present
    rw [after]
    exact Shared.cache_next_of_fails before move later present fails
  · intro key value agree caller member result same returned
    obtain ⟨source, listed, alike, fetched⟩ := accounted.fetches_of_returned member returned
    exact agree source listed result (alike.trans same) fetched

/-- The clock stands at a time. -/
def clock (time : UInt64) : Replies
  | .now => time
  | query => Replies.answering (.error .missingResult) (fun _ => .error .missingResult)
      (fun _ => .error .missingResult) query

/-- A room for one. Two callers miss the first key, a third one fails to get the second key, and a
fourth one gets it. The first key drops out, and comes back for the last caller. -/
def crowdedMoves : List (Move Nat Nat String) :=
  [.enter 1 (lateness 5), .enter 1 (lateness 5), .enter 2 (lateness 0), .proceed 0 (clock 3),
    .proceed 0 (clock 3), .proceed 2 (clock 3), .enter 2 (lateness 5), .proceed 3 (clock 4),
    .proceed 3 (clock 4), .proceed 1 (clock 3), .proceed 1 (clock 3), .enter 1 (lateness 5)]

theorem fetched_by_callers_crowded :
    let shared := shared 1 crowdedMoves
    shared.callers.map (fun caller => (caller.key, caller.result?)) =
        [(1, some (.ok 3)), (1, some (.ok 3)), (2, some (.error "late")), (2, some (.ok 4)),
          (1, some (.ok 3))] ∧
      shared.cache.length ≤ 1 ∧
      (∃ source ∈ shared.callers, source.key = 2 ∧ source.Fetched 4) ∧
      shared.cache.find? 1 = some 3 ∧
      (∃ source ∈ shared.callers, source.key = 1 ∧ source.Fetched 3) ∧
      (Cache.shared 1 (crowdedMoves.take 5 ++ [.proceed 2 (clock 3)])).cache =
        (Cache.shared 1 (crowdedMoves.take 5)).cache ∧
      (∀ source ∈ shared.callers, ∀ fetched, source.key = 1 → source.Fetched fetched →
        fetched = 3) ∧
      ∀ caller ∈ shared.callers, ∀ result, caller.key = 1 → caller.result? = some (.ok result) →
        result = 3 := by
  intro shared
  obtain ⟨short, returned, held, unchanged, agreed⟩ := fetched_by_callers 1 crowdedMoves
  have fourth : ∃ caller ∈ shared.callers, caller.key = 2 ∧ caller.result? = some (.ok 4) := by
    decide
  obtain ⟨caller, member, second, gave⟩ := fourth
  have present : shared.cache.find? 1 = some 3 := by decide
  have threes : ∀ source ∈ shared.callers, source.key = 1 → source.result? = some (.ok 3) := by
    decide
  have agree : ∀ source ∈ shared.callers, ∀ fetched, source.key = 1 → source.Fetched fetched →
      fetched = 3 := by
    intro source listed fetched first gives
    cases gives.returned.symm.trans (threes source listed first)
    rfl
  have third : shared.callers[2]? = some shared.callers[2] := rfl
  exact ⟨by decide, short, second ▸ returned caller member 4 gave, present, held 1 3 present,
    unchanged (crowdedMoves.take 5) (.proceed 2 (clock 3)) (crowdedMoves.drop 6) rfl _ "late" third
      (by decide), agree, agreed 1 3 agree⟩

/-! ### The caches of a session -/

omit [DecidableEq κ] in
theorem beside_bind {α β : Type} (fetch : Dialogue Unit α) (next : α → Dialogue Unit β) :
    (beside (fetch >>= next) : Dialogue (Cache κ ν) β) =
      beside fetch >>= fun value => beside (next value) := by
  induction fetch with
  | done value => rfl
  | read more ih => exact congrArg Dialogue.read (funext fun _ => ih ())
  | write state more ih => exact congrArg Dialogue.read (funext fun cache => congrArg _ ih)
  | ask query more ih => exact congrArg (Dialogue.ask query) (funext ih)

omit [DecidableEq κ] in
theorem beside_call {α : Type} (codec : Codec α) (method : String) (parameter : Json) :
    (beside (Chain.call codec method parameter) : Dialogue (Cache κ ν) _) =
      Chain.call codec method parameter := by
  unfold Chain.call
  rw [beside_bind]
  refine congrArg (Dialogue.query _ >>= ·) (funext fun reply => ?_)
  cases reply with
  | error error => rfl
  | ok value =>
      dsimp only
      cases codec.decode value <;> rfl

omit [DecidableEq κ] in
/-- Asking for a block leaves the blocks that are remembered alone. -/
theorem beside_fetchBlockTime (height : UInt32) :
    (beside (Chain.fetchBlockTime height) : Dialogue (Cache κ ν) _) =
      Chain.fetchBlockTime height := by
  unfold Chain.fetchBlockTime
  rw [beside_bind, beside_call]
  refine congrArg (_ >>= ·) (funext fun fetched => ?_)
  cases fetched with
  | error error => rfl
  | ok hash => exact beside_call _ _ _

theorem blockTime_eq_remember (height : UInt32) :
    Chain.blockTime height = remember height (beside (Chain.fetchBlockTime height)) :=
  congrArg (remember height) (beside_fetchBlockTime height).symm

end Cache

end LightningGateway
