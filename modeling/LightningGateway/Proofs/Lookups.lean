import Mathlib.Data.List.Forall2
import LightningGateway.Proofs.Callers
import LightningGateway.Transaction

/-!
# Lookups side by side

The blocks of several transactions are looked up side by side, each lookup at the place of its
transaction. Between two steps of a lookup the others may take any number of theirs, and whoever
else uses the cache may change it. Still, each lookup ends after at most four steps with what the
cache held when it looked or with what the chain server told it. Nothing else is stored, and a
result is found at the place of its transaction.
-/

namespace LightningGateway

namespace Dialogue

variable {α : Type}

/-- What a dialogue without a state comes to depends on what it is told only. -/
theorem Goes.unique {dialogue : Dialogue Unit α} {said : List Answered} {first second : α}
    (goes : dialogue.Goes said first) (other : dialogue.Goes said second) : first = second := by
  induction goes with
  | done value =>
      cases other
      rfl
  | read state _ ih =>
      cases other with
      | read _ rest => exact ih rest
  | write state _ ih =>
      cases other with
      | write _ rest => exact ih rest
  | ask reply _ ih =>
      cases other with
      | ask _ rest => exact ih rest

end Dialogue

namespace Cache.Caller

variable {κ ν ε : Type} [DecidableEq κ] {caller : Caller κ ν ε} {result : Except ε ν} {value : ν}

/-- A caller returns what the cache held. -/
theorem Stands.eq_of_found (stands : caller.Stands) (returned : caller.result? = some result)
    (found : caller.found = some value) : result = .ok value := by
  cases stands with
  | told held same left =>
      rw [result?, left] at returned
      cases found.symm.trans same
      exact (Option.some.inj returned).symm
  | fetching rest missed => cases missed.symm.trans found
  | stored held fetched => cases fetched.missed.symm.trans found

/-- A caller that found nothing returns what it fetched. -/
theorem Stands.eq_of_goes (stands : caller.Stands) (returned : caller.result? = some result)
    (missed : caller.found = none) (goes : caller.fetch.Goes caller.heard (.ok value)) :
    result = .ok value := by
  cases stands with
  | told held found left => cases missed.symm.trans found
  | stored held fetched =>
      cases fetched.goes.unique goes
      exact Option.some.inj (returned.symm.trans fetched.returned)
  | fetching rest _ remains continues =>
      rw [result?, remains] at returned
      cases rest with
      | done fetched =>
          have gave := continues [] fetched (.done fetched)
          rw [List.append_nil] at gave
          cases gave.unique goes
          cases returned
      | read | write | ask => cases returned

end Cache.Caller

theorem Gateway.reading_eq_ok_iff {α : Type} {codec : Codec α} {reply : Except TransportError Json}
    {value : α} :
    reading codec reply = .ok value ↔
      ∃ told, reply = .ok told ∧ codec.decode told = .ok value := by
  cases reply with
  | error error => exact ⟨nofun, nofun⟩
  | ok told =>
      dsimp only [reading, Except.bind]
      cases decoded : codec.decode told <;> simp [Except.mapError, decoded]

namespace Chain

/-! ### What the chain server tells -/

/-- The chain server tells the times of the block at a height: first its hash, then the block. -/
def Tells (height : UInt32) (heard : List Answered) (block : BlockTime) : Prop :=
  ∃ stats hash header,
    heard =
      [⟨.chainCall "getblockstats" (.array [.ofNat height.toNat]), .ok stats⟩,
        ⟨.chainCall "getblock" (.array [.string hash]), .ok header⟩] ∧
    BlockTime.hashCodec.decode stats = .ok hash ∧ BlockTime.codec.decode header = .ok block

theorem call_eq_reading {σ α : Type} (codec : Codec α) (method : String) (parameter : Json) :
    (call codec method parameter : Dialogue σ _) =
      Dialogue.query (.chainCall method (.array [parameter])) >>= fun reply =>
        pure (Gateway.reading codec reply) := by
  refine congrArg (Dialogue.query _ >>= ·) (funext fun reply => ?_)
  cases reply with
  | error error => rfl
  | ok value =>
      dsimp only [Gateway.reading, Except.bind]
      cases codec.decode value <;> rfl

theorem goes_call_ok {σ α : Type} {codec : Codec α} {method : String} {parameter : Json}
    {heard : List Answered} {value : α} :
    (call codec method parameter : Dialogue σ _).Goes heard (.ok value) ↔
      ∃ reply, heard = [⟨.chainCall method (.array [parameter]), .ok reply⟩] ∧
        codec.decode reply = .ok value := by
  rw [call_eq_reading, Dialogue.goes_bind]
  constructor
  · rintro ⟨asked, rest, reply, rfl, begins, continues⟩
    obtain rfl := Dialogue.goes_query.mp begins
    obtain ⟨rfl, read⟩ := Dialogue.goes_pure.mp continues
    obtain ⟨told, rfl, decoded⟩ := Gateway.reading_eq_ok_iff.mp read.symm
    exact ⟨told, List.append_nil _, decoded⟩
  · rintro ⟨reply, rfl, decoded⟩
    refine ⟨_, [], .ok reply, (List.append_nil _).symm, Dialogue.goes_query.mpr rfl, ?_⟩
    exact Dialogue.goes_pure.mpr ⟨rfl, (Gateway.reading_eq_ok_iff.mpr ⟨reply, rfl, decoded⟩).symm⟩

theorem goes_fetchBlockTime_ok {σ : Type} {height : UInt32} {heard : List Answered}
    {block : BlockTime} :
    (fetchBlockTime height : Dialogue σ _).Goes heard (.ok block) ↔ Tells height heard block := by
  rw [fetchBlockTime, Dialogue.goes_bind]
  constructor
  · rintro ⟨first, second, hash, rfl, begins, continues⟩
    cases hash with
    | error error => cases (Dialogue.goes_pure.mp continues).2
    | ok hash =>
        obtain ⟨stats, rfl, named⟩ := goes_call_ok.mp begins
        obtain ⟨header, rfl, dated⟩ := goes_call_ok.mp continues
        exact ⟨stats, hash, header, rfl, named, dated⟩
  · rintro ⟨stats, hash, header, rfl, named, dated⟩
    exact ⟨_, _, .ok hash, rfl, goes_call_ok.mpr ⟨stats, rfl, named⟩,
      goes_call_ok.mpr ⟨header, rfl, dated⟩⟩

/-! ### Lookups and their steps -/

/-- A lookup of the block that holds a transaction. -/
inductive Lookup where
  /-- The height is not known, so there is nothing to look up. -/
  | idle
  | waiting (height : UInt32)
  | begun (caller : Cache.Caller UInt32 BlockTime TransportError)

namespace Lookup

def of (transaction : OnChainTransaction) : Lookup :=
  match transaction.blockHeight with
  | none => idle
  | some height => waiting height

/-- A lookup begins, hears the answer to its question, or makes the next access to the cache. -/
def proceed (replies : Replies) (lookup : Lookup) (cache : Cache UInt32 BlockTime) :
    Lookup × Cache UInt32 BlockTime :=
  match lookup with
  | idle => (idle, cache)
  | waiting height =>
      let moved := Cache.Caller.enter height (fetchBlockTime height) cache
      (begun moved.1, moved.2)
  | begun caller =>
      let moved := caller.proceed replies cache
      (begun moved.1, moved.2)

/-- What a lookup has come to, once it has ended. There is no block if the height is not known. -/
def result? : Lookup → Option (Except TransportError (Option BlockTime))
  | idle => some (.ok none)
  | waiting _ => none
  | begun caller => caller.result?.map (Except.map some)

/-- The cache held the block when the lookup began. -/
def Recalls (lookup : Lookup) (height : UInt32) (block : BlockTime) : Prop :=
  ∃ caller, lookup = begun caller ∧ caller.key = height ∧ caller.found = some block

/-- The cache held no block when the lookup began, and the chain server told it. -/
def Fetches (lookup : Lookup) (height : UInt32) (block : BlockTime) : Prop :=
  ∃ caller, lookup = begun caller ∧ caller.key = height ∧ caller.found = none ∧
    Tells height caller.heard block

end Lookup

/-- Lookups side by side, each at the place of its transaction. -/
structure Joint where
  cache : Cache UInt32 BlockTime
  lookups : List Lookup

inductive Step where
  /-- The lookup at a place goes on, if there is one. -/
  | proceed (place : Nat) (replies : Replies)
  /-- Others have used the cache. -/
  | meanwhile (cache : Cache UInt32 BlockTime)

def Joint.next (joint : Joint) : Step → Joint
  | .proceed place replies =>
      match joint.lookups[place]? with
      | none => joint
      | some lookup =>
          let moved := lookup.proceed replies joint.cache
          ⟨moved.2, joint.lookups.set place moved.1⟩
  | .meanwhile cache => { joint with cache }

/-- The lookups for some transactions after some steps. -/
def joint (cache : Cache UInt32 BlockTime) (transactions : List OnChainTransaction)
    (steps : List Step) : Joint :=
  steps.foldl Joint.next ⟨cache, transactions.map Lookup.of⟩

/-- How many steps the lookup at a place has taken. -/
def turnsAt (place : Nat) (steps : List Step) : Nat :=
  steps.countP fun
    | .proceed mover _ => mover == place
    | .meanwhile _ => false

/-- A transaction after the lookup of its block. -/
def dated (transaction : OnChainTransaction) :
    Except TransportError (Option BlockTime) → OnChainTransaction
  | .ok (some block) => { transaction with timeStamp := block.time }
  | .ok none => transaction
  | .error _ => transaction

/-- The transactions with the results of their lookups, once all of these have ended. -/
def dateJointly (cache : Cache UInt32 BlockTime) (transactions : List OnChainTransaction)
    (steps : List Step) : Option (List OnChainTransaction) := do
  let results ← (joint cache transactions steps).lookups.mapM Lookup.result?
  return List.zipWith dated transactions results

/-! ### One lookup -/

namespace Lookup

variable {lookup : Lookup} {result : Except TransportError (Option BlockTime)}

/-- A lookup that has ended does nothing more. -/
theorem proceed_of_ended (ended : lookup.result? = some result) (replies : Replies)
    (cache : Cache UInt32 BlockTime) : lookup.proceed replies cache = (lookup, cache) := by
  cases lookup with
  | idle => rfl
  | waiting height => cases ended
  | begun caller =>
      obtain ⟨_, returned, -⟩ := Option.map_eq_some_iff.mp ended
      rw [proceed, Cache.Caller.proceed_of_returned returned]

/-- A lookup ends after some more of its own steps, whatever it is told and whatever the cache
holds at each of them. -/
def EndsWithin : Nat → Lookup → Prop
  | 0, lookup => ∃ result, lookup.result? = some result
  | steps + 1, lookup => ∀ replies cache, EndsWithin steps (lookup.proceed replies cache).1

theorem endsWithin_of_ended (ended : lookup.result? = some result) (steps : Nat) :
    lookup.EndsWithin steps := by
  induction steps with
  | zero => exact ⟨result, ended⟩
  | succ steps ih =>
      intro replies cache
      rw [proceed_of_ended ended]
      exact ih

theorem EndsWithin.proceed {steps : Nat} (ends : lookup.EndsWithin steps) (replies : Replies)
    (cache : Cache UInt32 BlockTime) : (lookup.proceed replies cache).1.EndsWithin (steps - 1) := by
  cases steps with
  | zero =>
      obtain ⟨result, ended⟩ := ends
      rw [proceed_of_ended ended]
      exact ⟨result, ended⟩
  | succ steps => exact ends replies cache

theorem endsWithin_keep {caller : Cache.Caller UInt32 BlockTime TransportError}
    {fetched : Except TransportError BlockTime}
    (left : caller.left = Cache.keep caller.key fetched) : (begun caller).EndsWithin 1 := by
  obtain ⟨key, fetch, found, heard, rest⟩ := caller
  dsimp only at left
  subst left
  cases fetched with
  | error error => exact endsWithin_of_ended rfl 1
  | ok block => exact fun replies cache => ⟨.ok (some block), rfl⟩

theorem endsWithin_call {α : Type} {codec : Codec α} {method : String} {parameter : Json}
    {caller : Cache.Caller UInt32 BlockTime TransportError} {steps : Nat}
    {next : Except TransportError α →
      Dialogue (Cache UInt32 BlockTime) (Except TransportError BlockTime)}
    (left : caller.left = call codec method parameter >>= next)
    (ends : ∀ heard told, (begun { caller with heard, left := next told }).EndsWithin steps) :
    (begun caller).EndsWithin (steps + 1) := by
  obtain ⟨key, fetch, found, heard, rest⟩ := caller
  dsimp only at left
  subst left
  intro replies cache
  rw [call_eq_reading, bind_assoc]
  exact ends _ (Gateway.reading codec (replies (.chainCall method (.array [parameter]))))

/-- The times of a block take at most four steps: a look at the cache, two answers, and one more
access to the cache. -/
theorem endsWithin_of (transaction : OnChainTransaction) : (of transaction).EndsWithin 4 := by
  unfold of
  cases transaction.blockHeight with
  | none => exact endsWithin_of_ended rfl 4
  | some height =>
      intro replies cache
      rw [Lookup.proceed]
      cases found : cache.find? height with
      | some block =>
          rw [Cache.Caller.enter_of_find?_eq_some found]
          exact endsWithin_of_ended rfl 3
      | none =>
          rw [Cache.Caller.enter_of_find?_eq_none found]
          have fetching : (Cache.beside (fetchBlockTime height) :
              Dialogue (Cache UInt32 BlockTime) _) = fetchBlockTime height :=
            Cache.beside_fetchBlockTime height
          have begins := (congrArg (· >>= Cache.keep height) fetching).trans (bind_assoc _ _ _)
          refine endsWithin_call begins ?_
          intro heard told
          cases told with
          | error error => exact endsWithin_of_ended rfl 2
          | ok hash => exact endsWithin_call rfl fun later told => endsWithin_keep rfl

/-- A lookup has fetched a block and stored it. -/
def Stores (lookup : Lookup) (height : UInt32) (block : BlockTime) : Prop :=
  ∃ caller, lookup = begun caller ∧ caller.key = height ∧ caller.Fetched block

/-- A lookup is one of the block that holds a transaction. -/
def Attends (transaction : OnChainTransaction) : Lookup → Prop
  | idle => transaction.blockHeight = none
  | waiting height => transaction.blockHeight = some height
  | begun caller =>
      transaction.blockHeight = some caller.key ∧
        caller.fetch = fetchBlockTime caller.key ∧ caller.Stands

variable {transaction : OnChainTransaction} {height : UInt32} {block : BlockTime}

theorem attends_of (transaction : OnChainTransaction) : (of transaction).Attends transaction := by
  unfold of
  cases known : transaction.blockHeight with
  | none => exact known
  | some height => exact known

theorem not_recalls_of (transaction : OnChainTransaction) :
    ¬ (of transaction).Recalls height block := by
  rintro ⟨caller, begins, -⟩
  unfold of at begins
  cases known : transaction.blockHeight <;> rw [known] at begins <;> cases begins

theorem Attends.proceed (attends : lookup.Attends transaction) (replies : Replies)
    (cache : Cache UInt32 BlockTime) : (lookup.proceed replies cache).1.Attends transaction := by
  cases lookup with
  | idle => exact attends
  | waiting height =>
      exact ⟨attends, rfl, (Cache.Caller.stands_enter height (fetchBlockTime height) cache).1⟩
  | begun caller =>
      obtain ⟨known, fetches, stands⟩ := attends
      refine ⟨known.trans ?_, ?_, (stands.proceed replies cache).1⟩
      · rw [Cache.Caller.key_proceed]
      · rw [Cache.Caller.key_proceed, Cache.Caller.fetch_proceed]
        exact fetches

/-- A step of a lookup puts nothing into the cache but what the lookup stores. -/
theorem Attends.find?_proceed (attends : lookup.Attends transaction) {replies : Replies}
    {cache : Cache UInt32 BlockTime}
    (found : (lookup.proceed replies cache).2.find? height = some block) :
    cache.find? height = some block ∨ (lookup.proceed replies cache).1.Stores height block := by
  cases lookup with
  | idle => exact Or.inl found
  | waiting key =>
      have effect := (Cache.Caller.stands_enter key (fetchBlockTime key) cache).2
      exact (effect.find?_eq_some found).imp_right fun stores => ⟨_, rfl, stores⟩
  | begun caller =>
      obtain ⟨-, -, stands⟩ := attends
      have effect := (stands.proceed replies cache).2
      exact (effect.find?_eq_some found).imp_right fun stores => ⟨_, rfl, stores⟩

/-- A lookup recalls nothing but what the cache held when it began. -/
theorem recalls_proceed {replies : Replies} {cache : Cache UInt32 BlockTime}
    (recalls : (lookup.proceed replies cache).1.Recalls height block) :
    lookup.Recalls height block ∨ cache.find? height = some block := by
  obtain ⟨moved, same, rfl, found⟩ := recalls
  cases lookup with
  | idle => cases same
  | waiting key =>
      cases same
      exact Or.inr ((Cache.fst_get cache key).symm.trans found)
  | begun caller =>
      cases same
      rw [Cache.Caller.found_proceed] at found
      rw [Cache.Caller.key_proceed]
      exact Or.inl ⟨caller, rfl, rfl, found⟩

theorem Stores.ended (stores : lookup.Stores height block) :
    lookup.result? = some (.ok (some block)) := by
  obtain ⟨caller, rfl, -, fetched⟩ := stores
  rw [result?, fetched.returned]
  rfl

theorem Attends.fetches_of_stores (attends : lookup.Attends transaction)
    (stores : lookup.Stores height block) : lookup.Fetches height block := by
  obtain ⟨caller, rfl, rfl, fetched⟩ := stores
  obtain ⟨-, fetches, -⟩ := attends
  exact ⟨caller, rfl, rfl, fetched.missed, goes_fetchBlockTime_ok.mp (fetches ▸ fetched.goes)⟩

/-- A lookup that the cache or the chain server told a block comes to this block. -/
theorem Attends.result_of_gets (attends : lookup.Attends transaction)
    (ended : lookup.result? = some result)
    (gets : lookup.Recalls height block ∨ lookup.Fetches height block) :
    result = .ok (some block) := by
  cases lookup with
  | idle => rcases gets with ⟨caller, same, -⟩ | ⟨caller, same, -⟩ <;> cases same
  | waiting key => cases ended
  | begun caller =>
      obtain ⟨-, fetches, stands⟩ := attends
      obtain ⟨returned, gave, rfl⟩ := Option.map_eq_some_iff.mp ended
      rcases gets with ⟨_, same, rfl, found⟩ | ⟨_, same, rfl, missed, tells⟩
      · cases same
        exact congrArg _ (stands.eq_of_found gave found)
      · cases same
        have goes : caller.fetch.Goes caller.heard (.ok block) := by
          rw [fetches]
          exact goes_fetchBlockTime_ok.mpr tells
        exact congrArg _ (stands.eq_of_goes gave missed goes)

/-- A lookup that comes to a block was told it by the cache or the chain server. -/
theorem Attends.gets_of_result (attends : lookup.Attends transaction)
    (ended : lookup.result? = some (.ok (some block))) :
    ∃ height, transaction.blockHeight = some height ∧
      (lookup.Recalls height block ∨ lookup.Fetches height block) := by
  cases lookup with
  | idle | waiting key => cases ended
  | begun caller =>
      obtain ⟨returned, gave, result⟩ := Option.map_eq_some_iff.mp ended
      obtain rfl : returned = .ok block := by
        cases returned <;> cases result
        rfl
      refine ⟨caller.key, attends.1, ?_⟩
      rcases attends.2.2.of_returned gave with found | fetched
      · exact Or.inl ⟨caller, rfl, rfl, found⟩
      · exact Or.inr (attends.fetches_of_stores ⟨caller, rfl, rfl, fetched⟩)

end Lookup

/-! ### Lookups side by side -/

namespace Joint

variable {joint : Joint} {lookup : Lookup} {transactions : List OnChainTransaction}
  {given : UInt32 → BlockTime → Prop}

theorem next_proceed {place : Nat} (present : joint.lookups[place]? = some lookup)
    (replies : Replies) :
    joint.next (.proceed place replies) =
      ⟨(lookup.proceed replies joint.cache).2,
        joint.lookups.set place (lookup.proceed replies joint.cache).1⟩ := by
  rw [next, present]

/-- A step changes nothing but the lookup that takes it. -/
theorem getElem?_next {place : Nat} (step : Step)
    (present : (joint.next step).lookups[place]? = some lookup) :
    (joint.lookups[place]? = some lookup ∧ turnsAt place [step] = 0) ∨
      ∃ earlier replies, step = .proceed place replies ∧
        joint.lookups[place]? = some earlier ∧
        lookup = (earlier.proceed replies joint.cache).1 := by
  cases step with
  | meanwhile cache => exact Or.inl ⟨present, rfl⟩
  | proceed mover replies =>
      by_cases same : mover = place
      · subst mover
        cases found : joint.lookups[place]? with
        | none =>
            rw [next, found] at present
            cases found.symm.trans present
        | some earlier =>
            rw [next_proceed found] at present
            obtain ⟨within, -⟩ := List.getElem?_eq_some_iff.mp found
            refine Or.inr ⟨earlier, replies, rfl, rfl, ?_⟩
            exact Option.some.inj (present.symm.trans (List.getElem?_set_self within))
      · have other : turnsAt place [.proceed mover replies] = 0 := by simp [turnsAt, same]
        cases found : joint.lookups[mover]? with
        | none =>
            rw [next, found] at present
            exact Or.inl ⟨present, other⟩
        | some earlier =>
            rw [next_proceed found] at present
            exact Or.inl ⟨(List.getElem?_set_ne same).symm.trans present, other⟩

theorem length_next (joint : Joint) (step : Step) :
    (joint.next step).lookups.length = joint.lookups.length := by
  cases step with
  | meanwhile cache => rfl
  | proceed place replies =>
      cases found : joint.lookups[place]? with
      | none => rw [next, found]
      | some lookup => rw [next_proceed found, List.length_set]

/-- A lookup that has ended stays as it is. -/
theorem mem_next_of_ended {result : Except TransportError (Option BlockTime)}
    (member : lookup ∈ joint.lookups) (ended : lookup.result? = some result) (step : Step) :
    lookup ∈ (joint.next step).lookups := by
  obtain ⟨place, present⟩ := List.mem_iff_getElem?.mp member
  obtain ⟨within, -⟩ := List.getElem?_eq_some_iff.mp present
  have after := List.getElem?_eq_getElem ((length_next joint step).symm ▸ within)
  apply List.mem_of_getElem? (i := place)
  rw [after]
  rcases getElem?_next step after with ⟨same, -⟩ | ⟨earlier, replies, -, found, moved⟩
  · exact same.symm.trans present
  · cases found.symm.trans present
    rw [moved, Lookup.proceed_of_ended ended]

/-- One of the lookups has stored a block. -/
def Stores (joint : Joint) (height : UInt32) (block : BlockTime) : Prop :=
  ∃ lookup ∈ joint.lookups, lookup.Stores height block

theorem Stores.next {height : UInt32} {block : BlockTime} (stores : joint.Stores height block)
    (step : Step) : (joint.next step).Stores height block := by
  obtain ⟨lookup, member, stored⟩ := stores
  exact ⟨lookup, mem_next_of_ended member stored.ended step, stored⟩

/-- Each lookup is at the place of its transaction. What is held and what was recalled was given by
others or stored by a lookup. -/
structure Accounted (given : UInt32 → BlockTime → Prop) (transactions : List OnChainTransaction)
    (joint : Joint) : Prop where
  length_eq : joint.lookups.length = transactions.length
  attends : ∀ (place : Nat) transaction (lookup : Lookup), transactions[place]? = some transaction →
    joint.lookups[place]? = some lookup → lookup.Attends transaction
  held : ∀ height block, joint.cache.find? height = some block →
    given height block ∨ joint.Stores height block
  recalled : ∀ lookup ∈ joint.lookups, ∀ height block, lookup.Recalls height block →
    given height block ∨ joint.Stores height block

theorem Accounted.exists_attends (accounted : joint.Accounted given transactions) {place : Nat}
    (present : joint.lookups[place]? = some lookup) :
    ∃ transaction, transactions[place]? = some transaction ∧ lookup.Attends transaction := by
  obtain ⟨within, -⟩ := List.getElem?_eq_some_iff.mp present
  have listed := List.getElem?_eq_getElem (accounted.length_eq ▸ within)
  exact ⟨_, listed, accounted.attends place _ lookup listed present⟩

/-- A step puts nothing into the cache but what others give or a lookup stores. -/
theorem Accounted.find?_next (accounted : joint.Accounted given transactions) {step : Step}
    (used : ∀ cache, step = .meanwhile cache → ∀ height block,
      cache.find? height = some block → given height block)
    {height : UInt32} {block : BlockTime}
    (found : (joint.next step).cache.find? height = some block) :
    given height block ∨ joint.cache.find? height = some block ∨
      (joint.next step).Stores height block := by
  cases step with
  | meanwhile cache => exact Or.inl (used cache rfl height block found)
  | proceed place replies =>
      right
      cases present : joint.lookups[place]? with
      | none =>
          rw [Joint.next, present] at found
          exact Or.inl found
      | some lookup =>
          obtain ⟨within, -⟩ := List.getElem?_eq_some_iff.mp present
          obtain ⟨transaction, -, attends⟩ := accounted.exists_attends present
          rw [next_proceed present] at found ⊢
          refine (attends.find?_proceed found).imp_right fun stores => ⟨_, ?_, stores⟩
          exact List.mem_of_getElem? (List.getElem?_set_self within)

theorem Accounted.next (accounted : joint.Accounted given transactions) (step : Step)
    (used : ∀ cache, step = .meanwhile cache → ∀ height block,
      cache.find? height = some block → given height block) :
    (joint.next step).Accounted given transactions := by
  have kept {height : UInt32} {block : BlockTime}
      (known : given height block ∨ joint.Stores height block) :
      given height block ∨ (joint.next step).Stores height block :=
    known.imp_right fun stores => stores.next step
  constructor
  · exact (length_next joint step).trans accounted.length_eq
  · intro place transaction lookup listed present
    rcases getElem?_next step present with ⟨same, -⟩ | ⟨earlier, replies, -, found, rfl⟩
    · exact accounted.attends place transaction lookup listed same
    · exact (accounted.attends place transaction earlier listed found).proceed replies joint.cache
  · intro height block found
    rcases accounted.find?_next used found with given | before | stores
    · exact Or.inl given
    · exact kept (accounted.held height block before)
    · exact Or.inr stores
  · intro lookup member height block recalls
    obtain ⟨place, present⟩ := List.mem_iff_getElem?.mp member
    rcases getElem?_next step present with ⟨same, -⟩ | ⟨earlier, replies, -, found, rfl⟩
    · exact kept (accounted.recalled lookup (List.mem_of_getElem? same) height block recalls)
    · rcases Lookup.recalls_proceed recalls with before | held
      · exact kept (accounted.recalled earlier (List.mem_of_getElem? found) height block before)
      · exact kept (accounted.held height block held)

/-- What a lookup has stored, it has fetched. -/
theorem Accounted.fetches_of_stores (accounted : joint.Accounted given transactions)
    {height : UInt32} {block : BlockTime} (stores : joint.Stores height block) :
    ∃ lookup ∈ joint.lookups, lookup.Fetches height block := by
  obtain ⟨lookup, member, stored⟩ := stores
  obtain ⟨place, present⟩ := List.mem_iff_getElem?.mp member
  obtain ⟨transaction, -, attends⟩ := accounted.exists_attends present
  exact ⟨lookup, member, attends.fetches_of_stores stored⟩

end Joint

variable {cache : Cache UInt32 BlockTime} {transactions listed : List OnChainTransaction}
  {steps : List Step} {place : Nat} {lookup : Lookup}

/-- A block that others than the lookups put into the cache. It was there before, or after they had
used the cache. -/
def Given (cache : Cache UInt32 BlockTime) (steps : List Step) (height : UInt32)
    (block : BlockTime) : Prop :=
  cache.find? height = some block ∨
    ∃ used, Step.meanwhile used ∈ steps ∧ used.find? height = some block

theorem joint_append (cache : Cache UInt32 BlockTime) (transactions : List OnChainTransaction)
    (earlier : List Step) (step : Step) :
    joint cache transactions (earlier ++ [step]) =
      (joint cache transactions earlier).next step := by
  simp only [joint, List.foldl_append, List.foldl_cons, List.foldl_nil]

theorem accounted_joint (cache : Cache UInt32 BlockTime) (transactions : List OnChainTransaction)
    (steps : List Step) :
    (joint cache transactions steps).Accounted (Given cache steps) transactions := by
  -- What others give is fixed for all steps, so that it need not grow with them.
  suffices ∀ earlier, earlier <+: steps →
      (joint cache transactions earlier).Accounted (Given cache steps) transactions from
    this steps (List.prefix_refl steps)
  intro earlier before
  induction earlier using List.reverseRecOn with
  | nil =>
      constructor
      · exact List.length_map _
      · intro place transaction lookup listed present
        rw [joint, List.foldl_nil, List.getElem?_map, listed] at present
        cases present
        exact Lookup.attends_of transaction
      · exact fun height block found => Or.inl (Or.inl found)
      · intro lookup member height block recalls
        obtain ⟨transaction, -, rfl⟩ := List.mem_map.mp member
        exact absurd recalls (Lookup.not_recalls_of transaction)
  | append_singleton earlier step ih =>
      rw [joint_append]
      refine (ih ((List.prefix_append _ _).trans before)).next step ?_
      rintro used rfl height block found
      refine Or.inr ⟨used, ?_, found⟩
      exact before.subset (List.mem_append_right _ (List.mem_singleton_self _))

/-- Four steps of its own are enough for a lookup, whatever the others do in between. -/
theorem endsWithin_joint
    (present : (joint cache transactions steps).lookups[place]? = some lookup) :
    lookup.EndsWithin (4 - turnsAt place steps) := by
  induction steps using List.reverseRecOn generalizing lookup with
  | nil =>
      obtain ⟨transaction, -, rfl⟩ := List.mem_map.mp (List.mem_of_getElem? present)
      exact Lookup.endsWithin_of transaction
  | append_singleton earlier step ih =>
      have counted : turnsAt place (earlier ++ [step]) =
          turnsAt place earlier + turnsAt place [step] := List.countP_append
      rw [joint_append] at present
      rcases Joint.getElem?_next step present with ⟨same, idle⟩ | ⟨former, replies, rfl, found, rfl⟩
      · rw [counted, idle]
        exact ih same
      · have taken : turnsAt place [.proceed place replies] = 1 := by simp [turnsAt]
        rw [counted, taken, ← Nat.sub_sub]
        exact (ih found).proceed replies _

theorem mapM_eq_some_iff {α β : Type} {view : α → Option β} {values : List α} {results : List β} :
    values.mapM view = some results ↔ values.map view = results.map some := by
  induction values generalizing results with
  | nil => cases results <;> simp
  | cons value rest ih =>
      rw [List.mapM_cons, List.map_cons]
      cases view value with
      | none => cases results <;> simp
      | some result =>
          cases results with
          | nil => cases rest.mapM view <;> simp
          | cons first others =>
              simp only [List.map_cons, List.cons.injEq, Option.some.injEq, ← ih]
              cases rest.mapM view <;> simp

theorem dateJointly_eq_some_iff :
    dateJointly cache transactions steps = some listed ↔
      ∃ results, (joint cache transactions steps).lookups.map Lookup.result? = results.map some ∧
        List.zipWith dated transactions results = listed := by
  simp only [dateJointly, Option.bind_eq_bind, Option.bind_eq_some_iff, mapM_eq_some_iff,
    Option.pure_def, Option.some.injEq]

theorem exists_dateJointly (cache : Cache UInt32 BlockTime)
    (enough : ∀ place < transactions.length, 4 ≤ turnsAt place steps) :
    ∃ listed, dateJointly cache transactions steps = some listed := by
  have accounted := accounted_joint cache transactions steps
  have ended : (joint cache transactions steps).lookups.map Lookup.result? ∈
      Set.range (List.map some) := by
    rw [Set.range_list_map]
    intro found member
    obtain ⟨lookup, inside, rfl⟩ := List.mem_map.mp member
    obtain ⟨place, present⟩ := List.mem_iff_getElem?.mp inside
    obtain ⟨within, -⟩ := List.getElem?_eq_some_iff.mp present
    have ends := endsWithin_joint present
    rw [Nat.sub_eq_zero_of_le (enough place (accounted.length_eq ▸ within))] at ends
    obtain ⟨result, ended⟩ := ends
    exact ⟨result, ended.symm⟩
  obtain ⟨results, same⟩ := ended
  exact ⟨_, dateJointly_eq_some_iff.mpr ⟨results, same.symm, rfl⟩⟩

/-- The results are found at the places of their transactions. -/
theorem getElem?_of_dateJointly (listing : dateJointly cache transactions steps = some listed)
    {transaction : OnChainTransaction} (present : transactions[place]? = some transaction) :
    ∃ lookup result, (joint cache transactions steps).lookups[place]? = some lookup ∧
      lookup.result? = some result ∧ listed[place]? = some (dated transaction result) := by
  obtain ⟨results, ended, rfl⟩ := dateJointly_eq_some_iff.mp listing
  have accounted := accounted_joint cache transactions steps
  obtain ⟨within, -⟩ := List.getElem?_eq_some_iff.mp present
  have looked := List.getElem?_eq_getElem (accounted.length_eq.symm ▸ within)
  have gave := congrArg (·[place]?) ended
  simp only [List.getElem?_map, looked, Option.map_some] at gave
  obtain ⟨result, told, same⟩ := Option.map_eq_some_iff.mp gave.symm
  refine ⟨_, result, looked, same.symm, ?_⟩
  rw [List.getElem?_zipWith, present, told]

theorem length_of_dateJointly (listing : dateJointly cache transactions steps = some listed) :
    listed.length = transactions.length := by
  obtain ⟨results, ended, rfl⟩ := dateJointly_eq_some_iff.mp listing
  have accounted := accounted_joint cache transactions steps
  have counted := congrArg List.length ended
  rw [List.length_map, List.length_map, accounted.length_eq] at counted
  rw [List.length_zipWith, ← counted, min_self]

end Chain

end LightningGateway
