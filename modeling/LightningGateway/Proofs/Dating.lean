import LightningGateway.Proofs.Heights
import LightningGateway.Proofs.Listings
import LightningGateway.Proofs.Lookups

/-!
# Dating transactions by their blocks

With a chain server, the transactions of the wallet get the times of their blocks. Without
interruption the lookups run one after another, which is one way of running them side by side. In
whatever way they run, the listing has the transactions of the bookkeeper at their places. The time
of each of them is that of its own block, or what the bookkeeper told if that block is not found.
-/

namespace LightningGateway

namespace Chain

variable {ω : Type}

/-- What surroundings answer to any question at one moment. -/
def told (answer : Surroundings ω) (moment : ω) : Replies := fun query => (answer query moment).1

/-- Steps of lookups that hear surroundings and share the cache with no one else. -/
def Undisturbed (answer : Surroundings ω) (steps : List Step) : Prop :=
  ∀ step ∈ steps, ∃ place moment, step = .proceed place (told answer moment)

/-! ### One lookup after another -/

namespace Lookup

variable {lookup : Lookup} {result : Except TransportError (Option BlockTime)}

/-- What is left of a lookup. -/
def rest : Lookup → Dialogue (Cache UInt32 BlockTime) (Except TransportError (Option BlockTime))
  | idle => pure (.ok none)
  | waiting height => Except.map some <$> blockTime height
  | begun caller => Except.map some <$> caller.left

theorem run_rest_of_ended (ended : lookup.result? = some result) (answer : Surroundings ω)
    (cache : Cache UInt32 BlockTime) (world : ω) :
    lookup.rest.run answer cache world = (result, cache, world) := by
  cases lookup with
  | idle =>
      cases ended
      rfl
  | waiting height => cases ended
  | begun caller =>
      obtain ⟨returned, gave, rfl⟩ := Option.map_eq_some_iff.mp ended
      obtain ⟨key, fetch, found, heard, left⟩ := caller
      cases left with
      | done value =>
          cases gave
          rfl
      | read | write | ask => cases gave

/-- A lookup that nobody interrupts comes to what it would come to alone. -/
theorem exists_run_proceed (lookup : Lookup) (answer : Surroundings ω)
    (cache : Cache UInt32 BlockTime) (world : ω) :
    ∃ later, (lookup.proceed (told answer world) cache).1.rest.run answer
        (lookup.proceed (told answer world) cache).2 later =
      lookup.rest.run answer cache world := by
  cases lookup with
  | idle => exact ⟨world, rfl⟩
  | waiting height =>
      have entered := Cache.Caller.run_enter answer height (fetchBlockTime height) cache world
      refine ⟨world, ?_⟩
      rw [rest, Dialogue.run_map, Cache.blockTime_eq_remember, ← entered]
      exact Dialogue.run_map answer _ _ _ _
  | begun caller =>
      obtain ⟨key, fetch, found, heard, left⟩ := caller
      cases left with
      | ask query next => exact ⟨(answer query world).2, rfl⟩
      | done | read | write =>
          refine ⟨world, ?_⟩
          rw [rest, Dialogue.run_map, ← Dialogue.run_access answer _ cache world]
          exact Dialogue.run_map answer _ _ _ _

/-- A lookup that takes some turns, with nothing in between. -/
def turns (replies : List Replies) (lookup : Lookup) (cache : Cache UInt32 BlockTime) :
    Lookup × Cache UInt32 BlockTime :=
  replies.foldl (fun moved replies => moved.1.proceed replies moved.2) (lookup, cache)

theorem EndsWithin.exists_turns {steps : Nat} (ends : lookup.EndsWithin steps)
    (answer : Surroundings ω) (cache : Cache UInt32 BlockTime) (world : ω) :
    ∃ (moments : List ω) (ended : Lookup),
      lookup.turns (moments.map (told answer)) cache =
        (ended, (lookup.rest.run answer cache world).2.1) ∧
      ended.result? = some (lookup.rest.run answer cache world).1 := by
  induction steps generalizing lookup cache world with
  | zero =>
      obtain ⟨result, ended⟩ := ends
      rw [run_rest_of_ended ended]
      exact ⟨[], lookup, rfl, ended⟩
  | succ steps ih =>
      obtain ⟨later, same⟩ := exists_run_proceed lookup answer cache world
      obtain ⟨moments, ended, taken, gave⟩ := ih (ends (told answer world) cache)
        (lookup.proceed (told answer world) cache).2 later
      rw [same] at taken gave
      exact ⟨world :: moments, ended, taken, gave⟩

end Lookup

theorem foldl_turns (replies : List Replies) (cache : Cache UInt32 BlockTime)
    (before : List Lookup) (lookup : Lookup) (after : List Lookup) :
    (replies.map (Step.proceed before.length)).foldl Joint.next
        ⟨cache, before ++ lookup :: after⟩ =
      ⟨(lookup.turns replies cache).2, before ++ (lookup.turns replies cache).1 :: after⟩ := by
  induction replies generalizing cache lookup with
  | nil => rfl
  | cons first others ih =>
      have present : (before ++ lookup :: after)[before.length]? = some lookup := by
        rw [List.getElem?_append_right (le_refl _), Nat.sub_self, List.getElem?_cons_zero]
      rw [List.map_cons, List.foldl_cons, Joint.next_proceed present]
      simp only [List.set_append_right _ _ (le_refl _), Nat.sub_self, List.set_cons_zero]
      exact ih _ _

end Chain

namespace Gateway

open Chain (Lookup Joint Step Given Undisturbed dated dateJointly joint told turnsAt)

variable {ω : Type}

theorem outcome_blockTimeOf_eq (answer : Surroundings ω) (settings : Settings) (session : Session)
    (world : ω) (transaction : OnChainTransaction) :
    outcome answer settings (blockTimeOf transaction) session world =
      (.ok (((Lookup.of transaction).rest.run answer session.blocks world).1.toOption.join.map
          BlockTime.time),
        withBlocks session ((Lookup.of transaction).rest.run answer session.blocks world).2.1,
        ((Lookup.of transaction).rest.run answer session.blocks world).2.2) := by
  unfold Lookup.of
  cases known : transaction.blockHeight with
  | none =>
      simp only [blockTimeOf, known, outcome_pure]
      rfl
  | some height =>
      rw [outcome_blockTimeOf answer settings session world known, Lookup.rest, Dialogue.run_map]
      cases ((Chain.blockTime height).run answer session.blocks world).1 <;> rfl

theorem outcome_mapM_dateByBlock_cons (answer : Surroundings ω) (settings : Settings)
    (session : Session) (world : ω) (transaction : OnChainTransaction)
    (others : List OnChainTransaction) {result : Except TransportError (Option BlockTime)}
    {blocks : Cache UInt32 BlockTime} {later : ω}
    (looked : (Lookup.of transaction).rest.run answer session.blocks world =
      (result, blocks, later)) :
    outcome answer settings ((transaction :: others).mapM dateByBlock) session world =
      (outcome answer settings (others.mapM dateByBlock) (withBlocks session blocks) later).continue
        fun listed after last => (.ok (dated transaction result :: listed), after, last) := by
  have first := outcome_blockTimeOf_eq answer settings session world transaction
  rw [looked] at first
  have continued (shown : OnChainTransaction) :=
    outcome_bind answer settings (withBlocks session blocks) later (others.mapM dateByBlock)
      fun listed => pure (shown :: listed)
  rw [List.mapM_cons, outcome_bind, dateByBlock, outcome_bind, first, Outcome.continue_ok]
  rcases result with error | _ | block <;> exact continued _

/-- Lookups one after another are lookups side by side. -/
theorem exists_steps_of_mapM_dateByBlock (answer : Surroundings ω) (settings : Settings)
    (session : Session) (world : ω) (transactions : List OnChainTransaction)
    (before : List Lookup) :
    ∃ (steps : List Step) (blocks : Cache UInt32 BlockTime) (ended : List Lookup)
      (results : List (Except TransportError (Option BlockTime))) (later : ω),
      Undisturbed answer steps ∧
      steps.foldl Joint.next ⟨session.blocks, before ++ transactions.map Lookup.of⟩ =
          ⟨blocks, before ++ ended⟩ ∧
      ended.map Lookup.result? = results.map some ∧
      outcome answer settings (transactions.mapM dateByBlock) session world =
        (.ok (List.zipWith dated transactions results), withBlocks session blocks, later) := by
  -- The lookups that have ended stay in front, so the next one takes its turns at their number.
  induction transactions generalizing session world before with
  | nil => exact ⟨[], session.blocks, [], [], world, nofun, rfl, rfl, rfl⟩
  | cons transaction others ih =>
      obtain ⟨moments, lookup, taken, gave⟩ :=
        (Lookup.endsWithin_of transaction).exists_turns answer session.blocks world
      rcases looked : (Lookup.of transaction).rest.run answer session.blocks world with
        ⟨result, blocks, later⟩
      rw [looked] at taken gave
      obtain ⟨steps, after, ended, results, last, undisturbed, went, listed, found⟩ :=
        ih (withBlocks session blocks) later (before ++ [lookup])
      refine ⟨(moments.map (told answer)).map (Step.proceed before.length) ++ steps, after,
        lookup :: ended, result :: results, last, ?_, ?_, ?_, ?_⟩
      · intro step member
        rcases List.mem_append.mp member with own | other
        · obtain ⟨replies, answers, rfl⟩ := List.mem_map.mp own
          obtain ⟨moment, -, rfl⟩ := List.mem_map.mp answers
          exact ⟨before.length, moment, rfl⟩
        · exact undisturbed step other
      · rw [List.foldl_append, List.map_cons, Chain.foldl_turns, taken]
        rw [List.append_assoc, List.append_assoc] at went
        exact went
      · rw [List.map_cons, List.map_cons, gave, listed]
      · rw [outcome_mapM_dateByBlock_cons answer settings session world transaction others looked,
          found]
        rfl

/-- A transaction as it is listed after its lookup. Its time is that of its block if that was
recalled or fetched, and otherwise stays as it was. -/
structure DatedBy (lookup : Lookup) (transaction listed : OnChainTransaction) : Prop where
  same : SameButTime transaction listed
  found : ∀ height block, transaction.blockHeight = some height →
    lookup.Recalls height block ∨ lookup.Fetches height block → listed.timeStamp = block.time
  missed : (∀ height block, transaction.blockHeight = some height →
      ¬ (lookup.Recalls height block ∨ lookup.Fetches height block)) →
    listed.timeStamp = transaction.timeStamp

theorem datedBy_dated {lookup : Lookup} {transaction : OnChainTransaction}
    {result : Except TransportError (Option BlockTime)} (attends : lookup.Attends transaction)
    (ended : lookup.result? = some result) :
    DatedBy lookup transaction (dated transaction result) where
  same := by rcases result with error | _ | block <;> rfl
  found height block known gets := by
    rw [attends.result_of_gets ended gets]
    rfl
  missed lost := by
    rcases result with error | _ | block
    · rfl
    · rfl
    · obtain ⟨height, known, gets⟩ := attends.gets_of_result ended
      exact absurd gets (lost height block known)

/-- What holds of transactions whose blocks are looked up side by side, in whatever way the lookups
go on and whatever they hear. Each lookup ends. Each transaction is listed at its place, after its
own lookup. The cache holds for a height only what others gave it for this height or what a lookup
fetched for it, and nothing else is recalled. -/
structure DatedJointly (cache : Cache UInt32 BlockTime) (transactions : List OnChainTransaction)
    (steps : List Step) : Prop where
  ends : (∀ place < transactions.length, 4 ≤ turnsAt place steps) →
    ∃ listed, dateJointly cache transactions steps = some listed
  length_eq : ∀ listed, dateJointly cache transactions steps = some listed →
    listed.length = transactions.length
  placed : ∀ listed, dateJointly cache transactions steps = some listed →
    ∀ (place : Nat) transaction, transactions[place]? = some transaction →
      ∃ lookup shown, (joint cache transactions steps).lookups[place]? = some lookup ∧
        listed[place]? = some shown ∧ DatedBy lookup transaction shown
  held : ∀ height block, (joint cache transactions steps).cache.find? height = some block →
    Given cache steps height block ∨
      ∃ lookup ∈ (joint cache transactions steps).lookups, lookup.Fetches height block
  recalled : ∀ lookup ∈ (joint cache transactions steps).lookups, ∀ height block,
    lookup.Recalls height block →
      Given cache steps height block ∨
        ∃ source ∈ (joint cache transactions steps).lookups, source.Fetches height block

theorem datedJointly (cache : Cache UInt32 BlockTime) (transactions : List OnChainTransaction)
    (steps : List Step) : DatedJointly cache transactions steps := by
  have accounted := Chain.accounted_joint cache transactions steps
  constructor
  · exact Chain.exists_dateJointly cache
  · exact fun listed => Chain.length_of_dateJointly
  · intro listed listing place transaction present
    obtain ⟨lookup, result, looked, ended, shown⟩ :=
      Chain.getElem?_of_dateJointly listing present
    exact ⟨lookup, _, looked, shown,
      datedBy_dated (accounted.attends place transaction lookup present looked) ended⟩
  · intro height block found
    exact (accounted.held height block found).imp_right accounted.fetches_of_stores
  · intro lookup member height block recalls
    exact (accounted.recalled lookup member height block recalls).imp_right
      accounted.fetches_of_stores

/-- With a chain server the wallet transactions are listed as without one, apart from their times,
and the chain server is no reason to fail. Undisturbed lookups are lookups side by side, and
whatever holds of these holds of any listing. -/
theorem dated_by_own_blocks (answer : Surroundings ω) (settings : Settings) (session : Session)
    (world : ω) (operation : Operation) :
    let plain := outcome answer { settings with hasChainServer := false }
      (fetchOnChain operation) session world
    let served := outcome answer { settings with hasChainServer := true }
      (fetchOnChain operation) session world
    (∀ failure after later, plain = (.error failure, after, later) → served = plain) ∧
      ∀ transactions after later, plain = (.ok transactions, after, later) →
        (∃ steps listed last, Undisturbed answer steps ∧
          dateJointly after.blocks transactions steps = some listed ∧
          served =
            (.ok listed, withBlocks after (joint after.blocks transactions steps).cache, last)) ∧
        ∀ cache steps, DatedJointly cache transactions steps := by
  intro plain served
  have offline := outcome_fetchOnChain answer { settings with hasChainServer := false } session
    world operation
  have online := outcome_fetchOnChain answer { settings with hasChainServer := true } session
    world operation
  cases booked : (bookkeeping answer world).1 with
  | error error =>
      rw [booked] at offline online
      refine ⟨fun failure after later failed => online.trans offline.symm, ?_⟩
      intro transactions after later listed
      cases offline.symm.trans listed
  | ok transactions =>
      rw [booked] at offline online
      refine ⟨fun failure after later failed => ?_, fun listed after later found => ?_⟩
      · cases offline.symm.trans failed
      · cases offline.symm.trans found
        obtain ⟨steps, blocks, ended, results, last, undisturbed, went, gave, looked⟩ :=
          exists_steps_of_mapM_dateByBlock answer { settings with hasChainServer := true } session
            (bookkeeping answer world).2 transactions []
        have jointly : joint session.blocks transactions steps = ⟨blocks, ended⟩ := went
        refine ⟨⟨steps, List.zipWith Chain.dated transactions results, last, undisturbed, ?_, ?_⟩,
          fun cache steps => datedJointly cache transactions steps⟩
        · refine Chain.dateJointly_eq_some_iff.mpr ⟨results, ?_, rfl⟩
          rw [jointly]
          exact gave
        · rw [jointly]
          exact online.trans looked

/-- Two deposits in one block, one in another block, and one that is not in a block yet. -/
def depositIncome : Daemon.IncomeReport :=
  ⟨[⟨"wallet", "deposit", 5000, 0, 20, none, some "d1:0", none⟩,
    ⟨"wallet", "deposit", 6000, 0, 30, none, some "d2:0", none⟩,
    ⟨"wallet", "deposit", 7000, 0, 40, none, some "d3:0", none⟩,
    ⟨"wallet", "deposit", 8000, 0, 50, none, some "d4:0", none⟩]⟩

def depositEvents : Daemon.AccountReport :=
  ⟨[⟨"wallet", "chain", "deposit", some "d1:0", none, some 101⟩,
    ⟨"wallet", "chain", "deposit", some "d2:0", none, some 101⟩,
    ⟨"wallet", "chain", "deposit", some "d3:0", none, some 102⟩]⟩

def deposits : List OnChainTransaction :=
  Daemon.Bookkeeping.enterHeights depositEvents (Daemon.Bookkeeping.transactions depositIncome)

/-- A bookkeeper that prints two reports. -/
def bookkeeper (income events : String) : Replies :=
  .answering (.ok 0) (fun _ => .error .missingResult) fun arguments =>
    .ok (if arguments = ["bkpr-listincome"] then income else events)

theorem bookkeeping_bookkeeper {income events : String} {incomes : Daemon.IncomeReport}
    {accounts : Daemon.AccountReport}
    (read : Daemon.IncomeReport.codec.decodeText income = .ok incomes)
    (entered : Daemon.AccountReport.codec.decodeText events = .ok accounts) :
    bookkeeping (bookkeeper income events).surroundings () =
      (.ok (Daemon.Bookkeeping.enterHeights accounts (Daemon.Bookkeeping.transactions incomes)),
        ()) := by
  have first : bookkeeper income events (.command ["bkpr-listincome"]) = .ok income := rfl
  have second : bookkeeper income events (.command ["bkpr-listaccountevents"]) = .ok events := rfl
  rw [bookkeeping_surroundings, bookkeepingFrom, first, second, Except.bind, Except.bind,
    Daemon.Bookkeeping.parseIncome_of_ok read, Except.bind,
    Daemon.Bookkeeping.applyHeights_of_ok entered]

/-- A step of a lookup that hears a reply of the chain server if it has asked. -/
def hearing (place : Nat) (reply : Except TransportError Json) : Step :=
  .proceed place fun
    | .chainCall _ _ => reply
    | query => Cache.clock 0 query

/-- The first and the third lookup miss their blocks and ask for them in turn. Only the first of
them is told one. After that the second lookup begins, and finds it. -/
def crossingSteps : List Step :=
  let missing : Except TransportError Json := .error .missingResult
  let stats : Except TransportError Json := .ok (BlockTime.hashCodec.write "h1")
  let header : Except TransportError Json := .ok (BlockTime.codec.write ⟨1000, 900⟩)
  [hearing 0 missing, hearing 2 missing, hearing 0 stats, hearing 2 stats, hearing 0 header,
    hearing 2 stats, hearing 0 missing, hearing 1 missing] ++
  ([1, 1, 1, 2, 3, 3, 3, 3].map fun place => hearing place missing)

theorem dated_by_own_blocks_crossing :
    let replies := bookkeeper (Daemon.IncomeReport.codec.write depositIncome).compact
      (Daemon.AccountReport.codec.write depositEvents).compact
    outcome replies.surroundings ⟨.coreLightning, "getinfo", 5000, 1000, false⟩
        (fetchOnChain .listOnChain) (.fresh 10 10) () = (.ok deposits, .fresh 10 10, ()) ∧
      (∃ steps listed last, Undisturbed replies.surroundings steps ∧
        dateJointly (.empty 10) deposits steps = some listed ∧
        outcome replies.surroundings ⟨.coreLightning, "getinfo", 5000, 1000, true⟩
            (fetchOnChain .listOnChain) (.fresh 10 10) () =
          (.ok listed, withBlocks (.fresh 10 10) (joint (.empty 10) deposits steps).cache, last)) ∧
      ∃ listed, dateJointly (.empty 1) deposits crossingSteps = some listed ∧
        listed.map OnChainTransaction.timeStamp = [1000, 1000, 40, 50] ∧
        listed.length = 4 ∧
        (∃ lookup shown, (joint (.empty 1) deposits crossingSteps).lookups[1]? = some lookup ∧
          listed[1]? = some shown ∧ lookup.Recalls 101 ⟨1000, 900⟩ ∧
          DatedBy lookup deposits[1] shown) ∧
        ∃ lookup ∈ (joint (.empty 1) deposits crossingSteps).lookups,
          lookup.Fetches 101 ⟨1000, 900⟩ := by
  intro replies
  have read := Daemon.IncomeReport.decodeText_compact depositIncome
  have entered := Daemon.AccountReport.decodeText_compact depositEvents
  have booked := bookkeeping_bookkeeper read entered
  have listing := outcome_fetchOnChain replies.surroundings
    ⟨.coreLightning, "getinfo", 5000, 1000, false⟩ (.fresh 10 10) () .listOnChain
  rw [booked] at listing
  obtain ⟨-, served⟩ := dated_by_own_blocks replies.surroundings
    ⟨.coreLightning, "getinfo", 5000, 1000, false⟩ (.fresh 10 10) () .listOnChain
  obtain ⟨undisturbed, jointly⟩ := served deposits _ () listing
  have crossing := jointly (.empty 1) crossingSteps
  obtain ⟨listed, ended⟩ := crossing.ends (by decide +kernel)
  have times : (dateJointly (.empty 1) deposits crossingSteps).map
      (fun listed => listed.map OnChainTransaction.timeStamp) = some [1000, 1000, 40, 50] := by
    decide +kernel
  rw [ended] at times
  obtain ⟨lookup, shown, looked, placed, dated⟩ :=
    crossing.placed listed ended 1 deposits[1] (List.getElem?_eq_getElem _)
  refine ⟨listing, undisturbed, listed, ended, Option.some.inj times,
    (crossing.length_eq listed ended).trans (by decide +kernel),
    ⟨lookup, shown, looked, placed, ?_, dated⟩, ?_⟩
  · have recalled : (joint (.empty 1) deposits crossingSteps).lookups[1]?.map
        (fun | .begun caller => some (caller.key, caller.found) | _ => none) =
          some (some (101, some ⟨1000, 900⟩)) := by decide +kernel
    rw [looked] at recalled
    cases lookup with
    | idle | waiting height => cases recalled
    | begun caller =>
        have same := Option.some.inj (Option.some.inj recalled)
        exact ⟨caller, rfl, congrArg Prod.fst same, congrArg Prod.snd same⟩
  · have found : (joint (.empty 1) deposits crossingSteps).cache.find? 101 =
        some ⟨1000, 900⟩ := by decide +kernel
    rcases crossing.held 101 ⟨1000, 900⟩ found with given | fetched
    · rcases given with held | ⟨used, member, -⟩
      · cases held
      · simp [crossingSteps, hearing] at member
    · exact fetched

end Gateway

end LightningGateway
