import LightningGateway.Proofs.Movements

/-!
# Summaries of transactions

The listing has one entry for each transaction in which the income report moves coins of the
wallet, in the order in which the report first mentions them. The entry shows the last movement in
the transaction and the last fee that is charged to it after that movement. The listing can also be
made in one pass with an index that tells for each transaction where its entry stands, and no place
that the index tells is ever out of range.
-/

namespace LightningGateway.Daemon.Bookkeeping

/-! ### What the lines of a report are about -/

/-- The lines about the wallet. -/
def walletLines (report : IncomeReport) : List IncomeEvent :=
  report.events.filter fun line => line.account = walletAccount

/-- The transaction in which a line moves coins: for a deposit the one that created the output, for
a withdrawal the one that spends, and for either the other one if that is all the line carries. -/
def lineKey (line : IncomeEvent) : Option String :=
  let created := line.outpoint.map transactionOf
  if line.tag = "deposit" then created.or line.txid
  else if line.tag = "withdrawal" then line.txid.or created
  else none

/-- The transaction to which a line charges a fee. -/
def chargedTo (line : IncomeEvent) : Option String :=
  if line.tag = "onchain_fee" then line.txid else none

/-- The fee in the last one of some lines that charges one to a transaction, zero if none does. -/
def lastFee (txHash : String) (lines : List IncomeEvent) : Msat :=
  ((lines.reverse.find? fun line => chargedTo line = some txHash).map IncomeEvent.debit).getD 0

/-- The lines that can have an effect on the listing. -/
def Matters (line : IncomeEvent) : Prop :=
  line.account = walletAccount ∧
    (line.tag = "deposit" ∨ line.tag = "withdrawal" ∨ line.tag = "onchain_fee")

instance (line : IncomeEvent) : Decidable (Matters line) := by
  unfold Matters
  infer_instance

/-- What is shown of a transaction is one movement and the fee that the lines after it charge, among
which there is no other movement in the transaction. -/
structure ShownBy (line : IncomeEvent) (after : List IncomeEvent) (shown : OnChainTransaction) :
    Prop where
  key : lineKey line = some shown.txHash
  last : ∀ later ∈ after, lineKey later ≠ some shown.txHash
  direction : line.tag = lineTag shown.direction
  amount : shown.amount = lineAmount line shown.direction
  timeStamp : shown.timeStamp = line.timestamp
  label : shown.label = line.description.getD ""
  totalFees : shown.totalFees = lastFee shown.txHash after
  unconfirmed : shown.blockHeight = none ∧ shown.numConfirmations = 0

/-- What is shown of a transaction is the last movement among some lines. -/
def Shown (lines : List IncomeEvent) (shown : OnChainTransaction) : Prop :=
  ∃ before line after, lines = before ++ line :: after ∧ ShownBy line after shown

theorem movedIn_eq_lineKey (line : IncomeEvent) : movedIn line = lineKey line := by
  unfold movedIn lineKey incomeKey
  split
  · next deposit =>
      rw [if_pos deposit]
      cases line.outpoint <;> cases line.txid <;> rfl
  · next withdrawal =>
      rw [if_neg (by rw [withdrawal]; decide), if_pos withdrawal]
      cases line.outpoint <;> cases line.txid <;> rfl
  · next deposit withdrawal => rw [if_neg deposit, if_neg withdrawal]

theorem movedIn_eq_map (line : IncomeEvent) :
    movedIn line = (movementOf line).map OnChainTransaction.txHash := by
  have key (direction : Direction) :
      incomeKey direction line = (movement direction line).map OnChainTransaction.txHash := by
    simp [movement, Function.comp_def]
  unfold movedIn movementOf
  by_cases deposit : line.tag = "deposit"
  · rw [deposit]
    exact key .receive
  · by_cases withdrawal : line.tag = "withdrawal"
    · rw [withdrawal]
      exact key .send
    · simp

theorem lineKey_of_movementOf {line : IncomeEvent} {moved : OnChainTransaction}
    (moves : movementOf line = some moved) : lineKey line = some moved.txHash := by
  rw [← movedIn_eq_lineKey, movedIn_eq_map, moves]
  rfl

/-- A line that charges a fee moves nothing. -/
theorem lineKey_of_chargedTo {line : IncomeEvent} {txHash : String}
    (charges : chargedTo line = some txHash) : lineKey line = none := by
  unfold chargedTo at charges
  split at charges
  · next fee => simp [lineKey, fee]
  · cases charges

theorem enter_eq (listed : List OnChainTransaction) (line : IncomeEvent) :
    enter listed line =
      match movementOf line, chargedTo line with
      | some moved, _ => record moved listed
      | none, some txHash => setFees txHash line.debit listed
      | none, none => listed := by
  unfold enter movementOf chargedTo
  split
  · next deposit =>
      rw [deposit]
      cases moves : movement .receive line <;> simp [moves]
  · next withdrawal =>
      rw [withdrawal]
      cases moves : movement .send line <;> simp [moves]
  · next fee =>
      rw [fee]
      cases line.txid <;> simp
  · next deposit withdrawal fee =>
      rw [if_neg fee]
      simp

/-! ### The order of the entries -/

theorem eraseDups_append_singleton (keys : List String) (key : String) :
    (keys ++ [key]).eraseDups =
      if key ∈ keys then keys.eraseDups else keys.eraseDups ++ [key] := by
  rw [List.eraseDups_append]
  by_cases known : key ∈ keys
  · simp [List.removeAll, known]
  · simp [List.removeAll, known, List.eraseDups_cons]

theorem hashes_foldl_enter (lines : List IncomeEvent) :
    hashes (lines.foldl enter []) = (lines.filterMap lineKey).eraseDups := by
  induction lines using List.reverseRecOn with
  | nil => rfl
  | append_singleton lines line ih =>
      rw [List.foldl_append, List.foldl_cons, List.foldl_nil, hashes_enter, ih,
        movedIn_eq_lineKey, List.filterMap_append]
      cases key : lineKey line with
      | none => simp [key]
      | some txHash =>
          rw [List.filterMap_cons_some key, List.filterMap_nil, eraseDups_append_singleton]
          simp only [List.mem_eraseDups]

/-! ### What the entries show -/

theorem lastFee_singleton (txHash : String) (line : IncomeEvent) :
    lastFee txHash [line] = if chargedTo line = some txHash then line.debit else 0 := by
  by_cases charges : chargedTo line = some txHash <;> simp [lastFee, charges]

theorem find?_chargedTo_eq_none_iff {txHash : String} {lines : List IncomeEvent} :
    (lines.reverse.find? fun line => chargedTo line = some txHash) = none ↔
      txHash ∉ lines.filterMap chargedTo := by
  simp [List.find?_eq_none]

theorem lastFee_of_notMem {txHash : String} {lines : List IncomeEvent}
    (uncharged : txHash ∉ lines.filterMap chargedTo) : lastFee txHash lines = 0 := by
  rw [lastFee, find?_chargedTo_eq_none_iff.mpr uncharged]
  rfl

/-- The later lines decide if they charge a fee at all. -/
theorem lastFee_append (txHash : String) (first second : List IncomeEvent) :
    lastFee txHash (first ++ second) =
      if txHash ∈ second.filterMap chargedTo then lastFee txHash second
      else lastFee txHash first := by
  unfold lastFee
  rw [List.reverse_append, List.find?_append]
  by_cases charged : txHash ∈ second.filterMap chargedTo
  · obtain ⟨fee, found⟩ := Option.ne_none_iff_exists'.mp
      (mt find?_chargedTo_eq_none_iff.mp (not_not_intro charged))
    rw [if_pos charged, found]
    rfl
  · rw [if_neg charged, find?_chargedTo_eq_none_iff.mpr charged]
    rfl

theorem lastFee_append_singleton (txHash : String) (lines : List IncomeEvent)
    (line : IncomeEvent) :
    lastFee txHash (lines ++ [line]) =
      if chargedTo line = some txHash then line.debit else lastFee txHash lines := by
  rw [lastFee_append, lastFee_singleton]
  by_cases charges : chargedTo line = some txHash <;> simp [charges]

theorem shownBy_of_movementOf {line : IncomeEvent} {moved : OnChainTransaction}
    (moves : movementOf line = some moved) : ShownBy line [] moved := by
  obtain ⟨tag, amount⟩ := tag_of_movementOf moves
  have key := lineKey_of_movementOf moves
  rw [movementOf_of_tag tag] at moves
  obtain ⟨txHash, -, same⟩ := Option.map_eq_some_iff.mp moves
  have bare : moved.totalFees = 0 ∧ moved.timeStamp = line.timestamp ∧
      moved.label = line.description.getD "" ∧ moved.blockHeight = none ∧
      moved.numConfirmations = 0 := by
    rw [← same]
    exact ⟨rfl, rfl, rfl, rfl, rfl⟩
  obtain ⟨free, dated, labelled, unconfirmed⟩ := bare
  exact ⟨key, nofun, tag, amount, dated, labelled, free, unconfirmed⟩

namespace ShownBy

variable {line later : IncomeEvent} {after : List IncomeEvent} {shown : OnChainTransaction}

theorem last_append (shows : ShownBy line after shown)
    (other : lineKey later ≠ some shown.txHash) :
    ∀ next ∈ after ++ [later], lineKey next ≠ some shown.txHash := by
  intro next member
  rcases List.mem_append.mp member with before | same
  · exact shows.last next before
  · exact List.mem_singleton.mp same ▸ other

/-- A line that is not about the transaction changes nothing. -/
theorem passes (shows : ShownBy line after shown) (other : lineKey later ≠ some shown.txHash)
    (uncharged : chargedTo later ≠ some shown.txHash) :
    ShownBy line (after ++ [later]) shown := by
  refine { shows with last := shows.last_append other, totalFees := ?_ }
  rw [lastFee_append_singleton, if_neg uncharged, shows.totalFees]

/-- A later fee takes the place of the one before. -/
theorem charged (shows : ShownBy line after shown)
    (charges : chargedTo later = some shown.txHash) :
    ShownBy line (after ++ [later]) { shown with totalFees := later.debit } := by
  have other : lineKey later ≠ some shown.txHash := by
    rw [lineKey_of_chargedTo charges]
    exact nofun
  refine { shows with last := shows.last_append other, totalFees := ?_ }
  rw [lastFee_append_singleton, if_pos charges]

end ShownBy

theorem Shown.append {lines : List IncomeEvent} {later : IncomeEvent}
    {shown changed : OnChainTransaction} (shows : Shown lines shown)
    (goesOn : ∀ {line after}, ShownBy line after shown →
      ShownBy line (after ++ [later]) changed) :
    Shown (lines ++ [later]) changed := by
  obtain ⟨before, line, after, rfl, shownBy⟩ := shows
  exact ⟨before, line, after ++ [later], by simp, goesOn shownBy⟩

theorem shown_enter {lines : List IncomeEvent} {listed : List OnChainTransaction}
    (distinct : (hashes listed).Nodup) (shows : ∀ shown ∈ listed, Shown lines shown)
    (later : IncomeEvent) : ∀ shown ∈ enter listed later, Shown (lines ++ [later]) shown := by
  intro shown member
  rw [enter_eq] at member
  cases moves : movementOf later with
  | some moved =>
      -- The movement takes the place of the one before, and leaves the other transactions alone.
      have key := lineKey_of_movementOf moves
      simp only [moves, (record_perm moved distinct).mem_iff, List.mem_append, List.mem_filter,
        List.mem_singleton, decide_eq_true_eq] at member
      rcases member with ⟨member, different⟩ | rfl
      · refine (shows shown member).append fun shownBy => shownBy.passes ?_ fun charges => ?_
        · rw [key]
          exact fun same => different (Option.some.inj same).symm
        · rw [lineKey_of_chargedTo charges] at key
          cases key
      · exact ⟨lines, later, [], rfl, shownBy_of_movementOf moves⟩
  | none =>
      have other (txHash : String) : lineKey later ≠ some txHash := by
        rw [← movedIn_eq_lineKey, movedIn_eq_map, moves]
        exact nofun
      cases charges : chargedTo later with
      | none =>
          simp only [moves, charges] at member
          refine (shows shown member).append fun shownBy => shownBy.passes (other _) ?_
          rw [charges]
          exact nofun
      | some txHash =>
          simp only [moves, charges, setFees, List.mem_map] at member
          obtain ⟨before, member, rfl⟩ := member
          by_cases same : before.txHash = txHash
          · rw [if_pos same]
            exact (shows before member).append fun shownBy =>
              shownBy.charged (charges.trans (congrArg some same.symm))
          · rw [if_neg same]
            refine (shows before member).append fun shownBy => shownBy.passes (other _) ?_
            rw [charges]
            exact fun charged => same (Option.some.inj charged).symm

/-- Whatever the lines are, each entry shows the last movement in its transaction and the last fee
after that. -/
theorem shown_foldl_enter (lines : List IncomeEvent) :
    (hashes (lines.foldl enter [])).Nodup ∧ ∀ shown ∈ lines.foldl enter [], Shown lines shown := by
  induction lines using List.reverseRecOn with
  | nil => exact ⟨List.nodup_nil, nofun⟩
  | append_singleton lines line ih =>
      obtain ⟨distinct, shows⟩ := ih
      rw [List.foldl_append, List.foldl_cons, List.foldl_nil]
      exact ⟨nodup_hashes_enter _ line distinct, shown_enter distinct shows line⟩

/-! ### Lines without effect -/

theorem enter_of_not_matters {line : IncomeEvent} (wallet : line.account = walletAccount)
    (irrelevant : ¬ Matters line) (listed : List OnChainTransaction) :
    enter listed line = listed := by
  have tag : ¬ (line.tag = "deposit" ∨ line.tag = "withdrawal" ∨ line.tag = "onchain_fee") :=
    fun relevant => irrelevant ⟨wallet, relevant⟩
  simp only [not_or] at tag
  obtain ⟨deposit, withdrawal, fee⟩ := tag
  simp [enter_eq, movementOf, chargedTo, fee]

/-- The listing depends on the lines that matter only. -/
theorem transactions_eq_foldl_matters (report : IncomeReport) :
    transactions report =
      (report.events.filter fun line => Matters line).foldl enter [] := by
  unfold transactions
  rw [List.foldl_filter, List.foldl_filter]
  refine List.foldl_ext _ _ _ fun listed line _ => ?_
  by_cases wallet : line.account = walletAccount
  · by_cases relevant : Matters line
    · simp [wallet, relevant]
    · simp [wallet, relevant, enter_of_not_matters wallet relevant]
  · have irrelevant : ¬ Matters line := fun relevant => wallet relevant.1
    simp [wallet, irrelevant]

/-! ### A listing with an index -/

/-- A listing in the making, and an index of the places where its entries stand. -/
structure Register where
  listed : Array OnChainTransaction
  places : Std.HashMap String Nat

namespace Register

def empty : Register := ⟨#[], ∅⟩

/-- Changes the entry at a place, unless the place is out of range. -/
def alter (register : Register) (place : Nat)
    (change : OnChainTransaction → OnChainTransaction) : Option Register :=
  if within : place < register.listed.size then
    some { register with listed := register.listed.set place (change register.listed[place]) }
  else
    none

def put (register : Register) (moved : OnChainTransaction) : Option Register :=
  match register.places[moved.txHash]? with
  | some place => register.alter place fun _ => moved
  | none =>
      some ⟨register.listed.push moved,
        register.places.insert moved.txHash register.listed.size⟩

def charge (register : Register) (txHash : String) (fees : Msat) : Option Register :=
  match register.places[txHash]? with
  | some place => register.alter place fun entry => { entry with totalFees := fees }
  | none => some register

def enter (register : Register) (line : IncomeEvent) : Option Register :=
  match movementOf line, chargedTo line with
  | some moved, _ => register.put moved
  | none, some txHash => register.charge txHash line.debit
  | none, none => some register

/-- The listing of a report, unless a place was out of range. -/
def listing (report : IncomeReport) : Option (List OnChainTransaction) := do
  let register ← (walletLines report).foldlM enter empty
  return register.listed.toList

/-- The register holds a listing, and the index tells the places in it. -/
structure Keeps (register : Register) (listed : List OnChainTransaction) : Prop where
  entries : register.listed.toList = listed
  places : ∀ txHash, register.places[txHash]? = (hashes listed).idxOf? txHash

end Register

theorem record_of_notMem {moved : OnChainTransaction} {listed : List OnChainTransaction}
    (fresh : moved.txHash ∉ hashes listed) : record moved listed = listed ++ [moved] := by
  induction listed with
  | nil => rfl
  | cons other rest ih =>
      have different : other.txHash ≠ moved.txHash := fun same =>
        fresh (same ▸ List.mem_cons_self)
      rw [record, if_neg different, ih fun later => fresh (List.mem_cons_of_mem _ later),
        List.cons_append]

theorem record_of_idxOf? {moved : OnChainTransaction} {listed : List OnChainTransaction}
    {place : Nat} (found : (hashes listed).idxOf? moved.txHash = some place) :
    record moved listed = listed.set place moved := by
  induction listed generalizing place with
  | nil => cases found
  | cons other rest ih =>
      rw [hashes, List.map_cons, List.idxOf?_cons] at found
      by_cases same : other.txHash = moved.txHash
      · rw [if_pos (beq_iff_eq.mpr same)] at found
        obtain rfl := Option.some.inj found
        rw [record, if_pos same, List.set_cons_zero]
      · rw [if_neg (by simpa using same)] at found
        obtain ⟨earlier, foundLater, rfl⟩ := Option.map_eq_some_iff.mp found
        rw [record, if_neg same, ih foundLater, List.set_cons_succ]

theorem setFees_cons (txHash : String) (fees : Msat) (first : OnChainTransaction)
    (rest : List OnChainTransaction) :
    setFees txHash fees (first :: rest) =
      (if first.txHash = txHash then { first with totalFees := fees } else first) ::
        setFees txHash fees rest := rfl

theorem setFees_of_notMem {txHash : String} {listed : List OnChainTransaction}
    (fresh : txHash ∉ hashes listed) (fees : Msat) : setFees txHash fees listed = listed := by
  refine List.map_congr_left (fun transaction member => ?_) |>.trans (List.map_id listed)
  exact if_neg fun same => fresh (List.mem_map.mpr ⟨transaction, member, same⟩)

theorem setFees_of_idxOf? {txHash : String} {listed : List OnChainTransaction} {place : Nat}
    (distinct : (hashes listed).Nodup) (found : (hashes listed).idxOf? txHash = some place)
    (within : place < listed.length) (fees : Msat) :
    setFees txHash fees listed = listed.set place { listed[place] with totalFees := fees } := by
  induction listed generalizing place with
  | nil => cases found
  | cons other rest ih =>
      obtain ⟨fresh, distinct⟩ := List.nodup_cons.mp distinct
      rw [hashes, List.map_cons, List.idxOf?_cons] at found
      by_cases same : other.txHash = txHash
      · rw [if_pos (beq_iff_eq.mpr same)] at found
        obtain rfl := Option.some.inj found
        have others : setFees txHash fees rest = rest :=
          setFees_of_notMem (same ▸ fresh) fees
        rw [setFees_cons, if_pos same, others]
        rfl
      · rw [if_neg (by simpa using same)] at found
        obtain ⟨earlier, foundLater, rfl⟩ := Option.map_eq_some_iff.mp found
        rw [setFees_cons, if_neg same, ih distinct foundLater (Nat.lt_of_succ_lt_succ within)]
        rfl

theorem idxOf?_append_singleton {keys : List String} {key : String} (fresh : key ∉ keys)
    (other : String) :
    (keys ++ [key]).idxOf? other = if key = other then some keys.length else keys.idxOf? other := by
  induction keys with
  | nil => simp [List.idxOf?_cons]
  | cons first rest ih =>
      rw [List.cons_append, List.idxOf?_cons, List.idxOf?_cons,
        ih fun later => fresh (List.mem_cons_of_mem _ later)]
      by_cases same : first = other
      · have different : key ≠ other := fun equal =>
          fresh (List.mem_cons.mpr (.inl (equal.trans same.symm)))
        simp [same, different]
      · by_cases found : key = other <;> simp [same, found]

namespace Register

variable {register : Register} {listed : List OnChainTransaction}

theorem Keeps.size (keeps : Keeps register listed) : register.listed.size = listed.length := by
  rw [← keeps.entries, Array.length_toList]

theorem Keeps.getElem (keeps : Keeps register listed) {place : Nat}
    (within : place < register.listed.size) (inside : place < listed.length) :
    register.listed[place] = listed[place] := by
  simp [← keeps.entries]

/-- A place that the index tells is within range. -/
theorem Keeps.within (keeps : Keeps register listed) {txHash : String} {place : Nat}
    (found : register.places[txHash]? = some place) : place < register.listed.size := by
  rw [keeps.places] at found
  obtain ⟨within, -⟩ := List.idxOf?_eq_some_iff.mp found
  rw [keeps.size]
  simpa [hashes] using within

/-- A change at a place that the index tells goes through, if it keeps the hash. -/
theorem exists_keeps_alter (keeps : Keeps register listed) {txHash : String} {place : Nat}
    (found : register.places[txHash]? = some place) (within : place < listed.length)
    {change : OnChainTransaction → OnChainTransaction}
    (kept : (change listed[place]).txHash = listed[place].txHash) :
    ∃ later, register.alter place change = some later ∧
      Keeps later (listed.set place (change listed[place])) := by
  have inside := keeps.within found
  refine ⟨_, dif_pos inside, ?_, fun other => ?_⟩
  · simp [keeps.getElem inside within, keeps.entries]
  · have same : hashes (listed.set place (change listed[place])) = hashes listed := by
      have known : place < (hashes listed).length := by simpa [hashes] using within
      have hash : listed[place].txHash = (hashes listed)[place] :=
        (List.getElem_map OnChainTransaction.txHash).symm
      rw [hashes, List.map_set, kept, hash]
      exact List.set_getElem_self known
    rw [same]
    exact keeps.places other

theorem exists_keeps_put (keeps : Keeps register listed) (moved : OnChainTransaction) :
    ∃ later, register.put moved = some later ∧ Keeps later (record moved listed) := by
  unfold put
  have told := keeps.places moved.txHash
  cases found : register.places[moved.txHash]? with
  | some place =>
      have here := told.symm.trans found
      obtain ⟨within, hash, -⟩ := List.idxOf?_eq_some_iff.mp here
      have inside : place < listed.length := by simpa [hashes] using within
      have kept : moved.txHash = listed[place].txHash := by simpa [hashes] using hash.symm
      rw [record_of_idxOf? here]
      exact exists_keeps_alter keeps found inside kept
  | none =>
      have fresh := List.idxOf?_eq_none_iff.mp (told.symm.trans found)
      rw [record_of_notMem fresh]
      refine ⟨_, rfl, by rw [Array.toList_push, keeps.entries], fun other => ?_⟩
      have hashed : hashes (listed ++ [moved]) = hashes listed ++ [moved.txHash] := by
        simp [hashes]
      rw [hashed, idxOf?_append_singleton fresh, Std.HashMap.getElem?_insert, keeps.size,
        keeps.places other]
      simp [hashes]

theorem exists_keeps_charge (keeps : Keeps register listed) (distinct : (hashes listed).Nodup)
    (txHash : String) (fees : Msat) :
    ∃ later, register.charge txHash fees = some later ∧
      Keeps later (setFees txHash fees listed) := by
  unfold charge
  have told := keeps.places txHash
  cases found : register.places[txHash]? with
  | some place =>
      have here := told.symm.trans found
      obtain ⟨within, -⟩ := List.idxOf?_eq_some_iff.mp here
      have inside : place < listed.length := by simpa [hashes] using within
      rw [setFees_of_idxOf? distinct here inside]
      exact exists_keeps_alter keeps found inside rfl
  | none =>
      have fresh := List.idxOf?_eq_none_iff.mp (told.symm.trans found)
      rw [setFees_of_notMem fresh]
      exact ⟨register, rfl, keeps⟩

/-- No line makes the index tell a place that is out of range. -/
theorem exists_keeps_enter (keeps : Keeps register listed) (distinct : (hashes listed).Nodup)
    (line : IncomeEvent) :
    ∃ later, register.enter line = some later ∧ Keeps later (Bookkeeping.enter listed line) := by
  rw [enter_eq]
  unfold enter
  cases movementOf line with
  | some moved => exact exists_keeps_put keeps moved
  | none =>
      cases chargedTo line with
      | some txHash => exact exists_keeps_charge keeps distinct txHash line.debit
      | none => exact ⟨register, rfl, keeps⟩

theorem exists_keeps_foldlM (lines : List IncomeEvent) (keeps : Keeps register listed)
    (distinct : (hashes listed).Nodup) :
    ∃ later, lines.foldlM enter register = some later ∧
      Keeps later (lines.foldl Bookkeeping.enter listed) := by
  induction lines generalizing register listed with
  | nil => exact ⟨register, rfl, keeps⟩
  | cons line rest ih =>
      obtain ⟨next, entered, keepsNext⟩ := exists_keeps_enter keeps distinct line
      obtain ⟨later, went, keepsLater⟩ := ih keepsNext (nodup_hashes_enter listed line distinct)
      refine ⟨later, ?_, keepsLater⟩
      rw [List.foldlM_cons, entered]
      exact went

theorem listing_eq (report : IncomeReport) : listing report = some (transactions report) := by
  have begun : Keeps empty [] := ⟨rfl, fun txHash => by simp [empty, hashes]⟩
  obtain ⟨register, went, keeps⟩ :=
    exists_keeps_foldlM (walletLines report) begun List.nodup_nil
  rw [listing, went]
  exact congrArg some keeps.entries

end Register

/-! ### The listing of a report -/

/-- A report that can be read is listed, with one entry for each transaction in which it moves coins
of the wallet, in the order in which it first mentions them. Each entry shows the last movement and
the last fee after it, and lines about anything else have no effect. No place in the listing is ever
out of range. -/
theorem listing_summarizes_report {output : String} {report : IncomeReport}
    (read : IncomeReport.codec.decodeText output = .ok report) :
    ∃ listing, parseIncome output = .ok listing ∧ Register.listing report = some listing ∧
      hashes listing = ((walletLines report).filterMap lineKey).eraseDups ∧
      (∀ shown ∈ listing, Shown (walletLines report) shown) ∧
      ∀ (otherOutput : String) (other : IncomeReport),
        IncomeReport.codec.decodeText otherOutput = .ok other →
        (other.events.filter fun line => Matters line) =
          (report.events.filter fun line => Matters line) →
        parseIncome otherOutput = .ok listing := by
  refine ⟨transactions report, by rw [parseIncome, read], Register.listing_eq report,
    hashes_foldl_enter _, (shown_foldl_enter _).2, fun otherOutput other otherRead same => ?_⟩
  rw [parseIncome, otherRead, transactions_eq_foldl_matters report, ← same,
    ← transactions_eq_foldl_matters other]

/-- Two movements in the transaction w1, a fee for it before the first one and one after each, a
line about a channel and a deposit that names no transaction. -/
def busyReport : IncomeReport :=
  ⟨[⟨"wallet", "onchain_fee", 0, 50, 10, none, none, some "w1"⟩,
    ⟨"wallet", "deposit", 9000, 0, 20, none, some "d1:0", none⟩,
    ⟨"wallet", "withdrawal", 0, 9000, 30, none, some "d1:0", some "w1"⟩,
    ⟨"wallet", "onchain_fee", 0, 141, 30, none, none, some "w1"⟩,
    ⟨"channel", "deposit", 500, 0, 35, none, some "c1:0", none⟩,
    ⟨"wallet", "deposit", 4000, 0, 40, some "change", some "w1:1", none⟩,
    ⟨"wallet", "deposit", 700, 0, 45, none, none, none⟩,
    ⟨"wallet", "onchain_fee", 0, 150, 50, none, none, some "w1"⟩]⟩

theorem busyReport_summarized :
    ∃ listing, parseIncome (IncomeReport.codec.write busyReport).compact = .ok listing ∧
      Register.listing busyReport = some listing ∧ hashes listing = ["d1", "w1"] ∧
      (∀ shown ∈ listing, Shown (walletLines busyReport) shown) ∧
      parseIncome (IncomeReport.codec.write ⟨busyReport.events.filter fun line =>
        Matters line⟩).compact = .ok listing := by
  obtain ⟨listing, parsed, placed, order, shows, indifferent⟩ :=
    listing_summarizes_report (IncomeReport.decodeText_compact busyReport)
  have fewer := IncomeReport.decodeText_compact
    ⟨busyReport.events.filter fun line => Matters line⟩
  exact ⟨listing, parsed, placed, order.trans (by decide +kernel), shows,
    indifferent _ _ fewer (by simp)⟩

end LightningGateway.Daemon.Bookkeeping
