import Mathlib.Data.List.Forall2
import Mathlib.Data.List.Induction
import LightningGateway.Proofs.Confirmations

/-!
# Heights

The report of account events puts transactions of the wallet into blocks. Its lines about the chain
name a transaction, and the last one that gives it a height counts. Entering the heights of a report
changes nothing else, and a report that cannot be read changes nothing at all. Since no line counts
that gives the height zero, a transaction that is listed has a height exactly if some line confirms
it, and its confirmations are counted from there.
-/

namespace LightningGateway.Daemon.Bookkeeping

/-! ### Lines that tell a height -/

/-- An output is one of a transaction, whose hash stands before the colon, or alone. -/
def OutputOf (outpoint txHash : String) : Prop :=
  ∃ rest, outpoint.toList = txHash.toList ++ rest ∧ ':' ∉ txHash.toList ∧
    (rest = [] ∨ rest.head? = some ':')

/-- A line tells that the block at a height holds a transaction of the wallet. -/
structure Places (line : AccountEvent) (txHash : String) (height : UInt32) : Prop where
  wallet : line.account = walletAccount
  chain : line.kind = "chain"
  names :
    (line.tag = "deposit" ∧ ∃ outpoint, line.outpoint = some outpoint ∧ OutputOf outpoint txHash) ∨
      (line.tag = "withdrawal" ∧ line.txid = some txHash)
  named : txHash ≠ ""
  held : line.blockHeight = some height
  positive : 0 < height

/-- A line tells the height of a transaction, and no later one tells another. -/
def LastPlaces (report : AccountReport) (txHash : String) (height : UInt32) : Prop :=
  ∃ earlier line later, report.events = earlier ++ line :: later ∧ Places line txHash height ∧
    ∀ other ∈ later, ∀ height, ¬ Places other txHash height

theorem transactionOf_eq_iff {outpoint txHash : String} :
    transactionOf outpoint = txHash ↔ OutputOf outpoint txHash := by
  constructor
  · rintro rfl
    refine ⟨outpoint.toList.dropWhile (· != ':'), ?_, ?_, ?_⟩
    · rw [transactionOf, Text.upTo, String.toList_ofList, List.takeWhile_append_dropWhile]
    · intro member
      rw [transactionOf, Text.upTo, String.toList_ofList] at member
      simpa using List.mem_takeWhile_imp member
    · have stops := List.head?_dropWhile_not (· != ':') outpoint.toList
      cases left : outpoint.toList.dropWhile (· != ':') with
      | nil => exact .inl rfl
      | cons mark rest =>
          rw [left] at stops
          exact .inr (congrArg some (by simpa using stops))
  · rintro ⟨rest, parts, unmarked, ends⟩
    have passed : ∀ character ∈ txHash.toList, (character != ':') = true := by
      intro character member
      exact bne_iff_ne.mpr fun same => unmarked (same ▸ member)
    have stopped : rest.takeWhile (· != ':') = [] := by
      rcases ends with rfl | ends
      · rfl
      · cases rest with
        | nil => rfl
        | cons mark others =>
            obtain rfl : mark = ':' := by simpa using ends
            rfl
    rw [transactionOf, Text.upTo, parts, List.takeWhile_append_of_pos passed, stopped,
      List.append_nil, String.ofList_toList]

theorem places_iff {line : AccountEvent} {txHash : String} {height : UInt32} :
    Places line txHash height ↔ reportedHeight line = some (txHash, height) := by
  have key : accountKey line = some txHash ↔
      (line.tag = "deposit" ∧
        ∃ outpoint, line.outpoint = some outpoint ∧ OutputOf outpoint txHash) ∨
      (line.tag = "withdrawal" ∧ line.txid = some txHash) := by
    simp only [accountKey_eq_some_iff, transactionOf_eq_iff]
  constructor
  · rintro ⟨wallet, chain, names, named, held, positive⟩
    rw [reportedHeight, if_pos ⟨wallet, chain⟩, key.mpr names, held]
    exact if_pos ⟨named, positive⟩
  · intro reports
    unfold reportedHeight at reports
    split at reports
    · next account =>
        split at reports
        · next known held =>
            split at reports
            · next tells =>
                cases reports
                exact ⟨account.1, account.2, key.mp known, tells.1, held, tells.2⟩
            · cases reports
        · cases reports
    · cases reports

/-- The height that counts is the last one. -/
theorem heightOf_eq_some_iff {report : AccountReport} {txHash : String} {height : UInt32} :
    heightOf report txHash = some height ↔ LastPlaces report txHash height := by
  simp only [heightOf, List.lookup_eq_some_iff, LastPlaces, places_iff, List.reverse_eq_append_iff]
  constructor
  · rintro ⟨after, before, listed, others⟩
    rw [List.reverse_cons, List.append_assoc, List.filterMap_eq_append_iff] at listed
    obtain ⟨earlier, rest, split, -, told⟩ := listed
    rw [List.singleton_append] at told
    obtain ⟨silent, line, later, rfl, -, tells, remaining⟩ := List.filterMap_eq_cons_iff.mp told
    refine ⟨earlier ++ silent, line, later, by simp [split], tells, ?_⟩
    intro other member held same
    have listed : (txHash, held) ∈ after := by
      rw [← List.mem_reverse, ← remaining]
      exact List.mem_filterMap.mpr ⟨other, member, same⟩
    simpa using others _ listed
  · rintro ⟨earlier, line, later, split, tells, last⟩
    refine ⟨(later.filterMap reportedHeight).reverse,
      (earlier.filterMap reportedHeight).reverse, ?_, fun told member => ?_⟩
    · simp [split, tells]
    · obtain ⟨other, inside, same⟩ := List.mem_filterMap.mp (List.mem_reverse.mp member)
      exact bne_iff_ne.mpr fun equal => last other inside told.2 (by rw [same, equal])

theorem heightOf_eq_none_iff {report : AccountReport} {txHash : String} :
    heightOf report txHash = none ↔
      ∀ line ∈ report.events, ∀ height, ¬ Places line txHash height := by
  rw [← Option.not_isSome_iff_eq_none, isSome_heightOf_iff]
  simp only [Confirms, places_iff, not_exists, not_and]

theorem pos_of_heightOf {report : AccountReport} {txHash : String} {height : UInt32}
    (told : heightOf report txHash = some height) : 0 < height := by
  obtain ⟨_, _, _, _, places, _⟩ := heightOf_eq_some_iff.mp told
  exact places.positive

/-! ### Entering heights -/

/-- A transaction before and after the heights of a report are entered. -/
structure Entered (report : AccountReport) (before after : OnChainTransaction) : Prop where
  others : { after with blockHeight := before.blockHeight } = before
  height :
    (∃ height, LastPlaces report before.txHash height ∧ after.blockHeight = some height) ∨
      (∀ line ∈ report.events, ∀ height, ¬ Places line before.txHash height) ∧
        after.blockHeight = before.blockHeight

theorem entered_enterHeights (report : AccountReport) (transactions : List OnChainTransaction) :
    List.Forall₂ (Entered report) transactions (enterHeights report transactions) := by
  refine List.forall₂_map_right_iff.mpr (List.forall₂_same.mpr fun transaction _ => ?_)
  cases told : heightOf report transaction.txHash with
  | none => exact ⟨rfl, .inr ⟨heightOf_eq_none_iff.mp told, rfl⟩⟩
  | some height => exact ⟨rfl, .inl ⟨height, heightOf_eq_some_iff.mp told, rfl⟩⟩

theorem applyHeights_of_ok {output : String} {report : AccountReport}
    (read : AccountReport.codec.decodeText output = .ok report)
    (transactions : List OnChainTransaction) :
    applyHeights output transactions = .ok (enterHeights report transactions) := by
  rw [applyHeights, read]

/-- Heights that were entered stay when they are entered once more. -/
theorem enterHeights_enterHeights (report : AccountReport)
    (transactions : List OnChainTransaction) :
    enterHeights report (enterHeights report transactions) = enterHeights report transactions := by
  unfold enterHeights
  rw [List.map_map]
  refine List.map_congr_left fun transaction _ => ?_
  cases told : heightOf report transaction.txHash <;> simp [told]

/-! ### Heights in place -/

/-- The heights that a report tells; a later line overwrites what an earlier one told. -/
def heights (report : AccountReport) : Std.HashMap String UInt32 :=
  report.events.foldl (fun known line =>
    match reportedHeight line with
    | some (txHash, height) => known.insert txHash height
    | none => known) ∅

/-- Changes transactions where they stand, unless the report cannot be read. -/
def enterInPlace (output : String) (listed : Array OnChainTransaction) :
    Except TransportError Unit × Array OnChainTransaction :=
  match AccountReport.codec.decodeText output with
  | .error error => (.error (.ofDecodeError error), listed)
  | .ok report =>
      (.ok (), listed.map fun transaction =>
        match (heights report)[transaction.txHash]? with
        | some height => { transaction with blockHeight := some height }
        | none => transaction)

theorem getElem?_heights (report : AccountReport) (txHash : String) :
    (heights report)[txHash]? = heightOf report txHash := by
  unfold heights heightOf
  induction report.events using List.reverseRecOn with
  | nil => exact Std.HashMap.getElem?_empty
  | append_singleton lines line ih =>
      rw [List.foldl_append, List.foldl_cons, List.foldl_nil, List.filterMap_append,
        List.reverse_append]
      cases told : reportedHeight line with
      | none => simpa [told] using ih
      | some place =>
          obtain ⟨other, height⟩ := place
          by_cases same : other = txHash
          · simp [told, same]
          · have different : (txHash == other) = false := by simpa using Ne.symm same
            simpa [told, Std.HashMap.getElem?_insert, same, different, List.lookup_cons] using ih

theorem enterInPlace_of_error {output : String} {error : DecodeError}
    (unread : AccountReport.codec.decodeText output = .error error)
    (listed : Array OnChainTransaction) :
    enterInPlace output listed = (.error (.ofDecodeError error), listed) := by
  rw [enterInPlace, unread]

theorem enterInPlace_of_ok {output : String} {report : AccountReport}
    (read : AccountReport.codec.decodeText output = .ok report)
    (transactions : List OnChainTransaction) :
    enterInPlace output transactions.toArray =
      (.ok (), (enterHeights report transactions).toArray) := by
  rw [enterInPlace, read]
  simp only [getElem?_heights, List.map_toArray]
  rfl

/-! ### Listed transactions -/

/-- A transaction as it is listed when the chain has reached a tip. -/
structure Counted (report : AccountReport) (tip : UInt32) (transaction : OnChainTransaction) :
    Prop where
  height_ne_zero : transaction.blockHeight ≠ some 0
  succeeded_iff :
    (TimelineEntry.ofOnChain (transaction.updateConfirmations tip)).status = .succeeded ↔
      ∃ line ∈ report.events, ∃ height, Places line transaction.txHash height
  confirmations :
    (transaction.updateConfirmations tip).numConfirmations.toNat =
      match transaction.blockHeight with
      | some height => tip.toNat - height.toNat
      | none => 0

theorem toNat_numConfirmations (tip : UInt32) (transaction : OnChainTransaction) :
    (transaction.updateConfirmations tip).numConfirmations.toNat =
      match transaction.blockHeight with
      | some height => tip.toNat - height.toNat
      | none => 0 := by
  unfold OnChainTransaction.updateConfirmations
  cases transaction.blockHeight with
  | none => rfl
  | some height =>
      dsimp only
      split
      · next reached => exact UInt32.toNat_sub_of_le tip height reached
      · next ahead =>
          rw [UInt32.le_iff_toNat_le] at ahead
          exact (Nat.sub_eq_zero_of_le (Nat.le_of_not_le ahead)).symm

theorem status_ofOnChain (tip : UInt32) (transaction : OnChainTransaction) :
    (TimelineEntry.ofOnChain (transaction.updateConfirmations tip)).status = .succeeded ↔
      transaction.blockHeight.isSome := by
  unfold TimelineEntry.ofOnChain OnChainTransaction.updateConfirmations
  cases transaction.blockHeight <;> simp

theorem parseIncome_of_ok {output : String} {report : IncomeReport}
    (read : IncomeReport.codec.decodeText output = .ok report) :
    parseIncome output = .ok (transactions report) := by
  rw [parseIncome, read]

theorem exists_transactions_of_parseIncome {output : String} {listed : List OnChainTransaction}
    (parsed : parseIncome output = .ok listed) : ∃ report, transactions report = listed := by
  unfold parseIncome at parsed
  split at parsed
  · next report _ =>
      cases parsed
      exact ⟨report, rfl⟩
  · cases parsed

/-- What is listed has the height that the report tells, or none. -/
theorem counted_of_mem {income : IncomeReport} {report : AccountReport}
    {transaction : OnChainTransaction}
    (member : transaction ∈ enterHeights report (transactions income)) (tip : UInt32) :
    Counted report tip transaction := by
  have told := blockHeight_of_mem_enterHeights member
  refine ⟨fun zero => ?_, ?_, toNat_numConfirmations tip transaction⟩
  · exact absurd (pos_of_heightOf (told.symm.trans zero)) (by decide)
  · rw [status_ofOnChain, told, isSome_heightOf_iff]
    simp only [Confirms, places_iff]

/-- A report that cannot be read is refused, and the transactions stay as they were. Any other
report gives each transaction the height of the last line that places it, and changes nothing else,
also when it is entered twice. A transaction of the income report then has succeeded exactly if some
line places it, and has as many confirmations as there are blocks above its own. -/
theorem heights_entered_as_told (output : String) (transactions : List OnChainTransaction) :
    match AccountReport.codec.decodeText output with
    | .error error =>
        applyHeights output transactions = .error (.ofDecodeError error) ∧
          enterInPlace output transactions.toArray =
            (.error (.ofDecodeError error), transactions.toArray)
    | .ok report =>
        ∃ entered, applyHeights output transactions = .ok entered ∧
          enterInPlace output transactions.toArray = (.ok (), entered.toArray) ∧
          List.Forall₂ (Entered report) transactions entered ∧
          applyHeights output entered = .ok entered ∧
          ∀ income, parseIncome income = .ok transactions →
            ∀ transaction ∈ entered, ∀ tip, Counted report tip transaction := by
  cases read : AccountReport.codec.decodeText output with
  | error error => exact ⟨by rw [applyHeights, read], enterInPlace_of_error read _⟩
  | ok report =>
      refine ⟨enterHeights report transactions, applyHeights_of_ok read transactions,
        enterInPlace_of_ok read transactions, entered_enterHeights report transactions, ?_, ?_⟩
      · rw [applyHeights_of_ok read, enterHeights_enterHeights]
      · intro income parsed transaction member tip
        obtain ⟨incomeReport, rfl⟩ := exists_transactions_of_parseIncome parsed
        exact counted_of_mem member tip

/-- A deposit and a withdrawal that spends it. -/
def spentReport : IncomeReport :=
  ⟨[⟨"wallet", "deposit", 9000, 0, 20, none, some "d1:0", none⟩,
    ⟨"wallet", "withdrawal", 0, 9000, 30, none, some "d1:0", some "w1"⟩]⟩

/-- The block of the deposit is told twice, and the withdrawal is in no block. -/
def movedReport : AccountReport :=
  ⟨[⟨"wallet", "chain", "deposit", some "d1:0", none, some 100⟩,
    ⟨"wallet", "chain", "withdrawal", some "d1:0", some "w1", some 0⟩,
    ⟨"wallet", "chain", "deposit", some "d1:0", none, some 101⟩]⟩

theorem heights_entered_for_spentReport :
    parseIncome (IncomeReport.codec.write spentReport).compact = .ok (transactions spentReport) ∧
      ∃ entered,
        applyHeights (AccountReport.codec.write movedReport).compact (transactions spentReport) =
          .ok entered ∧
        entered.map (fun transaction => (transaction.txHash, transaction.blockHeight)) =
          [("d1", some 101), ("w1", none)] ∧
        List.Forall₂ (Entered movedReport) (transactions spentReport) entered ∧
        ∀ transaction ∈ entered, Counted movedReport 110 transaction := by
  have parsed : parseIncome (IncomeReport.codec.write spentReport).compact =
      .ok (transactions spentReport) :=
    parseIncome_of_ok (IncomeReport.decodeText_compact spentReport)
  have read := AccountReport.decodeText_compact movedReport
  generalize (AccountReport.codec.write movedReport).compact = output at read ⊢
  have told := heights_entered_as_told output (transactions spentReport)
  rw [read] at told
  obtain ⟨entered, applied, -, same, -, counted⟩ := told
  have listed : enterHeights movedReport (transactions spentReport) = entered :=
    Except.ok.inj ((applyHeights_of_ok read _).symm.trans applied)
  exact ⟨parsed, entered, applied, by rw [← listed]; decide +kernel, same,
    fun transaction member => counted _ parsed transaction member 110⟩

end LightningGateway.Daemon.Bookkeeping
