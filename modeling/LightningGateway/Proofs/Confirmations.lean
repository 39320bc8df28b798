import LightningGateway.Proofs.Movements

/-!
# Confirmations

A transaction gets its height from the report of account events, whose lines name a deposit by its
output only and a withdrawal by what spends only, and never by an empty name. The income report
also lists a deposit by what spends, a withdrawal by its output, and either under an empty name.
So a movement that both reports contain is confirmed in the listing if its line in the report of
account events names it in this way, and otherwise only if another line does.
-/

namespace LightningGateway.Daemon.Bookkeeping

/-! ### Movements in both reports -/

/-- A line of each report about the same movement of the wallet. -/
structure SameMovement (event : IncomeEvent) (line : AccountEvent) : Prop where
  account : event.account = walletAccount
  accountOfLine : line.account = walletAccount
  tag : event.tag = line.tag
  outpoint : event.outpoint = line.outpoint
  txid : event.txid = line.txid

/-- A block holds the transaction of a line. -/
def Confirmed (line : AccountEvent) : Prop :=
  line.kind = "chain" ∧ ∃ height, line.blockHeight = some height ∧ 0 < height

/-- A deposit with an output, or a withdrawal with what spends, that names its transaction. -/
def Named (line : AccountEvent) : Prop :=
  (line.tag = "deposit" ∧
    ∃ outpoint, line.outpoint = some outpoint ∧ transactionOf outpoint ≠ "") ∨
  (line.tag = "withdrawal" ∧ ∃ txid, line.txid = some txid ∧ txid ≠ "")

def Confirms (line : AccountEvent) (txHash : String) : Prop :=
  ∃ height, reportedHeight line = some (txHash, height)

/-! ### Names of transactions -/

theorem accountKey_eq_some_iff {line : AccountEvent} {txHash : String} :
    accountKey line = some txHash ↔
      (line.tag = "deposit" ∧
        ∃ outpoint, line.outpoint = some outpoint ∧ transactionOf outpoint = txHash) ∨
      (line.tag = "withdrawal" ∧ line.txid = some txHash) := by
  unfold accountKey
  split
  · next deposit => simp [deposit]
  · next withdrawal => simp [withdrawal]
  · next deposit withdrawal =>
      constructor
      · exact nofun
      · rintro (⟨tag, -⟩ | ⟨tag, -⟩)
        · exact (deposit tag).elim
        · exact (withdrawal tag).elim

theorem incomeKey_receive {event : IncomeEvent} {outpoint : String}
    (created : event.outpoint = some outpoint) :
    incomeKey .receive event = some (transactionOf outpoint) := by
  unfold incomeKey
  rw [created]

theorem incomeKey_send {event : IncomeEvent} {txid : String} (spends : event.txid = some txid) :
    incomeKey .send event = some txid := by
  unfold incomeKey
  rw [spends]

theorem confirms_iff_of_confirmed {line : AccountEvent} (wallet : line.account = walletAccount)
    (confirmed : Confirmed line) (txHash : String) :
    Confirms line txHash ↔ accountKey line = some txHash ∧ txHash ≠ "" := by
  obtain ⟨chain, height, held, positive⟩ := confirmed
  rw [Confirms, reportedHeight, if_pos ⟨wallet, chain⟩, held]
  cases accountKey line with
  | none => simp
  | some key =>
      by_cases unnamed : key = ""
      · have other : ¬ (key ≠ "" ∧ 0 < height) := fun named => named.1 unnamed
        simp only [if_neg other, Option.some.injEq]
        constructor
        · exact nofun
        · rintro ⟨rfl, named⟩
          exact absurd unnamed named
      · simp only [if_pos (And.intro unnamed positive), Option.some.injEq, Prod.mk.injEq,
          exists_and_left, exists_eq', and_true]
        constructor
        · rintro rfl
          exact ⟨rfl, unnamed⟩
        · exact And.left

/-- A line that names its transaction names it as the income report does. -/
theorem confirms_iff_named {event : IncomeEvent} {line : AccountEvent} {txHash : String}
    (same : SameMovement event line) (confirmed : Confirmed line)
    (moved : movedIn event = some txHash) : Confirms line txHash ↔ Named line := by
  rw [confirms_iff_of_confirmed same.accountOfLine confirmed, accountKey_eq_some_iff, Named]
  unfold movedIn at moved
  rw [same.tag] at moved
  split at moved
  · next deposit =>
      cases created : line.outpoint with
      | none => simp [deposit]
      | some outpoint =>
          rw [incomeKey_receive (same.outpoint.trans created)] at moved
          cases moved
          simp [deposit]
  · next withdrawal =>
      cases spends : line.txid with
      | none => simp [withdrawal]
      | some txid =>
          rw [incomeKey_send (same.txid.trans spends)] at moved
          cases moved
          simp [withdrawal]
  · cases moved

/-! ### Heights -/

theorem isSome_heightOf_iff {report : AccountReport} {txHash : String} :
    (heightOf report txHash).isSome ↔ ∃ line ∈ report.events, Confirms line txHash := by
  simp only [heightOf, List.lookup_isSome_iff, List.mem_reverse, List.mem_filterMap, beq_iff_eq]
  constructor
  · rintro ⟨⟨key, height⟩, ⟨line, member, reports⟩, rfl⟩
    exact ⟨line, member, height, reports⟩
  · rintro ⟨line, member, height, reports⟩
    exact ⟨(txHash, height), ⟨line, member, reports⟩, rfl⟩

/-- The lines that confirm the transaction of a movement are the line about the movement, if it
names the transaction, and others. -/
theorem isSome_heightOf_iff_named {event : IncomeEvent} {line : AccountEvent} {txHash : String}
    {report : AccountReport} (reported : line ∈ report.events) (same : SameMovement event line)
    (confirmed : Confirmed line) (moved : movedIn event = some txHash) :
    (heightOf report txHash).isSome ↔
      Named line ∨ ∃ other ∈ report.events, other ≠ line ∧ Confirms other txHash := by
  have own := confirms_iff_named same confirmed moved
  rw [isSome_heightOf_iff]
  constructor
  · rintro ⟨other, member, confirms⟩
    by_cases equal : other = line
    · exact .inl (own.mp (equal ▸ confirms))
    · exact .inr ⟨other, member, equal, confirms⟩
  · rintro (named | ⟨other, member, -, confirms⟩)
    · exact ⟨line, reported, own.mpr named⟩
    · exact ⟨other, member, confirms⟩

theorem blockHeight_of_movementOf {event : IncomeEvent} {moved : OnChainTransaction}
    (moves : movementOf event = some moved) : moved.blockHeight = none := by
  unfold movementOf at moves
  split at moves
  · obtain ⟨txHash, -, rfl⟩ := Option.map_eq_some_iff.mp moves
    rfl
  · obtain ⟨txHash, -, rfl⟩ := Option.map_eq_some_iff.mp moves
    rfl
  · cases moves

theorem blockHeight_of_mem_transactions {report : IncomeReport} {transaction : OnChainTransaction}
    (member : transaction ∈ transactions report) : transaction.blockHeight = none := by
  have listed : withoutFees transaction ∈ latest (movements report) :=
    (transactions_perm_latest report).mem_iff.mp (List.mem_map_of_mem member)
  have moved : withoutFees transaction ∈ movements report :=
    (latest_append_superseded_perm _).mem_iff.mp (List.mem_append_left _ listed)
  obtain ⟨event, -, moves⟩ := List.mem_filterMap.mp moved
  have bare : (withoutFees transaction).blockHeight = none := blockHeight_of_movementOf moves
  exact bare

/-- What is listed of a transaction has the height that the report of account events gives. -/
theorem blockHeight_of_mem_enterHeights {income : IncomeReport} {accounts : AccountReport}
    {entered : OnChainTransaction}
    (member : entered ∈ enterHeights accounts (transactions income)) :
    entered.blockHeight = heightOf accounts entered.txHash := by
  obtain ⟨transaction, member, same⟩ := List.mem_map.mp member
  have bare := blockHeight_of_mem_transactions member
  cases height : heightOf accounts transaction.txHash with
  | none =>
      simp only [height] at same
      rw [← same, bare, height]
  | some found =>
      simp only [height] at same
      rw [← same]
      exact height.symm

theorem exists_filter_eq_singleton {transactions : List OnChainTransaction} {txHash : String}
    (distinct : (hashes transactions).Nodup) (member : txHash ∈ hashes transactions) :
    ∃ transaction ∈ transactions, transaction.txHash = txHash ∧
      transactions.filter (fun other => other.txHash = txHash) = [transaction] := by
  induction transactions with
  | nil => cases member
  | cons first rest ih =>
      obtain ⟨fresh, distinct⟩ := List.nodup_cons.mp distinct
      by_cases same : first.txHash = txHash
      · have none_later : rest.filter (fun other => other.txHash = txHash) = [] := by
          refine List.filter_eq_nil_iff.mpr fun other later equal => fresh ?_
          rw [same, ← of_decide_eq_true equal]
          exact List.mem_map_of_mem later
        refine ⟨first, List.mem_cons_self, same, ?_⟩
        rw [List.filter_cons_of_pos (by simpa using same), none_later]
      · have later : txHash ∈ hashes rest := List.mem_of_ne_of_mem (Ne.symm same) member
        obtain ⟨transaction, inside, hash, only⟩ := ih distinct later
        refine ⟨transaction, List.mem_cons_of_mem _ inside, hash, ?_⟩
        rwa [List.filter_cons_of_neg (by simpa using same)]

theorem parseIncome_bind_applyHeights {incomeOutput accountOutput : String}
    {income : IncomeReport} {accounts : AccountReport}
    (readIncome : IncomeReport.codec.decodeText incomeOutput = .ok income)
    (readAccounts : AccountReport.codec.decodeText accountOutput = .ok accounts) :
    (parseIncome incomeOutput).bind (applyHeights accountOutput) =
      .ok (enterHeights accounts (transactions income)) := by
  rw [parseIncome, readIncome]
  change applyHeights accountOutput (transactions income) = _
  rw [applyHeights, readAccounts]

/-- A confirmed movement that both reports contain is listed once, and confirmed in the listing if
its line in the report of account events names its transaction or another line confirms it.
Otherwise it is pending. -/
theorem listed_confirmed_iff_named {incomeOutput accountOutput : String} {income : IncomeReport}
    {accounts : AccountReport}
    (readIncome : IncomeReport.codec.decodeText incomeOutput = .ok income)
    (readAccounts : AccountReport.codec.decodeText accountOutput = .ok accounts)
    {event : IncomeEvent} {line : AccountEvent} (listed : event ∈ income.events)
    (reported : line ∈ accounts.events) (same : SameMovement event line)
    (confirmed : Confirmed line) {txHash : String} (moved : movedIn event = some txHash) :
    ∃ listing transaction,
      (parseIncome incomeOutput).bind (applyHeights accountOutput) = .ok listing ∧
      listing.filter (fun other => other.txHash = txHash) = [transaction] ∧
      (transaction.blockHeight.isSome ↔
        Named line ∨ ∃ other ∈ accounts.events, other ≠ line ∧ Confirms other txHash) ∧
      ((TimelineEntry.ofOnChain transaction).status = .pending ↔
        transaction.blockHeight = none) := by
  have hash : txHash ∈ hashes (enterHeights accounts (transactions income)) := by
    rw [hashes_enterHeights, mem_hashes_transactions]
    exact ⟨event, listed, same.account, moved⟩
  have distinct : (hashes (enterHeights accounts (transactions income))).Nodup := by
    rw [hashes_enterHeights]
    exact nodup_hashes_transactions income
  obtain ⟨transaction, member, rfl, only⟩ := exists_filter_eq_singleton distinct hash
  refine ⟨enterHeights accounts (transactions income), transaction,
    parseIncome_bind_applyHeights readIncome readAccounts, only, ?_, ?_⟩
  · rw [blockHeight_of_mem_enterHeights member]
    exact isSome_heightOf_iff_named reported same confirmed moved
  · cases height : transaction.blockHeight <;> simp [TimelineEntry.ofOnChain, height]

def outputDeposit : IncomeEvent := ⟨"wallet", "deposit", 5000, 0, 20, none, some "d1:0", none⟩

def outputLine : AccountEvent := ⟨"wallet", "chain", "deposit", some "d1:0", none, some 100⟩

theorem outputDeposit_listed_confirmed :
    SameMovement outputDeposit outputLine ∧ Confirmed outputLine ∧
      movedIn outputDeposit = some "d1" ∧
      ∃ listing transaction,
        (parseIncome (IncomeReport.codec.write ⟨[outputDeposit]⟩).compact).bind
          (applyHeights (AccountReport.codec.write ⟨[outputLine]⟩).compact) = .ok listing ∧
        listing.filter (fun other => other.txHash = "d1") = [transaction] ∧
        transaction.blockHeight.isSome := by
  have same : SameMovement outputDeposit outputLine := ⟨rfl, rfl, rfl, rfl, rfl⟩
  have confirmed : Confirmed outputLine := ⟨rfl, 100, rfl, by decide⟩
  have moved : movedIn outputDeposit = some "d1" := by decide +kernel
  have named : Named outputLine := .inl ⟨rfl, "d1:0", rfl, by decide +kernel⟩
  obtain ⟨listing, transaction, read, only, height, -⟩ :=
    listed_confirmed_iff_named (IncomeReport.decodeText_compact ⟨[outputDeposit]⟩)
      (AccountReport.decodeText_compact ⟨[outputLine]⟩) (List.mem_singleton_self outputDeposit)
      (List.mem_singleton_self outputLine) same confirmed moved
  exact ⟨same, confirmed, moved, listing, transaction, read, only, height.mpr (.inl named)⟩

/-- A deposit that is named by its transaction only. -/
def bareDeposit : IncomeEvent := ⟨"wallet", "deposit", 5000, 0, 20, none, none, some "d1"⟩

def bareLine : AccountEvent := ⟨"wallet", "chain", "deposit", none, some "d1", some 100⟩

/-- The income report names the transaction, the report of account events does not. -/
theorem bareDeposit_listed_pending :
    SameMovement bareDeposit bareLine ∧ Confirmed bareLine ∧ movedIn bareDeposit = some "d1" ∧
      ∃ transaction,
        (parseIncome (IncomeReport.codec.write ⟨[bareDeposit]⟩).compact).bind
          (applyHeights (AccountReport.codec.write ⟨[bareLine]⟩).compact) = .ok [transaction] ∧
        transaction.txHash = "d1" ∧ transaction.blockHeight = none ∧
        (TimelineEntry.ofOnChain transaction).status = .pending := by
  have unnamed : enterHeights ⟨[bareLine]⟩ (transactions ⟨[bareDeposit]⟩) =
      [⟨"d1", .receive, 5000, 0, none, 0, 20, ""⟩] := by decide +kernel
  have read := parseIncome_bind_applyHeights (IncomeReport.decodeText_compact ⟨[bareDeposit]⟩)
    (AccountReport.decodeText_compact ⟨[bareLine]⟩)
  rw [unnamed] at read
  exact ⟨⟨rfl, rfl, rfl, rfl, rfl⟩, ⟨rfl, 100, rfl, by decide⟩, by decide +kernel, _, read, rfl,
    rfl, rfl⟩

end LightningGateway.Daemon.Bookkeeping
