import LightningGateway.Daemon.Bookkeeping
import LightningGateway.Proofs.Texts

/-!
# The transactions of the bookkeeper

Lines of the income report about the same transaction share one entry: each transaction that
the wallet receives from or sends to is listed once, and no other is. Heights that are entered
later change none of that.
-/

namespace LightningGateway.Daemon

/-! ### Reports -/

theorem IncomeEvent.faithful_codec : IncomeEvent.codec.Faithful := by
  have text := Codec.faithful_text.optional fun _ => nofun
  refine Codec.faithful_record ?_ fun _ => rfl
  simp [IncomeEvent.layout, Layout.Faithful, Layout.required, Layout.names, text,
    Codec.faithful_text, Codec.faithful_word64, Amount.faithful_codec]

theorem IncomeEvent.plain_codec (depth : Nat) : IncomeEvent.codec.Plain (depth + 1) := by
  refine Codec.plain_record ?_
  simp [IncomeEvent.layout, Layout.Plain, Layout.required, Codec.plain_text, Codec.plain_word64,
    Amount.plain_codec, (Codec.plain_text depth).optional]

theorem IncomeReport.decodeText_compact (report : IncomeReport) :
    codec.decodeText (codec.write report).compact = .ok report := by
  refine Codec.decodeText_compact_record ?_ ?_ (fun _ => rfl) report
  · exact ⟨IncomeEvent.faithful_codec.list, by simp [Layout.names], trivial⟩
  · exact ⟨(IncomeEvent.plain_codec _).list, trivial⟩

theorem AccountEvent.faithful_codec : AccountEvent.codec.Faithful := by
  have text := Codec.faithful_text.optional fun _ => nofun
  have word := Codec.faithful_word32.optional fun _ => nofun
  refine Codec.faithful_record ?_ fun _ => rfl
  simp [AccountEvent.layout, Layout.Faithful, Layout.required, Layout.names, text, word,
    Codec.faithful_text]

theorem AccountEvent.plain_codec (depth : Nat) : AccountEvent.codec.Plain (depth + 1) := by
  refine Codec.plain_record ?_
  simp [AccountEvent.layout, Layout.Plain, Layout.required, Codec.plain_text,
    (Codec.plain_text depth).optional, (Codec.plain_word32 depth).optional]

theorem AccountReport.decodeText_compact (report : AccountReport) :
    codec.decodeText (codec.write report).compact = .ok report := by
  refine Codec.decodeText_compact_record ?_ ?_ (fun _ => rfl) report
  · exact ⟨AccountEvent.faithful_codec.list, by simp [Layout.names], trivial⟩
  · exact ⟨(AccountEvent.plain_codec _).list, trivial⟩

namespace Bookkeeping

/-! ### The lines of a report -/

/-- The transaction in which a line of the income report moves coins, if it does. -/
def movedIn (event : IncomeEvent) : Option String :=
  match event.tag with
  | "deposit" => incomeKey .receive event
  | "withdrawal" => incomeKey .send event
  | _ => none

/-- The hashes of transactions. -/
def hashes (transactions : List OnChainTransaction) : List String :=
  transactions.map OnChainTransaction.txHash

theorem hashes_record (transaction : OnChainTransaction)
    (transactions : List OnChainTransaction) :
    hashes (record transaction transactions) =
      if transaction.txHash ∈ hashes transactions then hashes transactions
      else hashes transactions ++ [transaction.txHash] := by
  induction transactions with
  | nil => simp [record, hashes]
  | cons other rest ih =>
      unfold hashes at ih ⊢
      unfold record
      by_cases same : other.txHash = transaction.txHash
      · simp [same]
      · have different : transaction.txHash ≠ other.txHash := Ne.symm same
        rw [if_neg same, List.map_cons, ih]
        by_cases listed : transaction.txHash ∈ rest.map OnChainTransaction.txHash
        · rw [if_pos listed, List.map_cons, if_pos (List.mem_cons_of_mem _ listed)]
        · rw [if_neg listed, List.map_cons,
            if_neg fun member => listed (List.mem_of_ne_of_mem different member)]
          rfl

theorem hashes_setFees (txHash : String) (fees : Msat)
    (transactions : List OnChainTransaction) :
    hashes (setFees txHash fees transactions) = hashes transactions := by
  have kept : ∀ transaction : OnChainTransaction,
      (if transaction.txHash = txHash then { transaction with totalFees := fees }
        else transaction).txHash = transaction.txHash := by
    intro transaction
    split <;> rfl
  simp only [hashes, setFees, List.map_map, Function.comp_def, kept]

theorem hashes_enter (transactions : List OnChainTransaction) (event : IncomeEvent) :
    hashes (enter transactions event) =
      match movedIn event with
      | none => hashes transactions
      | some txHash =>
          if txHash ∈ hashes transactions then hashes transactions
          else hashes transactions ++ [txHash] := by
  unfold enter movedIn
  split
  · next deposit =>
      rw [deposit]
      cases key : incomeKey .receive event with
      | none => simp [movement, key]
      | some txHash => simp [movement, key, hashes_record]
  · next withdrawal =>
      rw [withdrawal]
      cases key : incomeKey .send event with
      | none => simp [movement, key]
      | some txHash => simp [movement, key, hashes_record]
  · next fee =>
      rw [fee]
      cases event.txid with
      | none => rfl
      | some txid => exact hashes_setFees txid event.debit transactions
  · simp

/-! ### The whole report -/

theorem mem_hashes_enter (transactions : List OnChainTransaction) (event : IncomeEvent)
    (txHash : String) :
    txHash ∈ hashes (enter transactions event) ↔
      txHash ∈ hashes transactions ∨ movedIn event = some txHash := by
  rw [hashes_enter]
  cases movedIn event with
  | none => simp
  | some moved =>
      by_cases listed : moved ∈ hashes transactions
      · simp only [if_pos listed, Option.some.injEq]
        exact ⟨Or.inl, fun either => either.elim id fun same => same ▸ listed⟩
      · simp [if_neg listed, eq_comm]

theorem nodup_hashes_enter (transactions : List OnChainTransaction) (event : IncomeEvent)
    (distinct : (hashes transactions).Nodup) :
    (hashes (enter transactions event)).Nodup := by
  rw [hashes_enter]
  cases movedIn event with
  | none => exact distinct
  | some moved =>
      by_cases listed : moved ∈ hashes transactions
      · simpa only [if_pos listed] using distinct
      · simp only [if_neg listed]
        refine List.nodup_append.mpr ⟨distinct, by simp, ?_⟩
        rintro txHash member other single rfl
        exact listed (List.mem_singleton.mp single ▸ member)

/-- The transactions of the report are those in which it moves coins of the wallet. -/
theorem mem_hashes_transactions (report : IncomeReport) (txHash : String) :
    txHash ∈ hashes (transactions report) ↔
      ∃ event ∈ report.events, event.account = walletAccount ∧ movedIn event = some txHash := by
  have folded : ∀ (events : List IncomeEvent) (listed : List OnChainTransaction),
      txHash ∈ hashes (events.foldl enter listed) ↔
        txHash ∈ hashes listed ∨ ∃ event ∈ events, movedIn event = some txHash := by
    intro events
    induction events with
    | nil => simp
    | cons event rest ih =>
        intro listed
        rw [List.foldl_cons, ih, mem_hashes_enter]
        simp [or_assoc]
  unfold transactions
  rw [folded]
  simp [hashes, and_assoc]

/-- No transaction is listed twice. -/
theorem nodup_hashes_transactions (report : IncomeReport) :
    (hashes (transactions report)).Nodup := by
  have folded : ∀ (events : List IncomeEvent) (listed : List OnChainTransaction),
      (hashes listed).Nodup → (hashes (events.foldl enter listed)).Nodup := by
    intro events
    induction events with
    | nil => exact fun _ distinct => distinct
    | cons event rest ih =>
        exact fun listed distinct => ih _ (nodup_hashes_enter listed event distinct)
  exact folded _ [] List.nodup_nil

theorem hashes_enterHeights (report : AccountReport)
    (transactions : List OnChainTransaction) :
    hashes (enterHeights report transactions) = hashes transactions := by
  unfold hashes enterHeights
  rw [List.map_map]
  refine List.map_congr_left fun transaction _ => ?_
  simp only [Function.comp_apply]
  split <;> rfl

end Bookkeeping

end LightningGateway.Daemon
