import LightningGateway.Proofs.Bookkeeping
import LightningGateway.Proofs.Listings

/-!
# The records behind the timeline

The timeline is made of what five replies of the daemon and the answers of its command line
client say. Either all of them can be read, and then each listing shows its share of these
records and the timeline shows them all, or the timeline fails.
-/

namespace LightningGateway

/-! ### Decoded payment requests -/

namespace Daemon.DecodedRequest

theorem decodeText_compact (request : DecodedRequest) :
    codec.decodeText (codec.write request).compact = .ok request := by
  refine Codec.decodeText_compact_record ?_ ?_ (fun _ => rfl) request
  · have text := Codec.faithful_text.optional fun _ => nofun
    simp [layout, Layout.Faithful, Layout.required, Layout.defaulted, Layout.names, text,
      Codec.faithful_text, Codec.faithful_word64, Amount.faithful_anyCodec]
  · simp [layout, Layout.Plain, Layout.required, Layout.defaulted, Codec.plain_text,
      Codec.plain_word64, Amount.plain_anyCodec, (Codec.plain_text _).optional]

/-- A text that reads as a decoded request is accepted unless it holds the refusal. -/
theorem parse_of_decodeText {output : String} {decoded : DecodedRequest}
    (understood : codec.decodeText output = .ok decoded) :
    parse output =
      if Text.contains output refusal then .error (.rpc none refusal)
      else .ok decoded.toPaymentRequest := by
  rw [parse, understood]

end Daemon.DecodedRequest

namespace Gateway

/-! ### Records -/

/-- What is said about invoices, wallet transactions and payments. -/
structure Records where
  invoices : List Daemon.ReportedInvoice
  income : Daemon.IncomeReport
  heights : Daemon.AccountReport
  pays : List Daemon.ReportedPayment
  /-- What the node says about itself. The height of its chain is the tip. -/
  information : Daemon.Information

/-- The wallet transactions of the bookkeeper, with heights and with confirmations at the tip. -/
def Records.transactions (records : Records) : List OnChainTransaction :=
  (Daemon.Bookkeeping.enterHeights records.heights
      (Daemon.Bookkeeping.transactions records.income)).map
    (OnChainTransaction.updateConfirmations records.information.blockHeight)

/-- The replies can all be read, and say what is on record. A payment request has to be decoded
if it is not remembered when its turn comes. -/
structure Reports (replies : Replies) (handle : Handle) (requests : Cache String PaymentRequest)
    (records : Records) : Prop where
  invoices :
    reading Daemon.InvoiceListing.codec (replies (.call handle "listinvoices" (.object []))) =
      .ok ⟨records.invoices⟩
  income : ∃ output, replies (.command ["bkpr-listincome"]) = .ok output ∧
    Daemon.IncomeReport.codec.decodeText output = .ok records.income
  heights : ∃ output, replies (.command ["bkpr-listaccountevents"]) = .ok output ∧
    Daemon.AccountReport.codec.decodeText output = .ok records.heights
  pays :
    reading Daemon.PaymentListing.codec (replies (.call handle "listpays" (.object []))) =
      .ok ⟨records.pays⟩
  decoded : ∀ request ∈ Cache.missed requests.capacity requests.keys
      (records.pays.filterMap Daemon.ReportedPayment.request?),
    ∃ decoded, requestFrom replies request = .ok decoded
  information :
    reading Daemon.Information.codec (replies (.call handle "getinfo" (.object []))) =
      .ok records.information

/-- Everything that the timeline is made of. -/
def gather : Gateway (List TimelineEntry) := do
  let invoices ← fetchInvoices .listAll
  let transactions ← fetchOnChain .listAll
  let payments ← fetchPayments .listAll
  let info ← fetchInfo .listAll
  return timelineEntries invoices
    (transactions.map (OnChainTransaction.updateConfirmations info.blockHeight)) payments

/-- The timeline gathers its entries first, whatever is to be listed of them. -/
theorem listAll_eq_map_gather (successfulOnly : Bool) (page : Page) :
    listAll successfulOnly page =
      (fun entries => Timeline.build page (listedEntries successfulOnly entries)) <$>
        gather := by
  simp only [listAll_eq, gather, map_eq_pure_bind, bind_assoc, pure_bind]

variable {replies : Replies} {settings : Settings} {session : Session} {handle : Handle}

theorem result_listAll (successfulOnly : Bool) (page : Page) :
    result replies settings session (listAll successfulOnly page) =
      (result replies settings session gather).map fun entries =>
        Timeline.build page (listedEntries successfulOnly entries) := by
  rw [listAll_eq_map_gather]
  exact fst_outcome_map _ _ _ _ _ _

/-! ### From the replies to the records -/

theorem Reports.bookkeepingFrom_eq {requests : Cache String PaymentRequest}
    {records : Records} (reports : Reports replies handle requests records) :
    bookkeepingFrom replies =
      .ok (Daemon.Bookkeeping.enterHeights records.heights
        (Daemon.Bookkeeping.transactions records.income)) := by
  obtain ⟨incomeOutput, incomeReply, income⟩ := reports.income
  obtain ⟨heightsOutput, heightsReply, heights⟩ := reports.heights
  simp only [bookkeepingFrom, incomeReply, heightsReply, Except.bind,
    Daemon.Bookkeeping.parseIncome, Daemon.Bookkeeping.applyHeights, income, heights]

theorem result_gather (connected : session.link.transport = .ok handle)
    {wallet : Except TransportError (List OnChainTransaction)}
    {blocks : Cache UInt32 BlockTime} {payments : Except TransportError (List Payment)}
    {requests : Cache String PaymentRequest}
    (walletFetch : WalletFetch replies settings session wallet blocks)
    (paymentFetch : PaymentFetch replies settings session handle payments requests) :
    result replies settings session gather =
      (classified .listAll (invoicesFrom replies handle)).bind fun invoices =>
        (classified .listAll wallet).bind fun transactions =>
          (classified .listAll payments).bind fun payments =>
            (classified .listAll (infoFrom replies settings handle)).map fun info =>
              timelineEntries invoices
                (transactions.map
                  (OnChainTransaction.updateConfirmations info.blockHeight)) payments := by
  -- Each fetch leaves a session behind in which the next one is made.
  rw [gather, result_bind_fetch (fetches_invoices connected)]
  refine congrArg _ (funext fun invoices => ?_)
  rw [result_bind_fetch walletFetch.fetches]
  refine congrArg _ (funext fun transactions => ?_)
  rw [result_bind_fetch (paymentFetch.fetches blocks)]
  refine congrArg _ (funext fun payments => ?_)
  rw [result_bind_fetch (fetches_info (by exact connected))]
  cases infoFrom replies settings handle <;> rfl

theorem gather_succeeds_iff (connected : session.link.transport = .ok handle)
    {wallet : Except TransportError (List OnChainTransaction)}
    {blocks : Cache UInt32 BlockTime} {payments : Except TransportError (List Payment)}
    {requests : Cache String PaymentRequest}
    (walletFetch : WalletFetch replies settings session wallet blocks)
    (paymentFetch : PaymentFetch replies settings session handle payments requests) :
    (∃ entries, result replies settings session gather = .ok entries) ↔
      (∃ invoices, invoicesFrom replies handle = .ok invoices) ∧
        (∃ transactions, wallet = .ok transactions) ∧
        (∃ completed, payments = .ok completed) ∧
        ∃ info, infoFrom replies settings handle = .ok info := by
  rw [result_gather connected walletFetch paymentFetch]
  cases invoicesFrom replies handle <;> cases wallet <;> cases payments <;>
    cases infoFrom replies settings handle <;> simp [Except.bind, Except.map]

namespace Reports

variable {requests : Cache String PaymentRequest} {records : Records}

theorem wallet (reports : Reports replies handle requests records)
    {found : Except TransportError (List OnChainTransaction)} {blocks : Cache UInt32 BlockTime}
    (walletFetch : WalletFetch replies settings session found blocks) :
    ∃ listed, found = .ok listed ∧
      List.Forall₂ SameButTime
        (Daemon.Bookkeeping.enterHeights records.heights
          (Daemon.Bookkeeping.transactions records.income)) listed ∧
      (settings.hasChainServer = false →
        listed = Daemon.Bookkeeping.enterHeights records.heights
          (Daemon.Bookkeeping.transactions records.income)) := by
  have reported := walletFetch.reported
  rwa [reports.bookkeepingFrom_eq] at reported

theorem payments (reports : Reports replies handle session.requests records)
    {found : Except TransportError (List Payment)}
    (paymentFetch : PaymentFetch replies settings session handle found requests) :
    ∃ listed, found = .ok listed ∧
      List.Forall₂ (Completes replies session.requests) records.pays listed := by
  have reported := paymentFetch.reported
  rw [reports.pays] at reported
  obtain ⟨listed, rfl⟩ := reported.succeeds_iff.mpr reports.decoded
  exact ⟨listed, rfl, reported.completes listed rfl⟩

end Reports

theorem SameButTime.updateConfirmations {reported listed : OnChainTransaction} (tip : UInt32)
    (same : SameButTime reported listed) :
    SameButTime (reported.updateConfirmations tip) (listed.updateConfirmations tip) := by
  unfold SameButTime at same ⊢
  rw [← same]
  rfl

/-- Lists that show what is on record, and nothing else: each invoice, each transaction in
which the bookkeeper reports that coins of the wallet moved, and each payment once. -/
structure Lists (replies : Replies) (settings : Settings) (session : Session)
    (records : Records) (invoices : List Invoice) (transactions : List OnChainTransaction)
    (payments : List Payment) : Prop where
  everyInvoice : invoices = records.invoices.map Daemon.ReportedInvoice.toInvoice
  everyTransaction : List.Forall₂ SameButTime records.transactions transactions
  reportedTimes : settings.hasChainServer = false → transactions = records.transactions
  distinct : (Daemon.Bookkeeping.hashes transactions).Nodup
  moved : ∀ txHash, txHash ∈ Daemon.Bookkeeping.hashes transactions ↔
    ∃ event ∈ records.income.events, event.account = Daemon.Bookkeeping.walletAccount ∧
      Daemon.Bookkeeping.movedIn event = some txHash
  everyPayment : List.Forall₂ (Completes replies session.requests) records.pays payments

/-- A daemon and a command line client that write down what is on record, and the same about
every payment request. -/
def Records.written (records : Records) (request : Daemon.DecodedRequest) : Replies :=
  .answering (.ok 0)
    (fun method =>
      match method with
      | "listinvoices" => .ok (Daemon.InvoiceListing.codec.write ⟨records.invoices⟩)
      | "listpays" => .ok (Daemon.PaymentListing.codec.write ⟨records.pays⟩)
      | _ => .ok (Daemon.Information.codec.write records.information))
    fun arguments =>
      match arguments with
      | ["bkpr-listincome"] => .ok (Daemon.IncomeReport.codec.write records.income).compact
      | ["bkpr-listaccountevents"] =>
          .ok (Daemon.AccountReport.codec.write records.heights).compact
      | _ => .ok (Daemon.DecodedRequest.codec.write request).compact

/-- An invoice, a deposit and a payment. -/
def Records.oneOfEach : Records where
  invoices :=
    [⟨"i1", some "lnbc1", "h1", some 1000, some 1000, .paid, "coffee", 60, some 1, some 1,
      some 30⟩]
  income := ⟨[⟨"wallet", "deposit", 5000, 0, 20, none, some "d1:0", none⟩]⟩
  heights := ⟨[⟨"wallet", "chain", "deposit", some "d1:0", none, some 100⟩]⟩
  pays := [⟨"p1", .complete, none, 10, some "lnbc2", none, none, some 510⟩]
  information :=
    ⟨"02ab", "alice", "ff9900", 1, 0, 1, 0, "v24.08", 110, "regtest", [], none, none⟩

/-- What the payment was made for. -/
def teaRequest : Daemon.DecodedRequest :=
  ⟨"bcrt", 10, 60, "02dd", some 500, "p1", "tea", none, 18, none⟩

/-- A session with a connection, in which nothing is remembered. -/
def connectedSession : Session := { Session.fresh 10 10 with link := .establish 0 }

end Gateway

end LightningGateway
