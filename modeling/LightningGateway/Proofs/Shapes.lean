import LightningGateway.Daemon.Bookkeeping
import LightningGateway.Daemon.Forwards
import LightningGateway.Daemon.Funds
import LightningGateway.Daemon.Invoices
import LightningGateway.Proofs.Rewriting

/-!
# Where the daemon reports amounts

The shapes of the replies with amounts, and of the outputs of the command line client. Each of
them is read in the same way however its amounts are spelled.
-/

namespace LightningGateway.Daemon

/-! ### Funds -/

def Output.shape : Shape := Output.layout.shape [("amount_msat", .amount)]

theorem Output.indifferent_codec : Output.codec.Indifferent Output.shape :=
  Codec.indifferent_record (by simp [Output.layout])

def FundedChannel.shape : Shape :=
  FundedChannel.layout.shape [("our_amount_msat", .amount), ("amount_msat", .amount)]

theorem FundedChannel.indifferent_codec : FundedChannel.codec.Indifferent FundedChannel.shape :=
  Codec.indifferent_record (by simp [FundedChannel.layout])

def Funds.shape : Shape :=
  Funds.layout.shape [("outputs", .list Output.shape), ("channels", .list FundedChannel.shape)]

theorem Funds.indifferent_codec : Funds.codec.Indifferent Funds.shape :=
  Codec.indifferent_record
    (by simp [Funds.layout, Output.indifferent_codec.list, FundedChannel.indifferent_codec.list])

/-! ### Invoices -/

def ReportedInvoice.shape : Shape :=
  ReportedInvoice.layout.shape [("amount_msat", .amount), ("amount_received_msat", .amount)]

theorem ReportedInvoice.indifferent_codec :
    ReportedInvoice.codec.Indifferent ReportedInvoice.shape :=
  Codec.indifferent_record (by simp [ReportedInvoice.layout])

def InvoiceListing.shape : Shape :=
  InvoiceListing.layout.shape [("invoices", .list ReportedInvoice.shape)]

theorem InvoiceListing.indifferent_codec : InvoiceListing.codec.Indifferent InvoiceListing.shape :=
  Codec.indifferent_record (by simp [InvoiceListing.layout, ReportedInvoice.indifferent_codec.list])

/-! ### Payments -/

def ReportedPayment.shape : Shape :=
  ReportedPayment.layout.shape [("amount_msat", .amount), ("amount_sent_msat", .amount)]

theorem ReportedPayment.indifferent_codec :
    ReportedPayment.codec.Indifferent ReportedPayment.shape :=
  Codec.indifferent_record (by simp [ReportedPayment.layout])

def PaymentListing.shape : Shape :=
  PaymentListing.layout.shape [("pays", .list ReportedPayment.shape)]

theorem PaymentListing.indifferent_codec : PaymentListing.codec.Indifferent PaymentListing.shape :=
  Codec.indifferent_record (by simp [PaymentListing.layout, ReportedPayment.indifferent_codec.list])

def SentPayment.shape : Shape :=
  SentPayment.layout.shape [("amount_msat", .amount), ("amount_sent_msat", .amount)]

theorem SentPayment.indifferent_codec : SentPayment.codec.Indifferent SentPayment.shape :=
  Codec.indifferent_record (by simp [SentPayment.layout])

def DecodedRequest.shape : Shape := DecodedRequest.layout.shape [("amount_msat", .amount)]

theorem DecodedRequest.indifferent_codec : DecodedRequest.codec.Indifferent DecodedRequest.shape :=
  Codec.indifferent_record (by simp [DecodedRequest.layout])

theorem DecodedRequest.parse_of_rewritten {first second : String}
    (rewritten : Document.Rewritten shape first.toList second.toList) :
    parse first = parse second := by
  rw [parse, parse, contains_refusal_eq rewritten, indifferent_codec.decodeText_eq rewritten]

/-! ### Forwards -/

def Forward.shape : Shape :=
  Forward.layout.shape [("in_msat", .amount), ("out_msat", .amount), ("fee_msat", .amount)]

theorem Forward.indifferent_codec : Forward.codec.Indifferent Forward.shape :=
  Codec.indifferent_record (by simp [Forward.layout])

def ForwardListing.shape : Shape :=
  ForwardListing.layout.shape [("forwards", .list Forward.shape)]

theorem ForwardListing.indifferent_codec : ForwardListing.codec.Indifferent ForwardListing.shape :=
  Codec.indifferent_record (by simp [ForwardListing.layout, Forward.indifferent_codec.list])

/-! ### Income -/

def IncomeEvent.shape : Shape :=
  IncomeEvent.layout.shape [("credit_msat", .amount), ("debit_msat", .amount)]

theorem IncomeEvent.indifferent_codec : IncomeEvent.codec.Indifferent IncomeEvent.shape :=
  Codec.indifferent_record (by simp [IncomeEvent.layout])

def IncomeReport.shape : Shape :=
  IncomeReport.layout.shape [("income_events", .list IncomeEvent.shape)]

theorem IncomeReport.indifferent_codec : IncomeReport.codec.Indifferent IncomeReport.shape :=
  Codec.indifferent_record (by simp [IncomeReport.layout, IncomeEvent.indifferent_codec.list])

theorem Bookkeeping.parseIncome_of_rewritten {first second : String}
    (rewritten : Document.Rewritten IncomeReport.shape first.toList second.toList) :
    parseIncome first = parseIncome second := by
  rw [parseIncome, parseIncome, IncomeReport.indifferent_codec.decodeText_eq rewritten]

end LightningGateway.Daemon
