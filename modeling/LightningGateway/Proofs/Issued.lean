import LightningGateway.Gateway.Payments
import LightningGateway.Label
import LightningGateway.Proofs.Courses
import LightningGateway.Proofs.Objects
import LightningGateway.Proofs.Plans
import LightningGateway.Proofs.Spellings

/-!
# Invoices issued and listed

A new invoice is made up of what was asked for and what the daemon has answered. Later the same
invoice is made up of what the daemon lists. Both agree, except that the listing takes an invoice
for one of a keysend by its label, and no invoice that was asked for has such a label.
-/

namespace LightningGateway

open Daemon (CreatedInvoice ReportedInvoice InvoiceListing)

/-- No label of a new invoice is one of a keysend. -/
theorem Label.beginsWith_keysendLabel (identifier : Nat) :
    Text.beginsWith (Label.text identifier) ReportedInvoice.keysendLabel = false := by
  rw [Text.beginsWith, Label.text, String.toList_append]
  rfl

namespace Codec

variable {α : Type}

/-- Each item of an array that was read is one of the values. -/
theorem exists_read_of_mem {codec : Codec α} {origin : Origin} {items : List Json}
    {values : List α} (read : readAll codec origin (Document.ofItems items) = .ok values)
    {item : Json} (member : item ∈ items) :
    ∃ value ∈ values, codec.read origin (.ofJson item) = .ok value := by
  induction items generalizing values with
  | nil => cases member
  | cons first rest ih =>
      rw [Document.ofItems, readAll] at read
      cases here : codec.read origin (.ofJson first) with
      | error error =>
          rw [here] at read
          cases read
      | ok value =>
          rw [here] at read
          cases others : readAll codec origin (Document.ofItems rest) with
          | error error =>
              rw [others] at read
              cases read
          | ok later =>
              rw [others] at read
              cases read
              rcases List.mem_cons.mp member with rfl | member
              · exact ⟨value, List.mem_cons_self, here⟩
              · obtain ⟨found, among, read⟩ := ih others member
                exact ⟨found, List.mem_cons_of_mem value among, read⟩

end Codec

namespace Daemon

/-- An entry of a listing states the amount that an invoice asks for. None stands for zero. -/
def StatesAmount (fields : List (String × Json)) (value : Msat) : Prop :=
  if value = 0 then
    fields.lookup "amount_msat" = none ∨ fields.lookup "amount_msat" = some .null ∨
      fields.lookup "amount_msat" = some (.string "any")
  else
    fields.lookup "amount_msat" = some (.ofWord value) ∨
      ∃ text, fields.lookup "amount_msat" = some (.string text) ∧ Amount.Spelling value text

/-- An entry of a listing states the position of an invoice, if the daemon counts. -/
def StatesIndex (fields : List (String × Json)) : Option UInt64 → Prop
  | some index => fields.lookup "created_index" = some (.ofWord index)
  | none => fields.lookup "created_index" = none ∨ fields.lookup "created_index" = some .null

/-- An entry of a listing states of an unpaid invoice what the daemon was given and has answered
when it created the invoice. -/
structure Restates (fields : List (String × Json)) (created : CreatedInvoice)
    (label memo : String) (value : Msat) : Prop where
  label : fields.lookup "label" = some (.string label)
  description : fields.lookup "description" = some (.string memo)
  amount : StatesAmount fields value
  status : fields.lookup "status" = some (.string "unpaid")
  bolt11 : fields.lookup "bolt11" = some (.string created.bolt11)
  paymentHash : fields.lookup "payment_hash" = some (.string created.paymentHash)
  expiresAt : fields.lookup "expires_at" = some (.ofWord created.expiresAt)
  createdIndex : StatesIndex fields created.createdIndex

variable {created : CreatedInvoice} {reported : ReportedInvoice} {fields : List (String × Json)}
  {label memo : String} {value : Msat}

theorem amount_of_states {amount : Option Msat} (states : StatesAmount fields value)
    (read : match fields.lookup "amount_msat" with
      | some content => Amount.anyCodec.read .value (.ofJson content) = .ok amount
      | none => (some none <|> Amount.anyCodec.absent) = some amount) :
    amount = if 0 < value then some value else none := by
  unfold StatesAmount at states
  by_cases zero : value = 0
  · rw [if_pos zero] at states
    subst zero
    rw [if_neg (UInt64.lt_irrefl 0)]
    rcases states with absent | null | any
    · rw [absent] at read
      cases read
      rfl
    · rw [null] at read
      cases read
      rfl
    · rw [any] at read
      cases read
      rfl
  · rw [if_neg zero] at states
    rw [if_pos (UInt64.pos_iff_ne_zero.mpr zero)]
    rcases states with number | ⟨text, written, spelling⟩
    · rw [number] at read
      have same := Amount.faithful_anyCodec .value (some value)
      exact Except.ok.inj (read.symm.trans same)
    · rw [written] at read
      change Amount.anyCodec.read .value (.string text) = _ at read
      rw [Amount.anyCodec_read_string .value (Amount.ne_any_of_spelling spelling),
        Amount.read_of_spelling spelling] at read
      exact (Except.ok.inj read).symm

theorem index_of_states {given index : Option UInt64} (states : StatesIndex fields given)
    (read : match fields.lookup "created_index" with
      | some content =>
          (Codec.optional Codec.word64).read .value (.ofJson content) = .ok index
      | none => (none <|> (Codec.optional Codec.word64).absent) = some index) :
    index = given := by
  cases given with
  | some given =>
      rw [show fields.lookup "created_index" = some (.ofWord given) from states] at read
      have same := (Codec.faithful_word64.optional fun _ => nofun) .value (some given)
      exact Except.ok.inj (read.symm.trans same)
  | none =>
      rcases states with absent | null
      · rw [absent] at read
        cases read
        rfl
      · rw [null] at read
        cases read
        rfl

/-- What is listed is what was returned before, except for the mark of a keysend. -/
theorem toInvoice_of_restates (restates : Restates fields created label memo value)
    (read : ReportedInvoice.codec.decode (.object fields) = .ok reported)
    (plain : Text.beginsWith label ReportedInvoice.keysendLabel = false) (isKeysend : Bool) :
    reported.toInvoice =
      { created.toInvoice label memo value isKeysend with
        isKeysend := false
        amountPaid := reported.amountReceived.getD 0 } := by
  have different : ReportedInvoice.layout.Distinct := by decide
  obtain ⟨⟨_, bolt11, _, amount, received, _, _, expiresAt, createdIndex, payIndex, paidAt, ⟨⟩⟩,
    holds, rfl⟩ := Codec.exists_holds_of_decode different read
  obtain ⟨named, requested, hashed, asked, -, unpaid, described, expires, indexed, -⟩ := holds
  rw [restates.label] at named
  rw [restates.bolt11] at requested
  rw [restates.paymentHash] at hashed
  rw [restates.status] at unpaid
  rw [restates.description] at described
  rw [restates.expiresAt] at expires
  cases named
  cases requested
  cases hashed
  cases unpaid
  cases described
  obtain rfl : amount = _ := amount_of_states restates.amount asked
  obtain rfl : createdIndex = _ := index_of_states restates.createdIndex indexed
  obtain rfl : created.expiresAt = expiresAt :=
    Except.ok.inj ((Codec.faithful_word64 .value created.expiresAt).symm.trans expires)
  simp only [ReportedInvoice.toInvoice, plain]
  rfl

/-- The invoices of a listing that are asked for, as callers see them. -/
def InvoiceListing.shown (listing : InvoiceListing) (pendingOnly : Bool) : List Invoice :=
  let invoices := listing.invoices.map ReportedInvoice.toInvoice
  if pendingOnly then invoices.filter fun invoice => invoice.state == .unpaid else invoices

theorem InvoiceListing.mem_shown_of_unpaid {listing : InvoiceListing}
    (member : reported ∈ listing.invoices) (unpaid : reported.toInvoice.state = .unpaid)
    (pendingOnly : Bool) : reported.toInvoice ∈ listing.shown pendingOnly := by
  have among := List.mem_map_of_mem (f := ReportedInvoice.toInvoice) member
  cases pendingOnly with
  | false => exact among
  | true => exact List.mem_filter.mpr ⟨among, by rw [unpaid]; rfl⟩

/-- Each entry of a listing is one of the invoices listed. -/
theorem InvoiceListing.exists_of_mem {document item : Json} {items : List Json}
    {listing : InvoiceListing} (read : InvoiceListing.codec.decode document = .ok listing)
    (holds : document.field? "invoices" = some (.array items)) (member : item ∈ items) :
    ∃ reported ∈ listing.invoices, ReportedInvoice.codec.decode item = .ok reported := by
  cases document with
  | object entries =>
      have different : InvoiceListing.layout.Distinct := by decide
      obtain ⟨⟨invoices, ⟨⟩⟩, ⟨here, -⟩, rfl⟩ := Codec.exists_holds_of_decode different read
      rw [show entries.lookup "invoices" = some (.array items) from holds] at here
      simp only [Codec.list, Document.ofJson] at here
      cases values : Codec.readAll ReportedInvoice.codec .value (Document.ofItems items) with
      | error error =>
          rw [values] at here
          cases here
      | ok values' =>
          rw [values] at here
          cases here
          exact Codec.exists_read_of_mem values member
  | _ => cases holds

end Daemon

namespace Gateway

variable {settings : Settings} {handle : Handle} {answer document : Json}
  {created : CreatedInvoice} {listing : InvoiceListing} {label memo : String} {value : Msat}
  {expiry : UInt64} {isKeysend pendingOnly : Bool} {page : Page}

/-- What the daemon is given to create an invoice. -/
def invoiceParameters (value : Msat) (memo : String) (expiry : UInt64) (label : String) : Json :=
  .object [("amount_msat", invoiceAmount value), ("label", .string label),
    ("description", .string memo), ("expiry", .ofWord expiry)]

theorem reading_ok {α : Type} {codec : Codec α} {document : Json} {value : α}
    (decoded : codec.decode document = .ok value) : reading codec (.ok document) = .ok value := by
  change (codec.decode document).mapError TransportError.ofDecodeError = _
  rw [decoded]
  rfl

theorem goes_addInvoice {result : Except Failure Invoice}
    (answered : CreatedInvoice.codec.decode answer = .ok created) :
    Goes settings (addInvoice value memo expiry isKeysend)
        [⟨.label, label⟩,
          ⟨.call handle "invoice" (invoiceParameters value memo expiry label), .ok answer⟩]
        result ↔
      result = .ok (created.toInvoice label memo value isKeysend) := by
  rw [addInvoice, goes_ask_bind]
  constructor
  · rintro ⟨_, _, same, goes⟩
    cases same
    have returned := (goes_call_bind_of_reading (reading_ok answered)).mp goes
    exact (goes_pure.mp returned).2
  · rintro rfl
    refine ⟨label, _, rfl, ?_⟩
    apply (goes_call_bind_of_reading (reading_ok answered)).mpr
    exact goes_pure.mpr ⟨rfl, rfl⟩

theorem goes_listInvoices {result : Except Failure (List Invoice)}
    (read : InvoiceListing.codec.decode document = .ok listing) :
    Goes settings (listInvoices pendingOnly page)
        [⟨.call handle "listinvoices" (.object []), .ok document⟩] result ↔
      result = .ok (page.select (listing.shown pendingOnly)) := by
  rw [listInvoices, fetchInvoices, bind_assoc, goes_call_bind_of_reading (reading_ok read),
    pure_bind, goes_pure]
  exact and_iff_right rfl

/-- An unpaid invoice is listed as it was returned when it was created, unless it was asked for as
one of a keysend: it is listed as if it was not, since its label does not tell. -/
theorem listed_as_issued {items : List Json} {fields : List (String × Json)} {identifier : Nat}
    (answered : CreatedInvoice.codec.decode answer = .ok created)
    (read : InvoiceListing.codec.decode document = .ok listing)
    (holds : document.field? "invoices" = some (.array items)) (member : .object fields ∈ items)
    (restates : Daemon.Restates fields created (Label.text identifier) memo value)
    (expiry : UInt64) (isKeysend : Bool) :
    ∃ issued reported, ReportedInvoice.codec.decode (.object fields) = .ok reported ∧
      -- What is returned at first.
      (∀ settings handle result,
        Goes settings (addInvoice value memo expiry isKeysend)
            [⟨.label, Label.text identifier⟩,
              ⟨.call handle "invoice"
                (invoiceParameters value memo expiry (Label.text identifier)), .ok answer⟩]
            result ↔
          result = .ok issued) ∧
      -- What is listed later.
      (∀ pendingOnly, ∃ invoices, reported.toInvoice ∈ invoices ∧
        ∀ settings handle page result,
          Goes settings (listInvoices pendingOnly page)
              [⟨.call handle "listinvoices" (.object []), .ok document⟩] result ↔
            result = .ok (page.select invoices)) ∧
      issued.isKeysend = isKeysend ∧ issued.amountPaid = 0 ∧
      reported.toInvoice =
        { issued with isKeysend := false, amountPaid := reported.amountReceived.getD 0 } ∧
      (reported.toInvoice = issued ↔
        isKeysend = false ∧ reported.amountReceived.getD 0 = 0) := by
  obtain ⟨reported, among, decoded⟩ := InvoiceListing.exists_of_mem read holds member
  have same := Daemon.toInvoice_of_restates restates decoded
    (Label.beginsWith_keysendLabel identifier) isKeysend
  have unpaid : reported.toInvoice.state = .unpaid := by
    rw [same]
    rfl
  refine ⟨created.toInvoice (Label.text identifier) memo value isKeysend, reported, decoded,
    fun settings handle result => goes_addInvoice answered,
    fun pendingOnly => ⟨_, InvoiceListing.mem_shown_of_unpaid among unpaid pendingOnly,
      fun settings handle page result => goes_listInvoices read⟩, rfl, rfl, same, ?_⟩
  rw [same]
  constructor
  · intro equal
    exact ⟨(congrArg Invoice.isKeysend equal).symm, congrArg Invoice.amountPaid equal⟩
  · rintro ⟨rfl, nothing⟩
    rw [nothing]
    rfl

/-- An invoice for any amount, from a daemon that does not count its invoices. -/
def tip : CreatedInvoice := ⟨"lnbc1", "00", 3600, none⟩

/-- The invoice as the daemon lists it. -/
def tipEntry : List (String × Json) :=
  [("label", .string (Label.text 42)), ("bolt11", .string "lnbc1"),
    ("payment_hash", .string "00"), ("amount_msat", .string "any"),
    ("status", .string "unpaid"), ("description", .string "tip"), ("expires_at", .ofWord 3600)]

def tipListing : Json := .object [("invoices", .array [.object tipEntry])]

/-- What is read from the listing. -/
def tipReported : ReportedInvoice :=
  ⟨Label.text 42, some "lnbc1", "00", none, none, .unpaid, "tip", 3600, none, none, none⟩

theorem decode_tip : CreatedInvoice.codec.decode (CreatedInvoice.codec.write tip) = .ok tip := by
  decide +kernel

theorem decode_tipListing : InvoiceListing.codec.decode tipListing = .ok ⟨[tipReported]⟩ := by
  decide +kernel

theorem restates_tipEntry : Daemon.Restates tipEntry tip (Label.text 42) "tip" 0 where
  label := rfl
  description := rfl
  amount := .inr (.inr rfl)
  status := rfl
  bolt11 := rfl
  paymentHash := rfl
  expiresAt := rfl
  createdIndex := .inl rfl

theorem tip_listed_as_issued :
    CreatedInvoice.codec.decode (CreatedInvoice.codec.write tip) = .ok tip ∧
    Daemon.Restates tipEntry tip (Label.text 42) "tip" 0 ∧
    ∃ invoice invoices,
      Goes (Plan.settingsOf .standard) (addInvoice 0 "tip" 3600 false)
        [⟨.label, Label.text 42⟩,
          ⟨.call 0 "invoice" (invoiceParameters 0 "tip" 3600 (Label.text 42)),
            .ok (CreatedInvoice.codec.write tip)⟩] (.ok invoice) ∧
      Goes (Plan.settingsOf .standard) (listInvoices true .whole)
        [⟨.call 0 "listinvoices" (.object []), .ok tipListing⟩] (.ok invoices) ∧
      invoice ∈ invoices := by
  obtain ⟨issued, reported, decoded, added, shown, -, -, -, agrees⟩ :=
    listed_as_issued decode_tip decode_tipListing rfl List.mem_cons_self restates_tipEntry 3600
      false
  have nothing : reported.amountReceived.getD 0 = 0 := by
    cases decoded
    rfl
  obtain ⟨invoices, among, told⟩ := shown true
  refine ⟨decode_tip, restates_tipEntry, issued, invoices, (added _ _ _).mpr rfl,
    (told _ _ _ _).mpr rfl, ?_⟩
  rwa [agrees.mpr ⟨rfl, nothing⟩] at among

/-- The invoice was asked for as one of a keysend, and is not listed as one. -/
theorem keysend_tip_listed_as_plain :
    CreatedInvoice.codec.decode (CreatedInvoice.codec.write tip) = .ok tip ∧
    Daemon.Restates tipEntry tip (Label.text 42) "tip" 0 ∧
    ∃ issued shown : Invoice,
      Goes (Plan.settingsOf .standard) (addInvoice 0 "tip" 3600 true)
        [⟨.label, Label.text 42⟩,
          ⟨.call 0 "invoice" (invoiceParameters 0 "tip" 3600 (Label.text 42)),
            .ok (CreatedInvoice.codec.write tip)⟩] (.ok issued) ∧
      Goes (Plan.settingsOf .standard) (listInvoices false .whole)
        [⟨.call 0 "listinvoices" (.object []), .ok tipListing⟩] (.ok [shown]) ∧
      issued.isKeysend = true ∧ shown.isKeysend = false := by
  refine ⟨decode_tip, restates_tipEntry, tip.toInvoice (Label.text 42) "tip" 0 true,
    tipReported.toInvoice, (goes_addInvoice decode_tip).mpr rfl, ?_, rfl, ?_⟩
  · exact (goes_listInvoices decode_tipListing).mpr rfl
  · exact Label.beginsWith_keysendLabel 42

end Gateway

end LightningGateway
