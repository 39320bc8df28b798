import LightningGateway.Json.Writer
import LightningGateway.Proofs.Records

/-!
# Refusals of payment requests

What the command line client prints about a payment request is searched for the text by which it
refuses one, before anything else is done with it. A decoded request that quotes this text, in its
description for instance, is taken for a refused one, and a listing that has to decode it fails.
Every other decoded request is accepted.
-/

namespace LightningGateway

/-! ### Quoting a text -/

namespace Json

/-- A text of characters that stand for themselves is written as it is. -/
theorem infix_writtenString {text : String} {plain : List Char}
    (unescaped : plain.flatMap writtenCharacter = plain) (quoted : plain <:+: text.toList) :
    plain <:+: writtenString text := by
  obtain ⟨before, after, whole⟩ := quoted
  refine ⟨'"' :: before.flatMap writtenCharacter, after.flatMap writtenCharacter ++ ['"'], ?_⟩
  simp [writtenString, ← whole, unescaped]

theorem infix_compactFields {fields : List (String × Json)} {key : String} {value : Json}
    (member : (key, value) ∈ fields) : value.compactCharacters <:+: compactFields fields := by
  induction fields with
  | nil => cases member
  | cons field rest ih =>
      obtain ⟨name, first⟩ := field
      have here : first.compactCharacters <:+: compactFields ((name, first) :: rest) := by
        cases rest with
        | nil => exact ⟨writtenString name ++ [':'], [], by simp [compactFields]⟩
        | cons second others =>
            exact ⟨writtenString name ++ [':'], ',' :: compactFields (second :: others),
              by simp [compactFields]⟩
      rcases List.mem_cons.mp member with same | later
      · cases same
        exact here
      · refine (ih later).trans ?_
        cases rest with
        | nil => cases later
        | cons second others =>
            exact ⟨writtenString name ++ ':' :: first.compactCharacters ++ [','], [],
              by simp [compactFields]⟩

end Json

/-! ### Decoded requests -/

namespace Daemon.DecodedRequest

theorem parse_eq_ok_iff {output : String} {decoded : DecodedRequest}
    (understood : codec.decodeText output = .ok decoded) :
    (∃ request, parse output = .ok request) ↔ Text.contains output refusal = false := by
  rw [parse_of_decodeText understood]
  cases Text.contains output refusal <;> simp

/-- A description is written into a decoded request as it is, so what it quotes is quoted there. -/
theorem contains_compact_of_description {decoded : DecodedRequest}
    (quoted : Text.contains decoded.description refusal = true) :
    Text.contains (codec.write decoded).compact refusal = true := by
  rw [Text.contains_iff_infix] at quoted ⊢
  have plain : refusal.toList.flatMap Json.writtenCharacter = refusal.toList := by decide +kernel
  obtain ⟨fields, written, described⟩ : ∃ fields, codec.write decoded = .object fields ∧
      ("description", Json.string decoded.description) ∈ fields :=
    ⟨_, rfl, by simp [layout, Layout.write, Layout.required, Layout.defaulted, Codec.text]⟩
  have inside := (Json.infix_writtenString plain quoted).trans
    (Json.infix_compactFields described)
  rw [written, Json.compact, String.toList_ofList]
  exact inside.trans ⟨['\x7b'], ['\x7d'], rfl⟩

end Daemon.DecodedRequest

/-! ### Listings -/

namespace Gateway

variable {replies : Replies} {settings : Settings} {session : Session} {handle : Handle}
  {pays : List Daemon.ReportedPayment} {output : String → String}

/-- The payment requests that a listing of some payments has to have decoded. -/
def wantedRequests (requests : Cache String PaymentRequest)
    (pays : List Daemon.ReportedPayment) : List String :=
  Cache.missed requests.capacity requests.keys (pays.filterMap Daemon.ReportedPayment.request?)

/-- The daemon lists some payments, and for each payment request that has to be decoded the
client prints a decoded request. -/
structure Understood (replies : Replies) (handle : Handle)
    (requests : Cache String PaymentRequest) (pays : List Daemon.ReportedPayment)
    (output : String → String) : Prop where
  listed :
    reading Daemon.PaymentListing.codec (replies (.call handle "listpays" (.object []))) =
      .ok ⟨pays⟩
  printed : ∀ request ∈ wantedRequests requests pays,
    replies (.command ["decodepay", request]) = .ok (output request)
  decoded : ∀ request ∈ wantedRequests requests pays,
    ∃ decoded, Daemon.DecodedRequest.codec.decodeText (output request) = .ok decoded

/-- No refusal is quoted in what the client prints. -/
def Unquoted (requests : Cache String PaymentRequest) (pays : List Daemon.ReportedPayment)
    (output : String → String) : Prop :=
  ∀ request ∈ wantedRequests requests pays,
    Text.contains (output request) Daemon.DecodedRequest.refusal = false

section Listings

variable {found : Except TransportError (List Payment)} {requests : Cache String PaymentRequest}

theorem completed_iff_unquoted
    (understood : Understood replies handle session.requests pays output)
    (fetch : PaymentFetch replies settings session handle found requests) :
    (∃ payments, found = .ok payments) ↔ Unquoted session.requests pays output := by
  have completion := fetch.reported
  rw [understood.listed] at completion
  rw [completion.succeeds_iff]
  refine forall₂_congr fun request wanted => ?_
  obtain ⟨decoded, read⟩ := understood.decoded request wanted
  rw [requestFrom, requestIn, Replies.surroundings, understood.printed request wanted]
  exact Daemon.DecodedRequest.parse_eq_ok_iff read

theorem listPayments_succeeds_iff
    (fetch : PaymentFetch replies settings session handle found requests)
    (includeIncomplete : Bool) (page : Page) :
    (∃ payments, result replies settings session (listPayments includeIncomplete page) =
      .ok payments) ↔ ∃ payments, found = .ok payments := by
  have fetched : Fetches replies settings session fetchPayments found _ :=
    fetch.fetches session.blocks
  rw [listPayments, result_bind_fetch fetched]
  cases found with
  | error error => simp [Except.bind]
  | ok payments => exact ⟨fun _ => ⟨payments, rfl⟩, fun _ => ⟨_, rfl⟩⟩

theorem listAll_succeeds_iff (successfulOnly : Bool) (page : Page) :
    (∃ entries, result replies settings session (listAll successfulOnly page) = .ok entries) ↔
      ∃ entries, result replies settings session gather = .ok entries := by
  rw [result_listAll]
  cases result replies settings session gather <;> simp [Except.map]

theorem fetchOnChain_succeeds_iff {found : Except TransportError (List OnChainTransaction)}
    {blocks : Cache UInt32 BlockTime}
    (fetch : WalletFetch replies settings session found blocks) :
    (∃ transactions, found = .ok transactions) ↔
      ∃ transactions, bookkeepingFrom replies = .ok transactions := by
  have reported := fetch.reported
  cases booked : bookkeepingFrom replies with
  | error error =>
      rw [booked] at reported
      simp [reported]
  | ok transactions =>
      rw [booked] at reported
      obtain ⟨listed, rfl, -⟩ := reported
      exact ⟨fun _ => ⟨transactions, rfl⟩, fun _ => ⟨listed, rfl⟩⟩

end Listings

/-- Listings that have to decode payment requests succeed only if no refusal is quoted. The
timeline also needs its other parts. -/
theorem listings_succeed_iff_unquoted (settings : Settings)
    (connected : session.link.transport = .ok handle)
    (understood : Understood replies handle session.requests pays output) :
    (∀ includeIncomplete page,
      (∃ payments, result replies settings session (listPayments includeIncomplete page) =
        .ok payments) ↔ Unquoted session.requests pays output) ∧
    ∀ successfulOnly page,
      (∃ entries, result replies settings session (listAll successfulOnly page) =
        .ok entries) ↔
      (∃ invoices, invoicesFrom replies handle = .ok invoices) ∧
        (∃ transactions, bookkeepingFrom replies = .ok transactions) ∧
        Unquoted session.requests pays output ∧
        ∃ info, infoFrom replies settings handle = .ok info := by
  obtain ⟨wallet, blocks, walletFetch⟩ := exists_walletFetch replies settings session
  obtain ⟨found, requests, paymentFetch⟩ := exists_paymentFetch replies settings connected
  have completed := completed_iff_unquoted understood paymentFetch
  refine ⟨fun includeIncomplete page => ?_, fun successfulOnly page => ?_⟩
  · rw [listPayments_succeeds_iff paymentFetch, completed]
  · rw [listAll_succeeds_iff, gather_succeeds_iff connected walletFetch paymentFetch,
      fetchOnChain_succeeds_iff walletFetch, completed]

/-- A decoded request is accepted exactly if what the client prints about it does not quote the
refusal, which a description can do. Listings of payments and the timeline succeed only if none
of those that they have to decode does. -/
theorem accepted_iff_refusal_unquoted (raw : String) (decoded : Daemon.DecodedRequest)
    (read : Daemon.DecodedRequest.codec.decodeText raw = .ok decoded) (settings : Settings)
    (connected : session.link.transport = .ok handle)
    (understood : Understood replies handle session.requests pays output) :
    (Daemon.DecodedRequest.parse raw =
      if Text.contains raw Daemon.DecodedRequest.refusal then
        .error (.rpc none Daemon.DecodedRequest.refusal)
      else .ok decoded.toPaymentRequest) ∧
    (Text.contains decoded.description Daemon.DecodedRequest.refusal = true →
      Text.contains (Daemon.DecodedRequest.codec.write decoded).compact
        Daemon.DecodedRequest.refusal = true) ∧
    (∀ includeIncomplete page,
      (∃ payments, result replies settings session (listPayments includeIncomplete page) =
        .ok payments) ↔ Unquoted session.requests pays output) ∧
    ∀ successfulOnly page,
      (∃ entries, result replies settings session (listAll successfulOnly page) =
        .ok entries) ↔
      (∃ invoices, invoicesFrom replies handle = .ok invoices) ∧
        (∃ transactions, bookkeepingFrom replies = .ok transactions) ∧
        Unquoted session.requests pays output ∧
        ∃ info, infoFrom replies settings handle = .ok info :=
  ⟨Daemon.DecodedRequest.parse_of_decodeText read,
    Daemon.DecodedRequest.contains_compact_of_description,
    listings_succeed_iff_unquoted settings connected understood⟩

/-- A payment request like the one for tea, but with a description that its payee has made up. -/
def bitterRequest : Daemon.DecodedRequest :=
  { teaRequest with description := "Invalid bolt11: Bad bech32 string" }

theorem understood_oneOfEach {request : Daemon.DecodedRequest}
    (read : Daemon.DecodedRequest.codec.decodeText
      (Daemon.DecodedRequest.codec.write request).compact = .ok request) :
    wantedRequests connectedSession.requests Records.oneOfEach.pays = ["lnbc2"] ∧
    Understood (Records.oneOfEach.written request) 0 connectedSession.requests
      Records.oneOfEach.pays
      fun _ => (Daemon.DecodedRequest.codec.write request).compact := by
  have wanted : wantedRequests connectedSession.requests Records.oneOfEach.pays = ["lnbc2"] := by
    decide +kernel
  have listed : reading Daemon.PaymentListing.codec
      (.ok (Daemon.PaymentListing.codec.write ⟨Records.oneOfEach.pays⟩)) =
        .ok ⟨Records.oneOfEach.pays⟩ := by decide +kernel
  refine ⟨wanted, listed, fun bolt11 member => ?_, fun _ _ => ⟨request, read⟩⟩
  obtain rfl := List.mem_singleton.mp (wanted ▸ member)
  rfl

/-- The payment for tea is listed. -/
theorem payments_listed_for_tea :
    ∃ payments, result (Records.oneOfEach.written teaRequest)
      ⟨.coreLightning, "getinfo", 5000, 1000, false⟩ connectedSession (listPayments true .whole) =
        .ok payments := by
  have unquoted : Text.contains (Daemon.DecodedRequest.codec.write teaRequest).compact
      Daemon.DecodedRequest.refusal = false := by
    simp only [Text.contains, Json.compact, String.toList_ofList]
    decide +kernel
  have read : Daemon.DecodedRequest.codec.decodeText
      (Daemon.DecodedRequest.codec.write teaRequest).compact = .ok teaRequest := by
    decide +kernel
  have accepted := accepted_iff_refusal_unquoted _ _ read
    ⟨.coreLightning, "getinfo", 5000, 1000, false⟩
    (show connectedSession.link.transport = .ok 0 from rfl) (understood_oneOfEach read).2
  exact (accepted.2.2.1 true .whole).mpr fun _ _ => unquoted

/-- The bitter request can be read, but it is refused, and neither the payments nor the timeline
can be listed any more. -/
theorem payments_unlisted_for_quoted_refusal :
    let output := (Daemon.DecodedRequest.codec.write bitterRequest).compact
    let result {α : Type} (operation : Gateway α) :=
      result (Records.oneOfEach.written bitterRequest)
        ⟨.coreLightning, "getinfo", 5000, 1000, false⟩ connectedSession operation
    Daemon.DecodedRequest.codec.decodeText output = .ok bitterRequest ∧
      Daemon.DecodedRequest.parse output =
        .error (.rpc none "Invalid bolt11: Bad bech32 string") ∧
      (¬ ∃ payments, result (listPayments true .whole) = .ok payments) ∧
      ¬ ∃ entries, result (listAll false .whole) = .ok entries := by
  have read : Daemon.DecodedRequest.codec.decodeText
      (Daemon.DecodedRequest.codec.write bitterRequest).compact = .ok bitterRequest := by
    decide +kernel
  have quoted := Daemon.DecodedRequest.contains_compact_of_description
    (show Text.contains bitterRequest.description Daemon.DecodedRequest.refusal = true by
      decide +kernel)
  obtain ⟨wanted, understood⟩ := understood_oneOfEach read
  have listed := listings_succeed_iff_unquoted ⟨.coreLightning, "getinfo", 5000, 1000, false⟩
    (show connectedSession.link.transport = .ok 0 from rfl) understood
  have refused : ¬ Unquoted connectedSession.requests Records.oneOfEach.pays
      fun _ => (Daemon.DecodedRequest.codec.write bitterRequest).compact := by
    intro unquoted
    have absent := unquoted "lnbc2" (by simp [wanted])
    rw [quoted] at absent
    cases absent
  refine ⟨read, ?_, fun succeeds => ?_, fun succeeds => ?_⟩
  · rw [Daemon.DecodedRequest.parse_of_decodeText read, if_pos quoted]
    rfl
  · exact refused ((listed.1 true .whole).mp succeeds)
  · exact refused ((listed.2 false .whole).mp succeeds).2.2.1

end Gateway

end LightningGateway
