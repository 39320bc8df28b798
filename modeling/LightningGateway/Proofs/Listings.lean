import Mathlib.Data.List.Forall2
import LightningGateway.Gateway.Listings
import LightningGateway.Proofs.Cache
import LightningGateway.Proofs.Outcome
import LightningGateway.Proofs.Timeline

/-!
# Listings and the timeline

Invoices, payments, wallet transactions and the timeline of all of them are read from the
same replies. Each of the fetches is the same for every operation that makes it, apart from
the operation that its errors are classified for. So the timeline shows the very records
that the listings show, or it fails as a whole.
-/

namespace LightningGateway.Gateway

variable {α : Type}

/-- What an operation returns if each question has one reply. -/
def result (replies : Replies) (settings : Settings) (session : Session)
    (operation : Gateway α) : Except Failure α :=
  (outcome replies.surroundings settings operation session ()).1

/-- A fetch that finds the same for every operation that makes it, and leaves the same session
behind. -/
def Fetches (replies : Replies) (settings : Settings) (session : Session)
    (fetch : Operation → Gateway α) (found : Except TransportError α) (after : Session) : Prop :=
  ∀ operation,
    outcome replies.surroundings settings (fetch operation) session () =
      (classified operation found, after, ())

/-- The invoices of the daemon. -/
def invoicesFrom (replies : Replies) (handle : Handle) : Except TransportError (List Invoice) :=
  (reading Daemon.InvoiceListing.codec (replies (.call handle "listinvoices" (.object [])))).map
    fun listing => listing.invoices.map Daemon.ReportedInvoice.toInvoice

/-- What the daemon says about itself. -/
def infoFrom (replies : Replies) (settings : Settings) (handle : Handle) :
    Except TransportError NodeInfo :=
  (reading Daemon.Information.codec (replies (.call handle "getinfo" (.object [])))).map
    fun information => information.toNodeInfo settings.implementation.tag

/-- The session with other payment requests remembered. -/
def withRequests (session : Session) (requests : Cache String PaymentRequest) : Session :=
  { session with requests }

/-- The session with other block times remembered. -/
def withBlocks (session : Session) (blocks : Cache UInt32 BlockTime) : Session :=
  { session with blocks }

section Fetches

variable {replies : Replies} {settings : Settings} {session : Session} {handle : Handle}

/-- An operation that fetches something goes on with what was found, or fails with the failure
that it makes of the error. -/
theorem result_bind_fetch {β : Type} {fetch : Operation → Gateway α}
    {found : Except TransportError α} {after : Session}
    (fetches : Fetches replies settings session fetch found after) (operation : Operation)
    (next : α → Gateway β) :
    result replies settings session (fetch operation >>= next) =
      (classified operation found).bind fun value =>
        result replies settings after (next value) := by
  rw [result, outcome_bind, fetches operation]
  cases found <;> rfl

theorem fetches_call {β : Type} (connected : session.link.transport = .ok handle)
    (codec : Codec α) (method : String) (parameters : Json) (view : α → β) :
    Fetches replies settings session
      (fun operation => do return view (← call operation codec method parameters))
      ((reading codec (replies (.call handle method parameters))).map view) session := by
  intro operation
  rw [outcome_bind, outcome_call_connected _ _ _ _ _ _ _ _ connected]
  simp only [Replies.surroundings]
  cases reading codec (replies (.call handle method parameters)) <;> rfl

theorem fetches_invoices (connected : session.link.transport = .ok handle) :
    Fetches replies settings session fetchInvoices (invoicesFrom replies handle) session :=
  fetches_call connected _ _ _ _

theorem fetches_info (connected : session.link.transport = .ok handle) :
    Fetches replies settings session fetchInfo (infoFrom replies settings handle) session :=
  fetches_call connected _ _ _ _

/-! ### Payments -/

/-- What the command line client says about a payment request. -/
def requestIn {ω : Type} (answer : Surroundings ω) (world : ω) (request : String) :
    Except TransportError PaymentRequest :=
  (answer (.command ["decodepay", request]) world).1.bind Daemon.DecodedRequest.parse

/-- What the command line client says about a payment request each time. -/
def requestFrom (replies : Replies) (request : String) : Except TransportError PaymentRequest :=
  requestIn replies.surroundings () request

/-- A payment as it is listed: with its decoded payment request, if it was made for one, which
was remembered or comes from the client. -/
def Completes (replies : Replies) (requests : Cache String PaymentRequest)
    (reported : Daemon.ReportedPayment) (payment : Payment) : Prop :=
  match reported.request? with
  | none => payment = reported.toPayment none
  | some request =>
      ∃ decoded,
        (requests.find? request = some decoded ∨ requestFrom replies request = .ok decoded) ∧
          payment = reported.toPayment (some decoded)

theorem run_decoding {σ ω : Type} (answer : Surroundings ω) (operation : Operation)
    (request : String) (state : σ) (world : ω) :
    (decoding operation request).run answer state world =
      (classified operation (requestIn answer world request), state,
        (answer (.command ["decodepay", request]) world).2) := by
  have asked := Dialogue.run_query answer (.command ["decodepay", request]) state world
  simp only [decoding, Dialogue.run_bind, asked, requestIn]
  cases (answer (.command ["decodepay", request]) world).1 <;> rfl

/-- What is remembered is returned, and anything else is asked for and then remembered. -/
theorem outcome_decodeRememberedIn {ω : Type} (answer : Surroundings ω) (settings : Settings)
    (session : Session) (world : ω) (operation : Operation) (request : String) :
    outcome answer settings (decodeRemembered operation request) session world =
      match session.requests.find? request with
      | some decoded =>
          (.ok decoded, withRequests session (session.requests.get request).2, world)
      | none =>
          (classified operation (requestIn answer world request),
            withRequests session
              (session.requests.storing request (requestIn answer world request)),
            (answer (.command ["decodepay", request]) world).2) := by
  have focused := Dialogue.run_focus answer Session.requests
    (fun requests session => withRequests session requests) (fun _ _ => rfl) (fun _ => rfl)
    (fun _ _ _ => rfl) (Cache.remember request (decoding operation request)) session world
  rw [decodeRemembered, outcome_ofDialogue]
  refine focused.trans ?_
  cases found : session.requests.find? request with
  | some decoded => rw [Cache.run_remember_of_find?_eq_some _ _ _ found]
  | none =>
      have fetched := run_decoding answer operation request session.requests world
      rw [Cache.run_remember_of_find?_eq_none _ _ found fetched]
      cases requestIn answer world request <;> rfl

theorem outcome_decodeRemembered (operation : Operation) (request : String) :
    outcome replies.surroundings settings (decodeRemembered operation request) session () =
      match session.requests.find? request with
      | some decoded =>
          (.ok decoded, withRequests session (session.requests.get request).2, ())
      | none =>
          (classified operation (requestFrom replies request),
            withRequests session
              (session.requests.storing request (requestFrom replies request)),
            ()) :=
  outcome_decodeRememberedIn replies.surroundings settings session () operation request

/-- Payments that are completed one after another, each with what was remembered for those
before it. Block times play no part in it. -/
structure Completion (replies : Replies) (settings : Settings) (session : Session)
    (pays : List Daemon.ReportedPayment) (found : Except TransportError (List Payment))
    (requests : Cache String PaymentRequest) : Prop where
  fetches : ∀ blocks, Fetches replies settings (withBlocks session blocks)
    (fun operation => pays.mapM (completePayment operation)) found
    (withBlocks (withRequests session requests) blocks)
  succeeds_iff : (∃ payments, found = .ok payments) ↔
    ∀ request ∈ Cache.missed session.requests.capacity session.requests.keys
        (pays.filterMap Daemon.ReportedPayment.request?),
      ∃ decoded, requestFrom replies request = .ok decoded
  completes : ∀ payments, found = .ok payments →
    List.Forall₂ (Completes replies session.requests) pays payments

theorem Completes.of_later {requests later : Cache String PaymentRequest}
    {reported : Daemon.ReportedPayment} {payment : Payment}
    (completed : Completes replies later reported payment)
    (older : ∀ request decoded, later.find? request = some decoded →
      requests.find? request = some decoded ∨ requestFrom replies request = .ok decoded) :
    Completes replies requests reported payment := by
  unfold Completes at completed ⊢
  split
  · simpa [*] using completed
  · next request made =>
      simp only [made] at completed
      obtain ⟨decoded, remembered | asked, rfl⟩ := completed
      · exact ⟨decoded, older request decoded remembered, rfl⟩
      · exact ⟨decoded, Or.inr asked, rfl⟩

theorem Completion.cons {reported : Daemon.ReportedPayment} {payment : Payment}
    {rest : List Daemon.ReportedPayment} {found : Except TransportError (List Payment)}
    {requests after : Cache String PaymentRequest}
    (first : ∀ blocks operation,
      outcome replies.surroundings settings (completePayment operation reported)
          (withBlocks session blocks) () =
        (.ok payment, withBlocks (withRequests session requests) blocks, ()))
    (completed : Completes replies session.requests reported payment)
    (older : ∀ request decoded, requests.find? request = some decoded →
      session.requests.find? request = some decoded ∨
        requestFrom replies request = .ok decoded)
    (wanted :
      (∀ request ∈ Cache.missed session.requests.capacity session.requests.keys
          ((reported :: rest).filterMap Daemon.ReportedPayment.request?),
        ∃ decoded, requestFrom replies request = .ok decoded) ↔
      ∀ request ∈ Cache.missed requests.capacity requests.keys
          (rest.filterMap Daemon.ReportedPayment.request?),
        ∃ decoded, requestFrom replies request = .ok decoded)
    (others : Completion replies settings (withRequests session requests) rest found after) :
    Completion replies settings session (reported :: rest)
      (found.map fun payments => payment :: payments) after where
  fetches blocks operation := by
    have continued := others.fetches blocks operation
    simp only [List.mapM_cons, outcome_bind, first, Outcome.continue_ok] at continued ⊢
    rw [continued]
    cases found <;> rfl
  succeeds_iff := by
    refine Iff.trans ?_ (others.succeeds_iff.trans wanted.symm)
    cases found <;> simp [Except.map]
  completes payments succeeded := by
    cases found with
    | error error => cases succeeded
    | ok listed =>
        obtain rfl : payment :: listed = payments := by simpa [Except.map] using succeeded
        exact .cons completed
          ((others.completes listed rfl).imp fun _ _ later => later.of_later older)

theorem Completion.cons_plain {reported : Daemon.ReportedPayment}
    {rest : List Daemon.ReportedPayment} {found : Except TransportError (List Payment)}
    {after : Cache String PaymentRequest} (plain : reported.request? = none)
    (others : Completion replies settings session rest found after) :
    Completion replies settings session (reported :: rest)
      (found.map fun payments => reported.toPayment none :: payments) after := by
  have completed : Completes replies session.requests reported (reported.toPayment none) := by
    simp only [Completes, plain]
  refine .cons (fun blocks operation => ?_) completed
    (fun _ _ remembered => Or.inl remembered) (by simp [plain]) others
  simp only [completePayment, plain, outcome_pure]
  rfl

theorem Completion.cons_remembered {reported : Daemon.ReportedPayment}
    {rest : List Daemon.ReportedPayment} {found : Except TransportError (List Payment)}
    {after : Cache String PaymentRequest} {request : String} {decoded : PaymentRequest}
    (made : reported.request? = some request)
    (held : session.requests.find? request = some decoded)
    (others : Completion replies settings
      (withRequests session (session.requests.get request).2) rest found after) :
    Completion replies settings session (reported :: rest)
      (found.map fun payments => reported.toPayment (some decoded) :: payments) after := by
  have present := Cache.mem_keys_of_find?_eq_some held
  have completed : Completes replies session.requests reported
      (reported.toPayment (some decoded)) := by
    simp only [Completes, made]
    exact ⟨decoded, Or.inl held, rfl⟩
  refine .cons (fun blocks operation => ?_) completed
    (fun other value remembered => Or.inl ?_) ?_ others
  · simp only [completePayment, made, outcome_bind, outcome_decodeRemembered, withBlocks, held]
    rfl
  · rwa [Cache.find?_get] at remembered
  · simp [made, Cache.missed, present, Cache.keys_get_of_mem present, Cache.capacity_get]

theorem Completion.cons_decoded {reported : Daemon.ReportedPayment}
    {rest : List Daemon.ReportedPayment} {found : Except TransportError (List Payment)}
    {after : Cache String PaymentRequest} {request : String} {decoded : PaymentRequest}
    (made : reported.request? = some request)
    (missing : session.requests.find? request = none)
    (asked : requestFrom replies request = .ok decoded)
    (others : Completion replies settings
      (withRequests session (session.requests.insert request decoded)) rest found after) :
    Completion replies settings session (reported :: rest)
      (found.map fun payments => reported.toPayment (some decoded) :: payments) after := by
  have absent := (Cache.find?_eq_none_iff _ _).mp missing
  have completed : Completes replies session.requests reported
      (reported.toPayment (some decoded)) := by
    simp only [Completes, made]
    exact ⟨decoded, Or.inr asked, rfl⟩
  refine .cons (fun blocks operation => ?_) completed (fun other value remembered => ?_) ?_
    others
  · simp only [completePayment, made, outcome_bind, outcome_decodeRemembered, withBlocks,
      missing, asked]
    rfl
  · rcases Cache.find?_insert_eq_some remembered with ⟨rfl, rfl⟩ | older
    · exact Or.inr asked
    · exact Or.inl older
  · have capacity := Cache.capacity_insert session.requests request decoded
    simp [made, Cache.missed, absent, asked, Cache.keys_insert, capacity]

theorem Completion.cons_refused {reported : Daemon.ReportedPayment}
    {rest : List Daemon.ReportedPayment} {request : String} {error : TransportError}
    (made : reported.request? = some request)
    (missing : session.requests.find? request = none)
    (asked : requestFrom replies request = .error error) :
    Completion replies settings session (reported :: rest) (.error error)
      session.requests where
  fetches blocks operation := by
    simp only [List.mapM_cons, completePayment, made, outcome_bind, outcome_decodeRemembered,
      withBlocks, missing, asked]
    rfl
  succeeds_iff := by
    have absent := (Cache.find?_eq_none_iff _ _).mp missing
    simp [made, Cache.missed, absent, asked]
  completes := nofun

/-- Payments are completed all in the same way for every operation, and the only requests that
have to be decoded are those that the memory misses. -/
theorem exists_completion (replies : Replies) (settings : Settings) (session : Session)
    (pays : List Daemon.ReportedPayment) :
    ∃ found after, Completion replies settings session pays found after := by
  -- What is remembered changes from payment to payment, so the induction is over all sessions.
  induction pays generalizing session with
  | nil =>
      exact ⟨.ok [], session.requests,
        { fetches := fun _ _ => rfl
          succeeds_iff := by simp [Cache.missed]
          completes := fun _ succeeded => by cases succeeded; exact .nil }⟩
  | cons reported rest ih =>
      cases made : reported.request? with
      | none =>
          obtain ⟨_, after, others⟩ := ih session
          exact ⟨_, after, .cons_plain made others⟩
      | some request =>
          cases held : session.requests.find? request with
          | some decoded =>
              obtain ⟨_, after, others⟩ :=
                ih (withRequests session (session.requests.get request).2)
              exact ⟨_, after, .cons_remembered made held others⟩
          | none =>
              cases asked : requestFrom replies request with
              | error error => exact ⟨_, _, .cons_refused made held asked⟩
              | ok decoded =>
                  obtain ⟨_, after, others⟩ :=
                    ih (withRequests session (session.requests.insert request decoded))
                  exact ⟨_, after, .cons_decoded made held asked others⟩

/-- The payments that are fetched. -/
structure PaymentFetch (replies : Replies) (settings : Settings) (session : Session)
    (handle : Handle) (found : Except TransportError (List Payment))
    (requests : Cache String PaymentRequest) : Prop where
  fetches : ∀ blocks, Fetches replies settings (withBlocks session blocks) fetchPayments found
    (withBlocks (withRequests session requests) blocks)
  reported :
    match reading Daemon.PaymentListing.codec
        (replies (.call handle "listpays" (.object []))) with
    | .error error => found = .error error
    | .ok listing => Completion replies settings session listing.pays found requests

theorem exists_paymentFetch (replies : Replies) (settings : Settings)
    (connected : session.link.transport = .ok handle) :
    ∃ found requests, PaymentFetch replies settings session handle found requests := by
  have called (blocks : Cache UInt32 BlockTime) (operation : Operation) :=
    outcome_call_connected replies.surroundings settings (withBlocks session blocks) ()
      operation Daemon.PaymentListing.codec "listpays" (.object []) connected
  simp only [Replies.surroundings] at called
  cases listed : reading Daemon.PaymentListing.codec
      (replies (.call handle "listpays" (.object []))) with
  | error error =>
      refine ⟨.error error, session.requests, fun blocks operation => ?_, by simp only [listed]⟩
      simp only [fetchPayments, outcome_bind, called, listed]
      rfl
  | ok listing =>
      obtain ⟨found, requests, completion⟩ :=
        exists_completion replies settings session listing.pays
      refine ⟨found, requests, fun blocks operation => ?_, by simpa only [listed]⟩
      have completed := completion.fetches blocks operation
      simp only [fetchPayments, outcome_bind, called, listed,
        classified_ok, Outcome.continue_ok] at completed ⊢
      exact completed

/-! ### Wallet transactions -/

/-- The wallet transactions with their heights, as the bookkeeper reports them. -/
def bookkeepingFrom (replies : Replies) : Except TransportError (List OnChainTransaction) :=
  (replies (.command ["bkpr-listincome"])).bind fun income =>
    (replies (.command ["bkpr-listaccountevents"])).bind fun events =>
      (Daemon.Bookkeeping.parseIncome income).bind
        (Daemon.Bookkeeping.applyHeights events)

/-- The same transaction, perhaps with another time. -/
def SameButTime (reported listed : OnChainTransaction) : Prop :=
  { listed with timeStamp := reported.timeStamp } = reported

theorem outcome_blockTimeOf {ω : Type} (answer : Surroundings ω) (settings : Settings)
    (session : Session) (world : ω) {transaction : OnChainTransaction} {height : UInt32}
    (known : transaction.blockHeight = some height) :
    outcome answer settings (blockTimeOf transaction) session world =
      (.ok (((Chain.blockTime height).run answer session.blocks world).1.toOption.map
          BlockTime.time),
        withBlocks session ((Chain.blockTime height).run answer session.blocks world).2.1,
        ((Chain.blockTime height).run answer session.blocks world).2.2) := by
  have focused := Dialogue.run_focus answer Session.blocks
    (fun blocks session => withBlocks session blocks) (fun _ _ => rfl) (fun _ => rfl)
    (fun _ _ _ => rfl) (Chain.blockTime height) session world
  have looked := outcome_lift answer settings session world
    ((Chain.blockTime height).focus Session.blocks
      fun blocks session => withBlocks session blocks)
  rw [focused] at looked
  simp only [blockTimeOf, known, outcome_bind]
  refine (congrArg (fun first => Outcome.continue first _) looked).trans ?_
  rcases (Chain.blockTime height).run answer session.blocks world with ⟨_ | block, blocks, later⟩
    <;> rfl

theorem exists_blockTimeOf {ω : Type} (answer : Surroundings ω) (settings : Settings)
    (session : Session) (world : ω) (transaction : OnChainTransaction) :
    ∃ time blocks later,
      outcome answer settings (blockTimeOf transaction) session world =
        (.ok time, withBlocks session blocks, later) := by
  cases known : transaction.blockHeight with
  | none =>
      refine ⟨none, session.blocks, world, ?_⟩
      simp only [blockTimeOf, known, outcome_pure]
      rfl
  | some height => exact ⟨_, _, _, outcome_blockTimeOf answer settings session world known⟩

/-- Dating transactions by their blocks succeeds and changes nothing but their times. -/
theorem exists_mapM_dateByBlock {ω : Type} (answer : Surroundings ω) (settings : Settings)
    (session : Session) (world : ω) (transactions : List OnChainTransaction) :
    ∃ dated blocks later,
      outcome answer settings (transactions.mapM dateByBlock) session world =
        (.ok dated, withBlocks session blocks, later) ∧
      List.Forall₂ SameButTime transactions dated := by
  induction transactions generalizing session world with
  | nil => exact ⟨[], session.blocks, world, rfl, .nil⟩
  | cons transaction rest ih =>
      obtain ⟨time, blocks, later, looked⟩ :=
        exists_blockTimeOf answer settings session world transaction
      obtain ⟨dated, after, last, continued, same⟩ := ih (withBlocks session blocks) later
      cases time with
      | none =>
          refine ⟨transaction :: dated, after, last, ?_, .cons rfl same⟩
          simp only [List.mapM_cons, dateByBlock, outcome_bind, looked, Outcome.continue_ok,
            outcome_pure] at continued ⊢
          rw [continued]
          rfl
      | some time =>
          refine ⟨{ transaction with timeStamp := time } :: dated, after, last, ?_,
            .cons rfl same⟩
          simp only [List.mapM_cons, dateByBlock, outcome_bind, looked, Outcome.continue_ok,
            outcome_pure] at continued ⊢
          rw [continued]
          rfl

/-- The wallet transactions that are fetched. -/
structure WalletFetch (replies : Replies) (settings : Settings) (session : Session)
    (found : Except TransportError (List OnChainTransaction))
    (blocks : Cache UInt32 BlockTime) : Prop where
  fetches : Fetches replies settings session fetchOnChain found (withBlocks session blocks)
  reported : match bookkeepingFrom replies with
    | .error error => found = .error error
    | .ok transactions =>
        ∃ listed, found = .ok listed ∧ List.Forall₂ SameButTime transactions listed ∧
          (settings.hasChainServer = false → listed = transactions)

/-- The wallet transactions with their heights, as the bookkeeper reports them, in surroundings
that keep a state of their own. -/
def bookkeeping {ω : Type} (answer : Surroundings ω) (world : ω) :
    Except TransportError (List OnChainTransaction) × ω :=
  match answer (.command ["bkpr-listincome"]) world with
  | (.error error, later) => (.error error, later)
  | (.ok income, later) =>
      match answer (.command ["bkpr-listaccountevents"]) later with
      | (.error error, last) => (.error error, last)
      | (.ok events, last) =>
          ((Daemon.Bookkeeping.parseIncome income).bind
            (Daemon.Bookkeeping.applyHeights events), last)

theorem bookkeeping_surroundings (replies : Replies) :
    bookkeeping replies.surroundings () = (bookkeepingFrom replies, ()) := by
  unfold bookkeeping bookkeepingFrom Replies.surroundings
  cases replies (.command ["bkpr-listincome"]) with
  | error error => rfl
  | ok income => cases replies (.command ["bkpr-listaccountevents"]) <;> rfl

/-- The reports of the bookkeeper are read before any block is looked up. -/
theorem outcome_fetchOnChain {ω : Type} (answer : Surroundings ω) (settings : Settings)
    (session : Session) (world : ω) (operation : Operation) :
    outcome answer settings (fetchOnChain operation) session world =
      Outcome.continue
        (classified operation (bookkeeping answer world).1, session, (bookkeeping answer world).2)
        fun transactions =>
          outcome answer settings
            (if settings.hasChainServer then transactions.mapM dateByBlock
              else return transactions) := by
  have asked (arguments : List String) (world : ω) :=
    outcome_command answer settings session world operation arguments
  rw [fetchOnChain_eq, outcome_bind, bookkeeping, asked]
  rcases answer (.command ["bkpr-listincome"]) world with ⟨_ | income, later⟩
  · rfl
  · simp only [classified_ok, Outcome.continue_ok, outcome_bind, asked]
    rcases answer (.command ["bkpr-listaccountevents"]) later with ⟨_ | events, last⟩
    · rfl
    · simp only [classified_ok, Outcome.continue_ok, outcome_bind, readReports, bind_assoc,
        outcome_orClassify]
      cases Daemon.Bookkeeping.parseIncome income with
      | error error => rfl
      | ok transactions =>
          simp only [classified_ok, Outcome.continue_ok, outcome_bind, outcome_orClassify]
          rfl

theorem exists_dated {ω : Type} (answer : Surroundings ω) (settings : Settings)
    (session : Session) (world : ω) (transactions : List OnChainTransaction) :
    ∃ listed blocks later,
      outcome answer settings
          (if settings.hasChainServer then transactions.mapM dateByBlock
            else return transactions)
          session world =
        (.ok listed, withBlocks session blocks, later) ∧
      List.Forall₂ SameButTime transactions listed ∧
      (settings.hasChainServer = false → listed = transactions) := by
  cases chain : settings.hasChainServer with
  | false =>
      exact ⟨transactions, session.blocks, world, rfl, List.forall₂_same.mpr fun _ _ => rfl,
        fun _ => rfl⟩
  | true =>
      obtain ⟨dated, blocks, later, dating, same⟩ :=
        exists_mapM_dateByBlock answer settings session world transactions
      exact ⟨dated, blocks, later, dating, same, nofun⟩

theorem exists_walletFetch (replies : Replies) (settings : Settings) (session : Session) :
    ∃ found blocks, WalletFetch replies settings session found blocks := by
  cases booked : bookkeepingFrom replies with
  | error error =>
      refine ⟨.error error, session.blocks, fun operation => ?_, by simp only [booked]⟩
      rw [outcome_fetchOnChain, bookkeeping_surroundings, booked]
      rfl
  | ok transactions =>
      obtain ⟨listed, blocks, later, dated, kept⟩ :=
        exists_dated replies.surroundings settings session () transactions
      refine ⟨.ok listed, blocks, fun operation => ?_, ?_⟩
      · rw [outcome_fetchOnChain, bookkeeping_surroundings, booked]
        exact dated
      · simp only [booked]
        exact ⟨listed, rfl, kept⟩

end Fetches

end LightningGateway.Gateway
