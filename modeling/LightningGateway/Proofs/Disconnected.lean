import LightningGateway.Proofs.Polls
import LightningGateway.Proofs.Turns

/-!
# Without a connection

Operations reach the daemon through calls, and a call fails if the connection is not ready. An
operation that begins with a call fails with it, before anything is asked. Two requests do not
begin with one: unlocking needs no daemon at all, and payment requests are decoded by the command
line client. The listing of wallet transactions looks up the tip of the chain while it asks that
client for the reports of the bookkeeper. So it fails in its first poll, as unavailable unless a
report that is there by then fails.
-/

namespace LightningGateway

theorem Link.transport_of_ne_ready {link : Link} (unready : link.phase ≠ .ready) :
    link.transport = .error notReady := by
  obtain ⟨phase, handle⟩ := link
  cases phase with
  | ready => exact absurd rfl unready
  | uninitialized | connecting | offline => rfl

theorem Dialogue.run_of_advance_ended {σ α ω : Type} (answer : Surroundings ω)
    {dialogue : Dialogue σ α} {state after : σ} {value : α} (world : ω)
    (ends : dialogue.advance state = (.ended value, after)) :
    dialogue.run answer state world = (value, after, world) := by
  induction dialogue generalizing state with
  | done other =>
      cases ends
      rfl
  | read next ih => exact ih state ends
  | write changed next ih => exact ih ends
  | ask query next => cases ends

/-! ### What was heard -/

/-- What the command line client has answered to some arguments, if that is what was asked. -/
def Answered.output? (arguments : List String) :
    Answered → Option (Except TransportError String)
  | ⟨.command given, reply⟩ => if given = arguments then some reply else none
  | _ => none

namespace Event

/-- What the command line client was heard to answer to some arguments. -/
def output? (arguments : List String) (events : List Event) :
    Option (Except TransportError String) :=
  (answers events).findSome? (Answered.output? arguments)

variable {arguments given : List String} {events : List Event}

@[simp]
theorem output?_nil : output? arguments [] = none := rfl

@[simp]
theorem output?_put (query : Query) :
    output? arguments (.put query :: events) = output? arguments events := rfl

theorem output?_heard (reply : Except TransportError String) :
    output? arguments (.heard ⟨.command given, reply⟩ :: events) =
      if given = arguments then some reply else output? arguments events := by
  change (Answered.mk (.command given) reply :: answers events).findSome? _ = _
  rw [List.findSome?_cons, Answered.output?]
  by_cases same : given = arguments
  · rw [if_pos same, if_pos same]
  · rw [if_neg same, if_neg same]
    rfl

@[simp]
theorem output?_dropped (queries : List Query) :
    output? arguments (queries.map .dropped) = none := by
  rw [output?, answers_dropped]
  rfl

theorem output?_append_dropped (queries : List Query) :
    output? arguments (events ++ queries.map .dropped) = output? arguments events := by
  rw [output?, answers_append, answers_dropped, List.append_nil]
  rfl

theorem output?_append_of_some {reply : Except TransportError String}
    (heard : output? arguments events = some reply) (more : List Event) :
    output? arguments (events ++ more) = some reply := by
  rw [output?, answers_append, List.findSome?_append]
  rw [output?] at heard
  rw [heard]
  rfl

/-- The error in the reports of the bookkeeper, as far as they were heard. -/
def reportError? (events : List Event) : Option TransportError :=
  match output? ["bkpr-listincome"] events, output? ["bkpr-listaccountevents"] events with
  | some (.error error), _ => some error
  | _, some (.error error) => some error
  | some (.ok income), some (.ok movements) =>
      match Daemon.Bookkeeping.parseIncome income >>=
        Daemon.Bookkeeping.applyHeights movements with
      | .error error => some error
      | .ok _ => none
  | _, _ => none

theorem reportError?_append_dropped (queries : List Query) :
    reportError? (events ++ queries.map .dropped) = reportError? events := by
  simp only [reportError?, output?_append_dropped]

theorem reportError?_of_output? {income movements : String}
    (first : output? ["bkpr-listincome"] events = some (.ok income))
    (second : output? ["bkpr-listaccountevents"] events = some (.ok movements)) :
    reportError? events =
      match Daemon.Bookkeeping.parseIncome income >>=
        Daemon.Bookkeeping.applyHeights movements with
      | .error error => some error
      | .ok _ => none := by
  rw [reportError?, first, second]

end Event

namespace Gateway

variable {α β : Type} {settings : Settings} {session after : Session} {events : List Event}

/-- An operation that fails before it asks anything if there is no connection. -/
structure Guarded (operation : Gateway α) : Prop where
  fails : ∀ (settings : Settings) (session : Session) {failure : Failure},
    session.link.transport = .error failure →
      (operation.toDialogue settings).advance session = (.ended (.error failure), session)

/-! ### Guarded operations -/

theorem guarded_call (operation : Operation) (codec : Codec α) (method : String)
    (parameters : Json) : Guarded (call operation codec method parameters) where
  fails settings session _ disconnected := by rw [advance_call, disconnected]

theorem Guarded.bind {operation : Gateway α} (guarded : Guarded operation)
    (next : α → Gateway β) : Guarded (operation >>= next) where
  fails settings session _ disconnected := by
    change (operation.toDialogue settings >>=
      ExceptT.bindCont fun value => next value settings).advance session = _
    rw [Dialogue.advance_bind, guarded.fails settings session disconnected]
    rfl

theorem Guarded.map {operation : Gateway α} (guarded : Guarded operation) (change : α → β) :
    Guarded (change <$> operation) := by
  rw [map_eq_pure_bind]
  exact guarded.bind _

theorem guarded_fetchInvoices (operation : Operation) : Guarded (fetchInvoices operation) :=
  (guarded_call ..).bind _

theorem guarded_fetchInfo (operation : Operation) : Guarded (fetchInfo operation) :=
  (guarded_call ..).bind _

theorem guarded_fetchPayments (operation : Operation) : Guarded (fetchPayments operation) :=
  (guarded_call ..).bind _

theorem guarded_fetchForwards (operation : Operation) : Guarded (fetchForwards operation) :=
  (guarded_call ..).bind _

theorem guarded_connectPeer (uri : String) : Guarded (connectPeer uri) :=
  (guarded_call ..).bind _

theorem guarded_fetchFunds (operation : Operation) : Guarded (fetchFunds operation) :=
  guarded_call ..

/-! ### The wallet transactions -/

section Wallet

open Braid (Polls Reached polls_strand_once)
open Event (output? reportError?)

variable {operation : Operation}

theorem polls_command {arguments : List String} {reached : Reached Session Failure String}
    (polls : Polls (alone (command operation arguments) settings) session events reached after) :
    after = session ∧
      (events = [.put (.command arguments)] ∧ (∃ rest, reached = .going rest) ∨
        ∃ reply, events = [.put (.command arguments), .heard ⟨.command arguments, reply⟩] ∧
          reached = .ended (classified operation reply)) := by
  have classify (reply : Except TransportError String) :
      ((orClassify operation reply).toDialogue settings).advance session =
        (.ended (classified operation reply), session) := by
    cases reply <;> rfl
  obtain ⟨same, ⟨put, rest⟩ | heard⟩ := polls_strand_once rfl classify polls
  · exact ⟨same, .inl ⟨put, _, rest⟩⟩
  · exact ⟨same, .inr heard⟩

/-- Both reports have come, or one of them has failed, or one of them is not there yet. -/
theorem polls_bookkeeperReports {reached : Reached Session Failure (String × String)}
    (polls : Polls (bookkeeperReports operation settings) session events reached after) :
    (∃ income movements, reached = .ended (.ok (income, movements)) ∧
        output? ["bkpr-listincome"] events = some (.ok income) ∧
        output? ["bkpr-listaccountevents"] events = some (.ok movements)) ∨
      (∀ reports, reached ≠ .ended (.ok reports)) ∧
        reached.failure? = (reportError? events).map (Failure.ofError operation) := by
  cases polls with
  | firstFails fails second combine =>
      obtain ⟨-, ⟨-, rest, same⟩ | ⟨reply, rfl, same⟩⟩ := polls_command fails
      · cases same
      · cases reply with
        | ok income => cases same
        | error error =>
            cases same
            exact .inr ⟨(fun _ same => nomatch same),
              by simp [reportError?, Event.output?_heard, Reached.failure?]⟩
  | secondFails goes unfailed fails combine =>
      obtain ⟨rfl, early⟩ := polls_command goes
      obtain ⟨-, ⟨-, rest, same⟩ | ⟨reply, rfl, same⟩⟩ := polls_command fails
      · cases same
      · cases reply with
        | ok movements => cases same
        | error error =>
            cases same
            rcases early with ⟨rfl, rest, rfl⟩ | ⟨reply, rfl, rfl⟩
            · exact .inr ⟨(fun _ same => nomatch same),
                by simp [reportError?, Event.output?_heard, Reached.failure?]⟩
            · cases reply with
              | error error => cases unfailed
              | ok income =>
                  exact .inr ⟨(fun _ same => nomatch same),
                    by simp [reportError?, Event.output?_heard, Reached.failure?]⟩
  | bothGo goes unfailed follows also combine =>
      rw [Reached.failure?_both Prod.mk unfailed also]
      obtain ⟨rfl, early⟩ := polls_command goes
      obtain ⟨-, late⟩ := polls_command follows
      rcases early with ⟨rfl, rest, rfl⟩ | ⟨error | income, rfl, rfl⟩
      · rcases late with ⟨rfl, rest, rfl⟩ | ⟨error | movements, rfl, rfl⟩
        · exact .inr ⟨(fun _ same => nomatch same), rfl⟩
        · cases also
        · exact .inr ⟨(fun _ same => nomatch same), by simp [reportError?, Event.output?_heard]⟩
      · cases unfailed
      · rcases late with ⟨rfl, rest, rfl⟩ | ⟨error | movements, rfl, rfl⟩
        · exact .inr ⟨(fun _ same => nomatch same), by simp [reportError?, Event.output?_heard]⟩
        · cases also
        · exact .inl ⟨income, movements, rfl, by simp [Event.output?_heard],
            by simp [Event.output?_heard]⟩

variable {link : Link} {fails : Failure → Prop}

/-- What is remembered of blocks has nothing to do with the connection. -/
theorem keeps_lift_blocks (dialogue : Dialogue (Cache UInt32 BlockTime) α) :
    Keeps (fun session => session.link = link) fails
      (lift (dialogue.focus Session.blocks fun blocks session => { session with blocks })) := by
  intro settings
  have leaves : (dialogue.focus Session.blocks fun blocks session =>
      { session with blocks }).Keeps (fun session => session.link = link) fun _ => True := by
    induction dialogue with
    | done value => trivial
    | read next ih => exact fun session _ => ih session.blocks
    | write blocks next ih => exact fun session held => ⟨held, ih⟩
    | ask query next ih => exact ih
  exact leaves.bind fun value _ error same => nomatch same

theorem keeps_dateByBlock (transaction : OnChainTransaction) :
    Keeps (fun session => session.link = link) fails (dateByBlock transaction) := by
  have looked :
      Keeps (fun session => session.link = link) fails (blockTimeOf transaction) := by
    unfold blockTimeOf
    cases transaction.blockHeight with
    | none => exact keeps_pure _
    | some height =>
        refine (keeps_lift_blocks _).bind fun found => ?_
        cases found <;> exact keeps_pure _
  refine looked.bind fun time => ?_
  cases time <;> exact keeps_pure _

theorem keeps_datingByBlocks (transactions : List OnChainTransaction) :
    (datingByBlocks transactions settings).Keeps (fun session => session.link = link) fails := by
  unfold datingByBlocks
  split
  · refine Braid.keeps_all fun dialogue member => ?_
    simp only [List.map_map, List.mem_map] at member
    obtain ⟨transaction, -, rfl⟩ := member
    exact keeps_dateByBlock transaction settings
  · exact keeps_pure transactions settings

theorem keeps_fetchingOnChain (operation : Operation) :
    (fetchingOnChain operation settings).Keeps (fun session => session.link = link)
      fun _ => True :=
  ⟨⟨⟨keeps_command _ _ settings, keeps_command _ _ settings⟩, fun _ =>
    ((keeps_orClassify _ _).bind fun _ => keeps_orClassify _ _) settings⟩, keeps_datingByBlocks⟩

theorem failure?_datingByBlocks {transactions : List OnChainTransaction}
    {reached : Reached Session Failure (List OnChainTransaction)}
    (polls : Polls (datingByBlocks transactions settings) session events reached after) :
    reached.failure? = none := by
  have keeps : (datingByBlocks transactions settings).Keeps
      (fun later => later.link = session.link) fun _ => False :=
    keeps_datingByBlocks transactions
  cases failed : reached.failure? with
  | none => rfl
  | some error =>
      obtain rfl := Reached.eq_of_failure? failed
      exact ((polls.keeps keeps rfl).1 error rfl).elim

theorem polls_readReports {reports : String × String}
    {reached : Reached Session Failure (List OnChainTransaction)}
    (polls : Polls (alone (readReports operation reports) settings) session events reached after) :
    events = [] ∧ reached = .ended (classified operation
      (Daemon.Bookkeeping.parseIncome reports.1 >>=
        Daemon.Bookkeeping.applyHeights reports.2)) := by
  have advanced : ((readReports operation reports).toDialogue settings).advance session =
      (.ended (classified operation (Daemon.Bookkeeping.parseIncome reports.1 >>=
        Daemon.Bookkeeping.applyHeights reports.2)), session) := by
    unfold readReports
    cases Daemon.Bookkeeping.parseIncome reports.1 with
    | error error => rfl
    | ok transactions =>
        change ((orClassify operation (Daemon.Bookkeeping.applyHeights reports.2
          transactions)).toDialogue settings).advance session = _
        change _ = (Dialogue.Halt.ended (classified operation
          (Daemon.Bookkeeping.applyHeights reports.2 transactions)), session)
        cases Daemon.Bookkeeping.applyHeights reports.2 transactions <;> rfl
  cases polls with
  | strand goes =>
      rw [advanced] at goes
      cases goes
      exact ⟨rfl, rfl⟩

/-- The wallet transactions cannot be fetched exactly if the reports that were heard fail. -/
theorem failure?_fetchingOnChain {reached : Reached Session Failure (List OnChainTransaction)}
    (polls : Polls (fetchingOnChain operation settings) session events reached after) :
    reached.failure? = (reportError? events).map (Failure.ofError operation) := by
  cases polls with
  | fails polls next =>
      cases polls with
      | fails polls next =>
          obtain ⟨_, _, same, -⟩ | ⟨-, failed⟩ := polls_bookkeeperReports polls
          · cases same
          · exact failed
      | continues polls follows =>
          obtain ⟨income, movements, same, first, second⟩ | ⟨unended, -⟩ :=
            polls_bookkeeperReports polls
          · cases same
            obtain ⟨rfl, same⟩ := polls_readReports follows
            rw [List.append_nil, Event.reportError?_of_output? first second]
            generalize Daemon.Bookkeeping.parseIncome _ >>= _ = read at same
            cases read with
            | ok transactions => cases same
            | error error =>
                cases same
                rfl
          · exact absurd rfl (unended _)
  | goesOn polls next =>
      cases polls with
      | goesOn polls next =>
          obtain ⟨_, _, same, -⟩ | ⟨-, unfailed⟩ := polls_bookkeeperReports polls
          · cases same
          · exact unfailed
      | continues polls follows =>
          obtain ⟨-, same⟩ := polls_readReports follows
          cases same
  | continues polls dates =>
      cases polls with
      | continues polls follows =>
          obtain ⟨income, movements, same, first, second⟩ | ⟨unended, -⟩ :=
            polls_bookkeeperReports polls
          · cases same
            obtain ⟨rfl, same⟩ := polls_readReports follows
            rw [failure?_datingByBlocks dates, Event.reportError?_of_output?
              (Event.output?_append_of_some (Event.output?_append_of_some first _) _)
              (Event.output?_append_of_some (Event.output?_append_of_some second _) _)]
            generalize Daemon.Bookkeeping.parseIncome _ >>= _ = read at same
            cases read with
            | error error => cases same
            | ok transactions => rfl
          · exact absurd rfl (unended _)

/-- Without a connection the listing of wallet transactions fails in its first poll: because of
the reports that are there by then, or else as unavailable. -/
theorem polls_listingOnChain (disconnected : session.link.transport = .error Link.notReady)
    {reached : Reached Session Failure (List OnChainTransaction)}
    (polls : Polls (listingOnChain settings) session events reached after) :
    reached = .ended (.error
      (((reportError? events).map (Failure.ofError .listOnChain)).getD Link.notReady)) := by
  -- Whatever the first strand has done, the second one finds the same connection.
  have refuses {between : Session} {early : List Event}
      {first : Reached Session Failure (List OnChainTransaction)}
      (goes : Polls (fetchingOnChain .listOnChain settings) session early first between) :
      (alone (fetchInfo .listOnChain) settings).Refuses Link.notReady between := by
    have same : between.link = session.link :=
      (goes.keeps (keeps_fetchingOnChain .listOnChain) rfl).2
    rw [← same] at disconnected
    exact Braid.refuses_strand
      ((guarded_fetchInfo .listOnChain).fails settings between disconnected)
  cases polls with
  | firstFails fails second combine =>
      rw [Event.reportError?_append_dropped, ← failure?_fetchingOnChain fails]
      rfl
  | secondFails goes unfailed fails combine =>
      obtain ⟨rfl, same, -⟩ := refuses goes _ _ _ fails
      cases same
      rw [List.append_nil, Event.reportError?_append_dropped, ← failure?_fetchingOnChain goes,
        unfailed]
      rfl
  | bothGo goes unfailed follows also combine =>
      obtain ⟨-, rfl, -⟩ := refuses goes _ _ _ follows
      cases also

end Wallet

end Gateway

namespace Request

variable {settings : Settings} {session after : Session} {events : List Event}
  {result : Except Failure Json}

/-- Requests that do not begin with a call of the daemon, or not with that alone. -/
def beginsElsewhere : Request → Bool
  | listOnChain | addInvoice .. | decodePayRequest _ | unlockWallet _ => true
  | _ => false

theorem refuses_joined (disconnected : session.link.transport = .error Link.notReady)
    (request : Request) (calls : request.beginsElsewhere = false) :
    (request.joined settings).Refuses Link.notReady session := by
  have alone {operation : Gateway Json} (guarded : Gateway.Guarded operation) :
      (Gateway.alone operation settings).Refuses Link.notReady session :=
    Braid.refuses_strand (guarded.fails settings session disconnected)
  cases request with
  | listOnChain | addInvoice | decodePayRequest | unlockWallet => cases calls
  | listAll =>
      have invoices := Braid.refuses_strand
        ((Gateway.guarded_fetchInvoices .listAll).fails settings session disconnected)
      exact (invoices.both rfl _).andThen _
  | listChannels =>
      have funds := Braid.refuses_strand
        ((Gateway.guarded_fetchFunds .listChannels).fails settings session disconnected)
      exact (funds.andThen _).andThen _
  | walletBalance => exact alone (((Gateway.guarded_fetchFunds _).bind _).map _)
  | listInvoices => exact alone (((Gateway.guarded_fetchInvoices _).bind _).map _)
  | listPayments => exact alone (((Gateway.guarded_fetchPayments _).bind _).map _)
  | feeRevenue => exact alone (((Gateway.guarded_fetchForwards _).bind _).map _)
  | newAddress => exact alone (((Gateway.guarded_call ..).bind _).map _)
  | sendCoins => exact alone (((Gateway.guarded_fetchFunds _).bind _).map _)
  | sendPayment => exact alone (((Gateway.guarded_call ..).bind _).map _)
  | nodeInfo => exact alone ((Gateway.guarded_fetchInfo _).map _)
  | connectPeer => exact alone ((Gateway.guarded_connectPeer _).map _)
  | resolveAlias => exact alone (((Gateway.guarded_call ..).bind _).map _)
  | openChannel => exact alone (((Gateway.guarded_connectPeer _).bind _).map _)
  | closeChannel => exact alone (((Gateway.guarded_call ..).bind _).map _)

theorem toDialogue_decodePayRequest (settings : Settings) (request : String) :
    (decodePayRequest request).perform.toDialogue settings =
      .ask (.command ["decodepay", request]) fun reply =>
        .done ((Gateway.classified .decodePayRequest
          (reply.bind Daemon.DecodedRequest.parse)).map PaymentRequest.codec.write) := by
  change Dialogue.bind (Gateway.decoding .decodePayRequest request) _ = _
  rw [Gateway.decoding_eq]
  refine congrArg (Dialogue.ask _) (funext fun reply => ?_)
  beta_reduce
  cases reply.bind Daemon.DecodedRequest.parse <;> rfl

/-- What a request returns without a connection, after all that was heard for it. -/
def withoutConnection (events : List Event) : Request → Option (Except Failure Json)
  | unlockWallet _ => some (.ok (.bool true))
  | decodePayRequest request =>
      (Event.output? ["decodepay", request] events).map fun reply =>
        (Gateway.classified .decodePayRequest (reply.bind Daemon.DecodedRequest.parse)).map
          PaymentRequest.codec.write
  | listOnChain =>
      some (.error (((Event.reportError? events).map (Failure.ofError .listOnChain)).getD
        Link.notReady))
  | _ => some (.error Link.notReady)

theorem withoutConnection_of_runs (disconnected : session.link.transport = .error Link.notReady)
    (request : Request)
    (runs : Braid.Runs (request.joined settings) session events result after) :
    request.withoutConnection events = some result := by
  cases elsewhere : request.beginsElsewhere with
  | false =>
      rw [(request.refuses_joined disconnected elsewhere).of_runs runs]
      cases request with
      | listOnChain | addInvoice | decodePayRequest | unlockWallet => cases elsewhere
      | _ => rfl
  | true =>
      cases request with
      | unlockWallet password =>
          have ends : ((unlockWallet password).perform.toDialogue settings).advance session =
              (.ended (.ok (.bool true)), session) := rfl
          rw [Braid.eq_of_runs_strand ends runs]
          rfl
      | addInvoice value memo expiry isKeysend =>
          have ends (label : String) := Gateway.Guarded.fails
            (((Gateway.guarded_call .addInvoice Daemon.CreatedInvoice.codec "invoice"
              (.object [("amount_msat", Gateway.invoiceAmount value), ("label", .string label),
                ("description", .string memo), ("expiry", .ofWord expiry)])).bind fun created =>
              pure (created.toInvoice label memo value isKeysend)).map Invoice.codec.write)
            settings session disconnected
          obtain ⟨label, -, rfl⟩ := Braid.exists_reply_of_runs rfl ends runs
          rfl
      | decodePayRequest request =>
          obtain ⟨reply, heard, rfl⟩ := Braid.exists_reply_of_runs
            (congrArg (Dialogue.advance · session) (toDialogue_decodePayRequest settings request))
            (fun reply => rfl) runs
          have output : Event.output? ["decodepay", request] events = some reply := by
            rw [Event.output?, heard]
            simp [Answered.output?]
          rw [withoutConnection, output]
          rfl
      | listOnChain =>
          cases runs with
          | ends polls =>
              cases polls with
              | fails polls next =>
                  cases Gateway.polls_listingOnChain disconnected polls
                  rfl
              | continues polls follows =>
                  cases Gateway.polls_listingOnChain disconnected polls
          | polled polls runs =>
              cases polls with
              | goesOn polls next | continues polls follows =>
                  cases Gateway.polls_listingOnChain disconnected polls
      | _ => cases elsewhere

/-- Whether a request fails as unavailable without a connection. Three requests depend on what was
heard for them, or do not fail at all. -/
def RefusedWithoutConnection (events : List Event) : Request → Prop
  | unlockWallet _ => False
  | decodePayRequest request =>
      ∃ reply error, Event.output? ["decodepay", request] events = some reply ∧
        reply.bind Daemon.DecodedRequest.parse = .error error ∧
        (Failure.ofError .decodePayRequest error).kind = .unavailable
  | listOnChain =>
      ∀ error, Event.reportError? events = some error →
        (Failure.ofError .listOnChain error).kind = .unavailable
  | _ => True

theorem unavailable_withoutConnection_iff (request : Request)
    (returned : request.withoutConnection events = some result) :
    (∃ detail, result = .error ⟨.unavailable, detail⟩) ↔
      request.RefusedWithoutConnection events := by
  have detailed (failure : Failure) :
      (∃ detail, failure = ⟨.unavailable, detail⟩) ↔ failure.kind = .unavailable :=
    ⟨by rintro ⟨detail, rfl⟩; rfl, fun kind => ⟨failure.detail, by rw [← kind]⟩⟩
  cases request with
  | unlockWallet password =>
      cases returned
      simp [RefusedWithoutConnection]
  | decodePayRequest request =>
      simp only [withoutConnection, Option.map_eq_some_iff] at returned
      obtain ⟨reply, heard, rfl⟩ := returned
      simp only [RefusedWithoutConnection, heard]
      cases read : reply.bind Daemon.DecodedRequest.parse with
      | error error => simp [Except.map, detailed, read]
      | ok decoded => simp [Except.map, read]
  | listOnChain =>
      cases returned
      simp only [RefusedWithoutConnection]
      cases Event.reportError? events with
      | some error => simp [detailed]
      | none => simp [Link.notReady]
  | _ =>
      cases returned
      simp [RefusedWithoutConnection, Link.notReady]

end Request

/-! ### Subscriptions -/

section Subscriptions

variable {ω : Type} (answer : Surroundings ω) (settings : Settings) {session : Session}
  (world : ω) {failure : Failure}

/-- A subscription that begins without a connection hands out the failure and ends. -/
theorem InvoiceFeed.history_disconnected
    (disconnected : session.link.transport = .error failure) (count : Nat) :
    Taken.history (InvoiceFeed.turn settings) answer (count + 1) .starting session world =
      (⟨[], .item (.error failure)⟩ :: List.replicate count ⟨[], .ended⟩, .waiting none,
        session, world) := by
  have failed := Dialogue.run_of_advance_ended (Surroundings.noting answer) (world, [])
    ((Gateway.guarded_fetchInvoices .listenInvoices).fails settings session disconnected)
  have first : Taken.next (InvoiceFeed.turn settings) answer .starting session world =
      (⟨[], .item (.error failure)⟩, .waiting none, session, world) := by
    unfold Taken.next InvoiceFeed.turn
    rw [Dialogue.run_bind, failed]
    rfl
  rw [Taken.history_succ first, Taken.history_ended rfl]

theorem ForwardFeed.history_disconnected
    (disconnected : session.link.transport = .error failure) (count : Nat) :
    Taken.history (ForwardFeed.turn settings) answer (count + 1) .starting session world =
      (⟨[], .item (.error failure)⟩ :: List.replicate count ⟨[], .ended⟩, .finished, session,
        world) := by
  have failed := Dialogue.run_of_advance_ended (Surroundings.noting answer) (world, [])
    ((Gateway.guarded_fetchForwards .listenForwards).fails settings session disconnected)
  have first : Taken.next (ForwardFeed.turn settings) answer .starting session world =
      (⟨[], .item (.error failure)⟩, .finished, session, world) := by
    unfold Taken.next ForwardFeed.turn
    rw [Dialogue.run_bind, failed]
    rfl
  rw [Taken.history_succ first, Taken.history_ended rfl]

end Subscriptions

/-- Without a connection each request returns what is known of it, in whatever order its answers
come: it fails as unavailable, except for the one that the command line client answers and the one
that needs no daemon. The listing of wallet transactions fails as unavailable unless a report that
has failed is there at once. The first item of a subscription is that failure, and nothing follows
it. -/
theorem unavailable_unless_ready {ω : Type} (answer : Surroundings ω) (settings : Settings)
    (session : Session) (world : ω) (unready : session.link.phase ≠ .ready) :
    (∀ request : Request,
      (∃ events,
        Braid.Runs (request.joined settings) session events
          (Gateway.outcome answer settings request.perform session world).1
          (Gateway.outcome answer settings request.perform session world).2.1 ∧
        ∀ answered ∈ Event.answers events, ∃ moment,
          answered.reply = (answer answered.query moment).1) ∧
      ∀ events result after,
        Braid.Runs (request.joined settings) session events result after →
          request.withoutConnection events = some result ∧
            ((∃ detail, result = .error ⟨.unavailable, detail⟩) ↔
              request.RefusedWithoutConnection events)) ∧
    (∀ count,
      (Taken.history (InvoiceFeed.turn settings) answer (count + 1) .starting session world).1 =
        ⟨[], .item (.error Link.notReady)⟩ :: List.replicate count ⟨[], .ended⟩) ∧
    ∀ count,
      (Taken.history (ForwardFeed.turn settings) answer (count + 1) .starting session world).1 =
        ⟨[], .item (.error Link.notReady)⟩ :: List.replicate count ⟨[], .ended⟩ := by
  have disconnected := Link.transport_of_ne_ready unready
  refine ⟨fun request => ⟨request.exists_runs_perform answer settings session world,
    fun events result after runs => ?_⟩, fun count => ?_, fun count => ?_⟩
  · have returned := request.withoutConnection_of_runs disconnected runs
    exact ⟨returned, request.unavailable_withoutConnection_iff returned⟩
  · rw [InvoiceFeed.history_disconnected answer settings world disconnected]
  · rw [ForwardFeed.history_disconnected answer settings world disconnected]

/-- Before the first attempt to connect a balance is unavailable, and so are the wallet
transactions while the command line client has answered nothing. -/
theorem balance_unavailable_before_attempt :
    let settings : Settings := ⟨.coreLightning, "getinfo", 2000, 2000, false⟩
    (∃ events detail after,
      Braid.Runs (Request.walletBalance.joined settings) (.fresh 1 1) events
        (.error ⟨.unavailable, detail⟩) after) ∧
      ∃ events detail after,
        Braid.Runs (Request.listOnChain.joined settings) (.fresh 1 1) events
          (.error ⟨.unavailable, detail⟩) after := by
  intro settings
  have refused := (unavailable_unless_ready
    (Replies.answering (.ok 0) (fun _ => .ok .null) fun _ => .ok "").surroundings settings
    (.fresh 1 1) () (by decide)).1
  constructor
  · obtain ⟨⟨events, runs, -⟩, returns⟩ := refused .walletBalance
    obtain ⟨detail, same⟩ := (returns _ _ _ runs).2.mpr trivial
    rw [same] at runs
    exact ⟨events, detail, _, runs⟩
  · have unanswered : (Request.listOnChain.joined settings).polled [fun _ => none] (.fresh 1 1) =
        ([.put (.command ["bkpr-listincome"]), .put (.command ["bkpr-listaccountevents"]),
            .dropped (.command ["bkpr-listincome"]),
            .dropped (.command ["bkpr-listaccountevents"])],
          .ended (.error Link.notReady), .fresh 1 1) := rfl
    obtain ⟨runs, -⟩ := Braid.runs_polled unanswered
    obtain ⟨detail, same⟩ := ((refused .listOnChain).2 _ _ _ runs).2.mpr fun error heard => by
      cases heard
    rw [same] at runs
    exact ⟨_, detail, _, runs⟩

/-- A client that knows a payment request, and nothing about the wallet. -/
def knowingClient : Replies :=
  .answering (.ok 0) (fun _ => .ok .null) fun arguments =>
    match arguments with
    | ["decodepay", _] =>
        .ok "\x7b\"currency\":\"bc\",\"created_at\":1,\"expiry\":60,\"payee\":\"02\",
          \"payment_hash\":\"00\",\"min_final_cltv_expiry\":18\x7d"
    | _ => .error (.command "no such command")

/-- Before the first attempt to connect the wallet is unlocked and a payment request is
decoded. -/
theorem requests_answered_before_attempt :
    let result (request : Request) :=
      (Gateway.outcome knowingClient.surroundings
        ⟨.coreLightning, "getinfo", 2000, 2000, false⟩ request.perform (.fresh 1 1) ()).1
    (result (.unlockWallet "")) = .ok (.bool true) ∧
      ∃ decoded, result (.decodePayRequest "lnbc1") = .ok decoded := by
  refine ⟨rfl, ?_⟩
  have decoded : (knowingClient (.command ["decodepay", "lnbc1"])).bind
      Daemon.DecodedRequest.parse = .ok ⟨"02", "00", none, 1, 60, "", none, 18, none, "bc"⟩ := by
    decide +kernel
  dsimp only [Gateway.outcome]
  rw [Request.toDialogue_decodePayRequest, Dialogue.run, Replies.surroundings]
  dsimp only
  rw [decoded]
  exact ⟨_, rfl⟩

end LightningGateway
