import LightningGateway.Endpoint
import LightningGateway.Gateway.Lifecycle
import LightningGateway.Gateway.Request
import LightningGateway.Proofs.Courses

/-!
# Calls that change something

Six methods of the daemon issue an invoice or an address, move money, or open or close a channel.
Each belongs to one request. The request makes the call once at most, after everything that it has
to find out first, and makes no other call after it. No other request makes such a call, and no
subscription does.
-/

namespace LightningGateway

namespace Query

/-- A call of the daemon that changes something. -/
def changes : Query → Bool
  | call _ method _ =>
      ["invoice", "newaddr", "withdraw", "pay", "fundchannel", "close"].contains method
  | _ => false

/-- A question to the daemon, the chain server or the command line client. -/
def isCall : Query → Bool
  | call _ _ _ | chainCall _ _ | command _ => true
  | _ => false

theorem isCall_publish (event : NodeEvent) : (publish event).isCall = false := rfl

/-- A question that changes nothing. -/
def Harmless (query : Query) : Prop := query.changes = false

theorem harmless_of_isCall_eq_false {query : Query} (silent : query.isCall = false) :
    query.Harmless := by
  cases query with
  | call => cases silent
  | _ => rfl

theorem harmless_now : Harmless .now := rfl

theorem harmless_connect : Harmless .connect := rfl

theorem harmless_sleep (milliseconds : Nat) : Harmless (.sleep milliseconds) := rfl

theorem harmless_command (arguments : List String) : Harmless (.command arguments) := rfl

end Query

open Dialogue (AsksOnly asksOnly_pure asksOnly_query asksOnly_get asksOnly_modifyGet)

/-! ### Operations that change nothing -/

namespace Gateway

variable {α : Type}

/-- An operation that changes nothing, whatever it is answered. -/
abbrev Harmless (operation : Gateway α) : Prop := AsksOnly Query.Harmless operation

theorem harmless_fetchFunds (operation : Operation) : Harmless (fetchFunds operation) :=
  asksOnly_call fun _ => rfl

theorem harmless_fetchInvoices (operation : Operation) : Harmless (fetchInvoices operation) :=
  (asksOnly_call fun _ => rfl).bind fun _ => asksOnly_pure _

theorem harmless_fetchInfo (operation : Operation) : Harmless (fetchInfo operation) :=
  (asksOnly_call fun _ => rfl).bind fun _ => asksOnly_read.bind fun _ => asksOnly_pure _

theorem harmless_fetchForwards (operation : Operation) : Harmless (fetchForwards operation) :=
  (asksOnly_call fun _ => rfl).bind fun _ => asksOnly_pure _

theorem harmless_connectPeer (uri : String) : Harmless (connectPeer uri) :=
  (asksOnly_call fun _ => rfl).bind fun _ => asksOnly_pure _

theorem harmless_decoding {σ : Type} (operation : Operation) (request : String) :
    (decoding operation request : Dialogue σ _).AsksOnly Query.Harmless := by
  refine (asksOnly_query (Query.harmless_command _)).bind fun reply => ?_
  cases reply <;> exact Dialogue.asksOnly_pure _

theorem harmless_fetchPayments (operation : Operation) : Harmless (fetchPayments operation) := by
  refine (asksOnly_call fun _ => rfl).bind fun listing => .mapM (fun payment => ?_) _
  unfold completePayment
  cases payment.request? with
  | none => exact asksOnly_pure _
  | some request =>
      have remembered : Harmless (decodeRemembered operation request) := fun settings =>
        (Cache.asksOnly_remember (harmless_decoding operation request)).focus _ _
      exact remembered.bind fun _ => asksOnly_pure _

theorem harmless_dateByBlock (transaction : OnChainTransaction) :
    Harmless (dateByBlock transaction) := by
  refine .bind ?_ fun time => ?_
  · unfold blockTimeOf
    cases transaction.blockHeight with
    | none => exact asksOnly_pure _
    | some height =>
        have looked : (Chain.blockTime height).AsksOnly Query.Harmless :=
          Chain.asksOnly_blockTime (fun _ _ => rfl) height
        refine (asksOnly_lift (looked.focus _ _)).bind fun found => ?_
        cases found <;> exact asksOnly_pure _
  · cases time <;> exact asksOnly_pure _

theorem harmless_fetchOnChain (operation : Operation) : Harmless (fetchOnChain operation) := by
  rw [fetchOnChain_eq]
  refine (asksOnly_command (Query.harmless_command _)).bind fun income =>
    (asksOnly_command (Query.harmless_command _)).bind fun events =>
    .bind ((asksOnly_orClassify _ _).bind fun _ => asksOnly_orClassify _ _) fun transactions =>
    asksOnly_read.bind fun settings => ?_
  cases settings.hasChainServer with
  | true => exact .mapM harmless_dateByBlock transactions
  | false => exact asksOnly_pure _

theorem harmless_resolveAlias (nodePub : String) : Harmless (resolveAlias nodePub) := by
  refine (asksOnly_call fun _ => rfl).bind fun listing => ?_
  cases listing.nodes with
  | nil => exact asksOnly_throw _
  | cons node rest => exact asksOnly_pure _

theorem harmless_listChannels : Harmless listChannels := by
  rw [listChannels_eq]
  refine (harmless_fetchFunds _).bind fun funds => .mapM (fun channel => ?_) _
  refine (harmless_resolveAlias _).attempt.bind fun found => ?_
  cases found <;> exact asksOnly_pure _

/-! ### Operations that make one change -/

variable {β : Type} {method : String} {ready : List Answered → Prop}

/-- What an operation may have said that makes one change. It has failed without it, or it has
said what is needed to be ready, then made the change, and then no call any more. -/
inductive Committed (method : String) (ready : List Answered → Prop) :
    List Answered → Except Failure α → Prop where
  | refused {said : List Answered} (failure : Failure)
      (harmless : ∀ answered ∈ said, answered.query.Harmless) :
      Committed method ready said (.error failure)
  | made {before after : List Answered} {handle : Handle} {parameters : Json}
      {reply : Except TransportError Json} {result : Except Failure α}
      (prepared : ready before) (harmless : ∀ answered ∈ before, answered.query.Harmless)
      (silent : ∀ answered ∈ after, answered.query.isCall = false)
      (succeeds : ∀ value, result = .ok value → ∃ document, reply = .ok document) :
      Committed method ready (before ++ ⟨.call handle method parameters, reply⟩ :: after) result

/-- An operation that makes a change once at most, when it is ready for it, and succeeds only with
it. -/
def Commits (method : String) (ready : List Answered → Prop) (operation : Gateway α) : Prop :=
  ∀ settings said result, Goes settings operation said result → Committed method ready said result

theorem Committed.of_error {said : List Answered} {failure : Failure}
    (committed : Committed method ready said (.error failure : Except Failure α)) :
    Committed method ready said (.error failure : Except Failure β) := by
  cases committed with
  | refused _ harmless => exact .refused failure harmless
  | made prepared harmless silent => exact .made prepared harmless silent nofun

theorem commits_throw (failure : Failure) :
    Commits method ready (throw failure : Gateway α) := by
  intro settings said result goes
  obtain ⟨rfl, rfl⟩ := goes_throw.mp goes
  exact .refused failure nofun

theorem commits_throw_bind (failure : Failure) (next : α → Gateway β) :
    Commits method ready (throw failure >>= next) := by
  intro settings said result goes
  rcases goes_bind.mp goes with ⟨failure, begins, rfl⟩ | ⟨first, second, value, rfl, begins, -⟩
  · obtain ⟨rfl, -⟩ := goes_throw.mp begins
    exact .refused failure nofun
  · obtain ⟨-, never⟩ := goes_throw.mp begins
    cases never

theorem commits_call (operation : Operation) (codec : Codec α) (method : String)
    (parameters : Json) :
    Commits method (· = []) (call operation codec method parameters) := by
  intro settings said result goes
  rcases goes_call.mp goes with ⟨rfl, rfl⟩ | ⟨handle, reply, rfl, rfl⟩
  · exact .refused _ nofun
  · rw [← List.nil_append [_]]
    refine .made rfl nofun nofun fun value read => ?_
    cases reply with
    | error error => cases read
    | ok document => exact ⟨document, rfl⟩

/-- After the change nothing may be asked of anyone, but there may be more to do. -/
theorem Commits.bind {operation : Gateway α} {next : α → Gateway β}
    (commits : Commits method ready operation)
    (silent : ∀ value, AsksOnly (fun query => query.isCall = false) (next value)) :
    Commits method ready (operation >>= next) := by
  intro settings said result goes
  rcases goes_bind.mp goes with ⟨failure, begins, rfl⟩ | ⟨first, second, value, rfl, begins, later⟩
  · exact (commits settings said _ begins).of_error
  · -- The operation has succeeded, so it has made its change.
    generalize succeeded : (Except.ok value : Except Failure α) = found at begins
    cases commits settings first found begins with
    | refused failure _ => cases succeeded
    | made prepared harmless quiet succeeds =>
        rw [List.append_assoc, List.cons_append]
        refine .made prepared harmless (fun answered member => ?_) fun _ _ =>
          succeeds value succeeded.symm
        rcases List.mem_append.mp member with early | late
        · exact quiet answered early
        · exact silent value settings second result later answered late

theorem Commits.map {operation : Gateway α} (commits : Commits method ready operation)
    (change : α → β) : Commits method ready (change <$> operation) := by
  rw [map_eq_pure_bind]
  exact commits.bind fun value => asksOnly_pure (change value)

/-- What a harmless operation finds out may decide what is needed next. -/
theorem Commits.after {operation : Gateway α} {next : α → Gateway β}
    (ready : α → List Answered → Prop) (harmless : Harmless operation)
    (commits : ∀ value, Commits method (ready value) (next value)) :
    Commits method
      (fun said => ∃ first second value, said = first ++ second ∧
        (∃ settings, Goes settings operation first (.ok value)) ∧ ready value second)
      (operation >>= next) := by
  intro settings said result goes
  rcases goes_bind.mp goes with ⟨failure, begins, rfl⟩ | ⟨first, second, value, rfl, begins, later⟩
  · exact .refused failure (harmless settings said _ begins)
  · have early := harmless settings first _ begins
    cases commits value settings second result later with
    | refused failure late =>
        refine .refused failure fun answered member => ?_
        exact (List.mem_append.mp member).elim (early answered) (late answered)
    | made prepared late quiet succeeds =>
        rw [← List.append_assoc]
        refine .made ⟨first, _, value, rfl, ⟨settings, begins⟩, prepared⟩
          (fun answered member => ?_) quiet succeeds
        exact (List.mem_append.mp member).elim (early answered) (late answered)

theorem Commits.mono {weaker : List Answered → Prop} {operation : Gateway α}
    (commits : Commits method ready operation) (implies : ∀ said, ready said → weaker said) :
    Commits method weaker operation := by
  intro settings said result goes
  cases commits settings said result goes with
  | refused failure harmless => exact .refused failure harmless
  | made prepared harmless silent succeeds =>
      exact .made (implies _ prepared) harmless silent succeeds

end Gateway

/-! ### Requests -/

/-- What has to hold for coins to be sent: the wallet has an output, and unless all is sent, the
outputs are worth more than the amount, which is one of whole satoshis. -/
structure SendCoinsInput.Affordable (input : SendCoinsInput) (funds : Daemon.Funds) : Prop where
  some : funds.outputs ≠ []
  enough : input.sendAll = false →
    input.amount < Daemon.Funds.total (funds.outputs.map Daemon.Output.amount)
  whole : input.sendAll = false → ∃ sat, Amount.toWholeSat input.amount = .ok sat

theorem SendCoinsInput.whole_of_satoshiText {input : SendCoinsInput} {satoshi : String}
    (written : Gateway.satoshiText input = .ok satoshi) (part : input.sendAll = false) :
    ∃ sat, Amount.toWholeSat input.amount = .ok sat := by
  rw [Gateway.satoshiText, part] at written
  cases whole : Amount.toWholeSat input.amount with
  | error error =>
      rw [whole] at written
      cases written
  | ok sat => exact ⟨sat, rfl⟩

namespace Request

/-- The method of the call by which a request changes something. -/
def change? : Request → Option String
  | addInvoice _ _ _ _ => some "invoice"
  | newAddress _ => some "newaddr"
  | sendCoins _ => some "withdraw"
  | sendPayment _ _ _ _ => some "pay"
  | openChannel _ _ _ => some "fundchannel"
  | closeChannel _ _ => some "close"
  | _ => none

/-- What has to be said before a request makes its change: what it has to find out first was
answered, and what it has found out does not speak against the change. -/
def Ready : Request → List Answered → Prop
  | addInvoice _ _ _ _, said => ∃ label, said = [⟨.label, label⟩]
  | sendCoins input, said =>
      ∃ handle reply funds, said = [⟨.call handle "listfunds" (.object []), reply⟩] ∧
        Gateway.reading Daemon.Funds.codec reply = .ok funds ∧ input.Affordable funds
  | openChannel _ nodeUri _, said =>
      ∃ handle reply document,
        said = [⟨.call handle "connect" (.object [("id", .string nodeUri)]), reply⟩] ∧
          Gateway.reading Codec.json reply = .ok document
  | _, said => said = []

end Request

namespace Gateway

theorem exists_reply_of_goes_call {α : Type} {settings : Settings} {operation : Operation}
    {codec : Codec α} {method : String} {parameters : Json} {said : List Answered} {value : α}
    (goes : Goes settings (call operation codec method parameters) said (.ok value)) :
    ∃ handle reply, said = [⟨.call handle method parameters, reply⟩] ∧
      reading codec reply = .ok value := by
  rcases goes_call.mp goes with ⟨-, failed⟩ | ⟨handle, reply, rfl, found⟩
  · cases failed
  · refine ⟨handle, reply, rfl, ?_⟩
    cases read : reading codec reply with
    | error error =>
        rw [read] at found
        cases found
    | ok other =>
        rw [read] at found
        cases found
        rfl

theorem commits_addInvoice (value : Msat) (memo : String) (expiry : UInt64) (isKeysend : Bool) :
    Commits "invoice" (Request.addInvoice value memo expiry isKeysend).Ready
      (addInvoice value memo expiry isKeysend) := by
  have asks : Harmless (ask .label) := asksOnly_ask rfl
  refine (Commits.after (fun _ said => said = []) asks fun label =>
    (commits_call _ _ _ _).bind fun _ => asksOnly_pure _).mono ?_
  rintro said ⟨first, second, label, rfl, ⟨settings, asked⟩, rfl⟩
  obtain ⟨label, rfl, -⟩ := goes_ask.mp asked
  exact ⟨label, rfl⟩

theorem commits_newAddress (input : NewAddressInput) :
    Commits "newaddr" (Request.newAddress input).Ready (newAddress input) := by
  refine (commits_call _ _ _ _).bind fun answer => ?_
  cases answer.ofType input.addressType with
  | none => exact asksOnly_throw _
  | some address => exact asksOnly_pure address

theorem commits_sendPayment (request : String) (timeoutSeconds : UInt32) (feeLimit : Msat)
    (amount : Option Msat) :
    Commits "pay" (Request.sendPayment request timeoutSeconds feeLimit amount).Ready
      (sendPayment request timeoutSeconds feeLimit amount) :=
  (commits_call _ _ _ _).bind fun _ =>
    (asksOnly_lift (Dialogue.asksOnly_modifyGet _)).bind fun _ => asksOnly_pure _

theorem commits_openChannel (amount : Msat) (nodeUri : String) (targetConfirmations : UInt32) :
    Commits "fundchannel" (Request.openChannel amount nodeUri targetConfirmations).Ready
      (openChannel amount nodeUri targetConfirmations) := by
  refine (Commits.after (fun _ said => said = []) (harmless_connectPeer nodeUri) fun _ =>
    (commits_call _ _ _ _).bind fun _ => asksOnly_pure _).mono ?_
  rintro said ⟨first, second, connected, rfl, ⟨settings, asked⟩, rfl⟩
  rw [List.append_nil]
  rcases goes_bind.mp asked with ⟨failure, -, never⟩ | ⟨before, after, document, rfl, called, last⟩
  · cases never
  · obtain ⟨rfl, -⟩ := goes_pure.mp last
    rw [List.append_nil]
    obtain ⟨handle, reply, said, read⟩ := exists_reply_of_goes_call called
    exact ⟨handle, reply, document, said, read⟩

theorem commits_closeChannel (channelId : String) (force : Bool) :
    Commits "close" (Request.closeChannel channelId force).Ready
      (closeChannel channelId force) := by
  refine (commits_call _ _ _ _).bind fun answer => ?_
  cases answer.kind with
  | unopened => exact asksOnly_throw _
  | agreed | unilateral =>
      dsimp only
      cases answer.txid with
      | none => exact asksOnly_throw _
      | some txid => exact asksOnly_pure txid

theorem commits_sendCoins (input : SendCoinsInput) :
    Commits "withdraw" (Request.sendCoins input).Ready (sendCoins input) := by
  unfold sendCoins
  refine (Commits.after (fun funds said => said = [] ∧ input.Affordable funds)
    (harmless_fetchFunds _) fun funds => ?_).mono ?_
  · -- Each check fails the request, or it is what makes the outputs suffice.
    dsimp only
    split
    · exact commits_throw_bind _ _
    next some =>
      split
      · exact commits_throw_bind _ _
      next enough =>
        cases written : satoshiText input with
        | error error => exact commits_throw _
        | ok satoshi =>
            refine ((commits_call _ _ _ _).bind fun answer => ?_).mono ?_
            · exact (asksOnly_ask (Query.isCall_publish _)).bind fun _ => asksOnly_pure _
            · rintro said rfl
              exact ⟨rfl, by simpa using some, by simpa using enough,
                SendCoinsInput.whole_of_satoshiText written⟩
  · rintro said ⟨first, second, funds, rfl, ⟨settings, asked⟩, rfl, affordable⟩
    rw [List.append_nil]
    obtain ⟨handle, reply, said, read⟩ := exists_reply_of_goes_call asked
    exact ⟨handle, reply, funds, said, read, affordable⟩

end Gateway

namespace Request

open Gateway (Commits Harmless AsksOnly)

theorem commits_perform {request : Request} {method : String}
    (changing : request.change? = some method) :
    Commits method request.Ready request.perform := by
  cases request with
  | addInvoice value memo expiry isKeysend =>
      cases changing
      exact (Gateway.commits_addInvoice value memo expiry isKeysend).map _
  | newAddress input =>
      cases changing
      exact (Gateway.commits_newAddress input).map _
  | sendCoins input =>
      cases changing
      exact (Gateway.commits_sendCoins input).map _
  | sendPayment request timeoutSeconds feeLimit amount =>
      cases changing
      exact (Gateway.commits_sendPayment request timeoutSeconds feeLimit amount).map _
  | openChannel amount nodeUri targetConfirmations =>
      cases changing
      exact (Gateway.commits_openChannel amount nodeUri targetConfirmations).map _
  | closeChannel channelId force =>
      cases changing
      exact (Gateway.commits_closeChannel channelId force).map _
  | _ => cases changing

theorem harmless_perform {request : Request} (unchanging : request.change? = none) :
    Harmless request.perform := by
  cases request with
  | walletBalance =>
      exact ((Gateway.harmless_fetchFunds _).bind fun _ => Gateway.asksOnly_pure _).map _
  | listAll successfulOnly page =>
      rw [perform, Gateway.listAll_eq]
      refine .map ((Gateway.harmless_fetchInvoices _).bind fun invoices => ?_) _
      refine (Gateway.harmless_fetchOnChain _).bind fun transactions => ?_
      refine (Gateway.harmless_fetchPayments _).bind fun payments => ?_
      exact (Gateway.harmless_fetchInfo _).bind fun info => Gateway.asksOnly_pure _
  | listInvoices =>
      exact ((Gateway.harmless_fetchInvoices _).bind fun _ => Gateway.asksOnly_pure _).map _
  | listOnChain =>
      rw [perform, Gateway.listOnChain_eq]
      exact ((Gateway.harmless_fetchOnChain _).bind fun _ =>
        (Gateway.harmless_fetchInfo _).bind fun _ => Gateway.asksOnly_pure _).map _
  | listPayments =>
      exact ((Gateway.harmless_fetchPayments _).bind fun _ => Gateway.asksOnly_pure _).map _
  | decodePayRequest request =>
      exact AsksOnly.map (fun _ => Gateway.harmless_decoding _ _) _
  | feeRevenue =>
      exact ((Gateway.harmless_fetchForwards _).bind fun _ =>
        (Gateway.asksOnly_ask Query.harmless_now).bind fun _ => Gateway.asksOnly_pure _).map _
  | nodeInfo => exact (Gateway.harmless_fetchInfo _).map _
  | unlockWallet => exact (Gateway.asksOnly_pure true).map _
  | connectPeer uri => exact (Gateway.harmless_connectPeer uri).map _
  | resolveAlias nodePub => exact (Gateway.harmless_resolveAlias nodePub).map _
  | listChannels => exact Gateway.harmless_listChannels.map _
  | _ => cases unchanging

/-- How a request deals with what it changes: it makes no change but its own, and that once at
most, when it is ready for it and with no call after it, and it succeeds only if the change was
made and has succeeded. -/
structure Prudent (request : Request) (said : List Answered) (result : Except Failure Json) :
    Prop where
  once : (said.filter fun answered => answered.query.changes).length ≤ 1
  readyAndLast : ∀ before change after, said = before ++ change :: after →
    change.query.changes = true →
      (∃ handle method parameters, request.change? = some method ∧
        change.query = .call handle method parameters) ∧
      request.Ready before ∧
      ∀ later ∈ after, later.query.isCall = false
  made : ∀ method answer, request.change? = some method → result = .ok answer →
    ∃ before handle parameters document after,
      said = before ++ ⟨.call handle method parameters, .ok document⟩ :: after

theorem prudent_of_harmless {request : Request} {said : List Answered}
    {result : Except Failure Json} (harmless : ∀ answered ∈ said, answered.query.Harmless)
    (fails : ∀ method answer, request.change? = some method → result ≠ .ok answer) :
    request.Prudent said result where
  once := by
    have none : (said.filter fun answered => answered.query.changes) = [] :=
      List.filter_eq_nil_iff.mpr fun answered member changes => by
        rw [harmless answered member] at changes
        cases changes
    rw [none]
    exact Nat.zero_le 1
  readyAndLast := by
    rintro before change after rfl changes
    rw [harmless change (by simp)] at changes
    cases changes
  made method answer changing succeeded := absurd succeeded (fails method answer changing)

theorem changes_of_change? {request : Request} {method : String}
    (changing : request.change? = some method) (handle : Handle) (parameters : Json) :
    (Query.call handle method parameters).changes = true := by
  cases request <;> cases changing <;> rfl

/-- There is one way to cut what was said at the only change in it. -/
theorem eq_of_append_cons {before after first second : List Answered} {here there : Answered}
    (early : ∀ answered ∈ before, answered.query.Harmless)
    (late : ∀ answered ∈ after, answered.query.Harmless)
    (same : before ++ here :: after = first ++ there :: second)
    (changes : there.query.changes = true) :
    before = first ∧ here = there ∧ after = second := by
  induction before generalizing first with
  | nil =>
      cases first with
      | nil =>
          cases same
          exact ⟨rfl, rfl, rfl⟩
      | cons other rest =>
          obtain ⟨rfl, rfl⟩ := List.cons.inj same
          rw [late there (by simp)] at changes
          cases changes
  | cons answered before ih =>
      cases first with
      | nil =>
          obtain ⟨rfl, -⟩ := List.cons.inj same
          rw [early answered List.mem_cons_self] at changes
          cases changes
      | cons other rest =>
          obtain ⟨rfl, rest⟩ := List.cons.inj same
          obtain ⟨rfl, here, after⟩ :=
            ih (fun other member => early other (List.mem_cons_of_mem _ member)) rest
          exact ⟨rfl, here, after⟩

theorem prudent_of_committed {request : Request} {method : String} {said : List Answered}
    {result : Except Failure Json} (changing : request.change? = some method)
    (committed : Gateway.Committed method request.Ready said result) :
    request.Prudent said result := by
  cases committed with
  | refused failure harmless => exact prudent_of_harmless harmless fun _ _ _ => nofun
  | @made before after handle parameters reply _ prepared early silent succeeds =>
      have late (answered) (member : answered ∈ after) : answered.query.Harmless :=
        Query.harmless_of_isCall_eq_false (silent answered member)
      have none {said : List Answered} (harmless : ∀ answered ∈ said, answered.query.Harmless) :
          (said.filter fun answered => answered.query.changes) = [] :=
        List.filter_eq_nil_iff.mpr fun answered member => by
          simp [show answered.query.changes = false from harmless answered member]
      refine ⟨?_, fun first change second same changes => ?_, fun other answer own done => ?_⟩
      · have changes := changes_of_change? changing handle parameters
        simp [none early, none late, changes]
      · obtain ⟨rfl, rfl, rfl⟩ := eq_of_append_cons early late same changes
        exact ⟨⟨handle, method, parameters, changing, rfl⟩, prepared, silent⟩
      · obtain ⟨document, rfl⟩ := succeeds answer done
        obtain rfl : method = other := Option.some.inj (changing.symm.trans own)
        exact ⟨before, handle, parameters, document, after, rfl⟩

end Request

/-! ### Subscriptions -/

section Subscriptions

variable {σ κ α : Type}

/-- Takes turns of a subscription, one after another. -/
def Turn.repeated (turn : κ → Dialogue σ (Turn α × κ)) : Nat → κ → Dialogue σ κ
  | 0, stage => pure stage
  | count + 1, stage => turn stage >>= fun taken => Turn.repeated turn count taken.2

theorem Turn.asksOnly_repeated {kind : Query → Prop} {turn : κ → Dialogue σ (Turn α × κ)}
    (asks : ∀ stage, (turn stage).AsksOnly kind) (count : Nat) (stage : κ) :
    (Turn.repeated turn count stage).AsksOnly kind := by
  induction count generalizing stage with
  | zero => exact asksOnly_pure stage
  | succ count ih => exact (asks stage).bind fun taken => ih taken.2

variable {settings : Settings}

theorem Lifecycle.harmless_turn
    (alive : ∀ handle, Query.Harmless (.call handle settings.livenessMethod (.object [])))
    (stage : Lifecycle) : (Lifecycle.turn settings stage).AsksOnly Query.Harmless := by
  have linked (change : Link → Link) : (setLink change).AsksOnly Query.Harmless :=
    asksOnly_modifyGet _
  have failed (error : TransportError) : (failed error).AsksOnly Query.Harmless := by
    unfold Lifecycle.failed
    split <;> exact (linked _).bind fun _ => asksOnly_pure _
  have connects : (connect settings).AsksOnly Query.Harmless := by
    refine (linked _).bind fun _ => (asksOnly_query Query.harmless_connect).bind fun found => ?_
    cases found with
    | error error => exact failed error
    | ok handle =>
        refine (asksOnly_query (alive handle)).bind fun reply => ?_
        cases reply with
        | error error => exact failed error
        | ok document => exact (linked _).bind fun _ => asksOnly_pure _
  cases stage with
  | starting =>
      refine asksOnly_get.bind fun session => ?_
      split
      · exact asksOnly_pure _
      · exact connects
  | retrying => exact (asksOnly_query (Query.harmless_sleep _)).bind fun _ => connects
  | finished => exact asksOnly_pure _

theorem InvoiceFeed.harmless_turn (stage : InvoiceFeed) :
    (InvoiceFeed.turn settings stage).AsksOnly Query.Harmless := by
  cases stage with
  | starting =>
      refine (Gateway.harmless_fetchInvoices _ settings).bind fun found => ?_
      cases found <;> exact asksOnly_pure _
  | waiting last =>
      refine AsksOnly.bind ?_ fun _ => asksOnly_pure _
      cases last with
      | none => exact asksOnly_pure _
      | some last =>
          have waits : Gateway.Harmless (Gateway.waitForSettlement last) :=
            (Gateway.asksOnly_call fun _ => rfl).bind fun _ => Gateway.asksOnly_pure _
          refine (waits settings).bind fun found => ?_
          cases found <;> exact asksOnly_pure _

theorem Polling.asksOnly_turn {kind : Query → Prop} {sleep : Nat → Dialogue σ Unit}
    {fetch : Dialogue σ (Except Failure (List α))}
    (sleeps : ∀ milliseconds, (sleep milliseconds).AsksOnly kind) (fetches : fetch.AsksOnly kind)
    (interval : Nat) (state : Polling α) :
    (Polling.turn sleep fetch interval state).AsksOnly kind := by
  unfold Polling.turn
  split
  · exact asksOnly_pure _
  · split
    · exact asksOnly_pure _
    · split
      · refine (sleeps _).bind fun _ => fetches.bind fun found => ?_
        cases found <;> exact asksOnly_pure _
      · refine fetches.bind fun found => ?_
        cases found <;> exact asksOnly_pure _

theorem ForwardFeed.harmless_turn (stage : ForwardFeed) :
    (ForwardFeed.turn settings stage).AsksOnly Query.Harmless := by
  cases stage with
  | starting =>
      refine (Gateway.harmless_fetchForwards _ settings).bind fun found => ?_
      cases found <;> exact asksOnly_pure _
  | polling state =>
      have fetches : Gateway.Harmless Gateway.fetchForwardEvents :=
        (Gateway.harmless_fetchForwards _).bind fun _ => Gateway.asksOnly_pure _
      have turns := Polling.asksOnly_turn
        (fun milliseconds => asksOnly_query (Query.harmless_sleep milliseconds))
        (fetches settings) settings.pollInterval state
      exact turns.bind fun _ => asksOnly_pure _
  | finished => exact asksOnly_pure _

end Subscriptions

theorem Plan.harmless_liveness (config : Config) (handle : Handle) :
    Query.Harmless (.call handle (settingsOf config).livenessMethod (.object [])) := by
  unfold settingsOf
  cases config.backend.implementation
  rfl

/-- Each request makes the one change that it stands for once at most, as its last call, when all
that comes before has succeeded; the others and the subscriptions change nothing. -/
theorem change_once_and_last (config : Config) :
    (∀ (request : Request) (said : List Answered) (result : Except Failure Json),
      Gateway.Goes (Plan.settingsOf config) request.perform said result →
        request.Prudent said result) ∧
    (∀ count, (Turn.repeated (Lifecycle.turn (Plan.settingsOf config)) count .starting).AsksOnly
      Query.Harmless) ∧
    (∀ count, (Turn.repeated (InvoiceFeed.turn (Plan.settingsOf config)) count .starting).AsksOnly
      Query.Harmless) ∧
    ∀ count, (Turn.repeated (ForwardFeed.turn (Plan.settingsOf config)) count .starting).AsksOnly
      Query.Harmless := by
  refine ⟨fun request said result goes => ?_, fun count => ?_, fun count => ?_, fun count => ?_⟩
  · cases changing : request.change? with
    | some method =>
        exact request.prudent_of_committed changing (request.commits_perform changing _ _ _ goes)
    | none =>
        refine request.prudent_of_harmless (request.harmless_perform changing _ _ _ goes) ?_
        rw [changing]
        exact nofun
  · exact Turn.asksOnly_repeated (Lifecycle.harmless_turn (Plan.harmless_liveness config)) count _
  · exact Turn.asksOnly_repeated InvoiceFeed.harmless_turn count _
  · exact Turn.asksOnly_repeated ForwardFeed.harmless_turn count _

/-- A daemon with one output in its wallet, which sends what it is asked to send. -/
def payingDaemon : Replies :=
  .answering (.ok 0)
    (fun method =>
      if method = "listfunds" then
        .ok (Daemon.Funds.codec.write
          ⟨[⟨"aa", 1, 3000000, .confirmed, false⟩], []⟩)
      else .ok (.object [("txid", .string "bb")]))
    fun _ => .error .missingResult

/-- Coins for the rent. -/
def rent : SendCoinsInput := ⟨"bc1q", 2000000, none, none, none, "rent", false⟩

/-- Coins are sent after a look at the outputs of the wallet, and then it is made known. -/
theorem change_once_in_withdrawal :
    ∃ said result,
      Gateway.Goes (Plan.settingsOf .standard)
        (Request.sendCoins rent).perform said result ∧
      said.map (fun answered => answered.query.changes) = [false, true, false] ∧
      result.isOk = true ∧ (Request.sendCoins rent).Prudent said result := by
  obtain ⟨said, goes, noted⟩ := Dialogue.exists_goes_run payingDaemon.surroundings
    ((Request.sendCoins rent).perform.toDialogue
      (Plan.settingsOf .standard))
    { Session.fresh 1 1 with link := .establish 0 } () []
  refine ⟨said, _, goes, ?_, ?_, (change_once_and_last .standard).1 _ _ _ goes⟩
  · have changes := congrArg (List.map Query.changes) noted
    rw [List.nil_append, List.map_map] at changes
    refine changes.symm.trans ?_
    decide +kernel
  · decide +kernel

end LightningGateway
