import Mathlib.Logic.Relation
import LightningGateway.Gateway.Lifecycle
import LightningGateway.Gateway.Request
import LightningGateway.Proofs.Courses
import LightningGateway.Proofs.Shapes
import LightningGateway.Proofs.Turns

/-!
# The notation of amounts

Surroundings that report some amounts as texts instead of numbers make no difference to any
request or subscription, whatever the session is in which it is carried out.
-/

namespace LightningGateway

open Document (Respelled Rewritten)

/-! ### Replies -/

namespace Daemon

/-- Where amounts stand in the reply to a call. -/
def replyShape : String → Option Shape
  | "listfunds" => some Funds.shape
  | "listinvoices" => some InvoiceListing.shape
  | "waitanyinvoice" => some ReportedInvoice.shape
  | "listpays" => some PaymentListing.shape
  | "listforwards" => some ForwardListing.shape
  | "pay" => some SentPayment.shape
  | _ => none

/-- Where amounts stand in what the command line client prints. -/
def outputShape : List String → Option Shape
  | ["decodepay", _] => some DecodedRequest.shape
  | ["bkpr-listincome"] => some IncomeReport.shape
  | _ => none

end Daemon

namespace Query

/-- One amount in a reply is given as a text instead of a number. -/
def Respells : (query : Query) → query.Reply → query.Reply → Prop
  | call _ method _, .ok first, .ok second =>
      ∃ shape, Daemon.replyShape method = some shape ∧
        Respelled shape (.ofJson first) (.ofJson second)
  | command arguments, .ok first, .ok second =>
      ∃ shape, Daemon.outputShape arguments = some shape ∧
        Rewritten shape first.toList second.toList
  | _, _, _ => False

theorem Respells.of_call {handle : Handle} {method : String} {parameters : Json}
    {first second : Except TransportError Json}
    (respelled : (call handle method parameters).Respells first second) :
    ∃ shape value other, first = .ok value ∧ second = .ok other ∧
      Daemon.replyShape method = some shape ∧ Respelled shape (.ofJson value) (.ofJson other) := by
  cases first with
  | error error => exact respelled.elim
  | ok value =>
      cases second with
      | error error => exact respelled.elim
      | ok other =>
          obtain ⟨shape, shaped, differ⟩ := respelled
          exact ⟨shape, value, other, rfl, rfl, shaped, differ⟩

theorem Respells.of_command {arguments : List String} {first second : Except TransportError String}
    (respelled : (command arguments).Respells first second) :
    ∃ shape output other, first = .ok output ∧ second = .ok other ∧
      Daemon.outputShape arguments = some shape ∧ Rewritten shape output.toList other.toList := by
  cases first with
  | error error => exact respelled.elim
  | ok output =>
      cases second with
      | error error => exact respelled.elim
      | ok other =>
          obtain ⟨shape, shaped, differ⟩ := respelled
          exact ⟨shape, output, other, rfl, rfl, shaped, differ⟩

/-- Some questions have no reply with amounts. -/
def Plain (query : Query) : Prop := ∀ first second, ¬ query.Respells first second

theorem plain_connect : Plain .connect := fun _ _ => id

theorem plain_chainCall (method : String) (parameters : Json) :
    Plain (.chainCall method parameters) :=
  fun _ _ => id

theorem plain_sleep (milliseconds : Nat) : Plain (.sleep milliseconds) := fun _ _ => id

theorem plain_now : Plain .now := fun _ _ => id

theorem plain_label : Plain .label := fun _ _ => id

theorem plain_publish (event : NodeEvent) : Plain (.publish event) := fun _ _ => id

end Query

/-- Surroundings that reply like others, but may give some amounts as texts instead of numbers. -/
def Surroundings.Respelled {ω : Type} (answer other : Surroundings ω) : Prop :=
  ∀ query world,
    Relation.ReflTransGen query.Respells (answer query world).1 (other query world).1 ∧
      (answer query world).2 = (other query world).2

theorem Surroundings.Respelled.noting {ω : Type} {answer other : Surroundings ω}
    (respelled : answer.Respelled other) : answer.noting.Respelled other.noting := by
  intro query (world, asked)
  obtain ⟨replies, left⟩ := respelled query world
  exact ⟨replies, Prod.ext left rfl⟩

/-! ### Dialogues -/

namespace Dialogue

variable {σ τ α β κ ω : Type}

/-- A dialogue that goes on in the same way however amounts are spelled. -/
inductive Indifferent : Dialogue σ α → Prop where
  | done (value : α) : Indifferent (.done value)
  | read {next : σ → Dialogue σ α} (rest : ∀ state, Indifferent (next state)) :
      Indifferent (.read next)
  | write {next : Dialogue σ α} (state : σ) (rest : Indifferent next) :
      Indifferent (.write state next)
  | ask {query : Query} {next : query.Reply → Dialogue σ α}
      (alike : ∀ first second, query.Respells first second → next first = next second)
      (rest : ∀ reply, Indifferent (next reply)) : Indifferent (.ask query next)

theorem Indifferent.run_eq {dialogue : Dialogue σ α} (indifferent : dialogue.Indifferent)
    {answer other : Surroundings ω} (respelled : answer.Respelled other) (state : σ) (world : ω) :
    dialogue.run answer state world = dialogue.run other state world := by
  induction indifferent generalizing state world with
  | done value => rfl
  | read rest ih => exact ih state state world
  | write changed rest ih => exact ih changed world
  | @ask query next alike rest ih =>
      obtain ⟨replies, left⟩ := respelled query world
      have same {first second : query.Reply}
          (replies : Relation.ReflTransGen query.Respells first second) :
          next first = next second := by
        induction replies with
        | refl => rfl
        | tail _ step same => exact same.trans (alike _ _ step)
      simp only [run]
      rw [ih, same replies, left]

theorem indifferent_get : (get : Dialogue σ σ).Indifferent := .read fun state => .done state

theorem indifferent_modifyGet (change : σ → α × σ) :
    (modifyGet change : Dialogue σ α).Indifferent :=
  .read fun state => .write (change state).2 (.done _)

theorem indifferent_query {query : Query} (plain : query.Plain) :
    (Dialogue.query query : Dialogue σ query.Reply).Indifferent :=
  .ask (fun first second respelled => absurd respelled (plain first second)) .done

theorem Indifferent.bind {dialogue : Dialogue σ α} {next : α → Dialogue σ β}
    (first : dialogue.Indifferent) (rest : ∀ value, (next value).Indifferent) :
    (dialogue >>= next).Indifferent := by
  change (dialogue.bind next).Indifferent
  induction first with
  | done value => exact rest value
  | read _ ih => exact .read ih
  | write state _ ih => exact .write state ih
  | ask alike _ ih =>
      refine .ask (fun first second respelled => ?_) ih
      rw [alike first second respelled]

theorem indifferent_query_bind {query : Query} {next : query.Reply → Dialogue σ α}
    (alike : ∀ first second, query.Respells first second → next first = next second)
    (rest : ∀ reply, (next reply).Indifferent) : (Dialogue.query query >>= next).Indifferent :=
  .ask alike rest

theorem Indifferent.focus {dialogue : Dialogue τ α} (indifferent : dialogue.Indifferent)
    (part : σ → τ) (replace : τ → σ → σ) : (dialogue.focus part replace).Indifferent := by
  induction indifferent with
  | done value => exact .done value
  | read _ ih => exact .read fun state => ih (part state)
  | write inner _ ih => exact .read fun state => .write _ ih
  | ask alike _ ih =>
      refine .ask (fun first second respelled => ?_) ih
      rw [alike first second respelled]

theorem history_eq {turn : κ → Dialogue σ (Turn α × κ)}
    (indifferent : ∀ stage, (turn stage).Indifferent) {answer other : Surroundings ω}
    (respelled : answer.Respelled other) (count : Nat) (stage : κ) (state : σ) (world : ω) :
    Taken.history turn answer count stage state world =
      Taken.history turn other count stage state world := by
  induction count generalizing stage state world with
  | zero => rfl
  | succ count ih =>
      have first : Taken.next turn answer stage state world =
          Taken.next turn other stage state world := by
        rw [Taken.next, Taken.next, (indifferent stage).run_eq respelled.noting]
      rcases taken : Taken.next turn other stage state world with ⟨one, later, after, left⟩
      rw [Taken.history_succ (first.trans taken), Taken.history_succ taken, ih]

end Dialogue

open Dialogue (indifferent_get indifferent_modifyGet indifferent_query indifferent_query_bind)

theorem Cache.indifferent_remember {κ ν ε : Type} [DecidableEq κ] {key : κ}
    {fetch : Dialogue (Cache κ ν) (Except ε ν)} (fetches : fetch.Indifferent) :
    (Cache.remember key fetch).Indifferent := by
  refine (indifferent_modifyGet _).bind fun found => ?_
  cases found with
  | some value => exact .done _
  | none =>
      refine fetches.bind fun fetched => ?_
      cases fetched with
      | error error => exact .done _
      | ok value => exact (indifferent_modifyGet _).bind fun _ => .done _

theorem Chain.indifferent_call {σ α : Type} (codec : Codec α) (method : String) (parameter : Json) :
    (Chain.call codec method parameter : Dialogue σ _).Indifferent := by
  refine (indifferent_query (Query.plain_chainCall _ _)).bind fun reply => ?_
  cases reply with
  | error error => exact .done _
  | ok value =>
      dsimp only
      cases codec.decode value <;> exact .done _

theorem Chain.indifferent_blockTime (height : UInt32) : (Chain.blockTime height).Indifferent := by
  refine Cache.indifferent_remember ((Chain.indifferent_call _ _ _).bind fun found => ?_)
  cases found with
  | error error => exact .done _
  | ok hash => exact Chain.indifferent_call _ _ _

/-! ### Operations -/

namespace Gateway

variable {α β : Type}

/-- An operation that goes on in the same way however amounts are spelled. -/
abbrev Indifferent (operation : Gateway α) : Prop :=
  ∀ settings, (operation.toDialogue settings).Indifferent

theorem indifferent_pure (value : α) : Indifferent (pure value : Gateway α) := fun _ => .done _

theorem indifferent_read : Indifferent (read : Gateway Settings) := fun _ => .done _

theorem indifferent_throw (failure : Failure) : Indifferent (throw failure : Gateway α) :=
  fun _ => .done _

theorem indifferent_throw_bind (failure : Failure) (next : α → Gateway β) :
    Indifferent (throw failure >>= next) :=
  fun _ => .done _

theorem indifferent_orClassify (operation : Operation) (found : Except TransportError α) :
    Indifferent (orClassify operation found) := by
  cases found with
  | error error => exact indifferent_throw _
  | ok value => exact indifferent_pure value

theorem Indifferent.bind {operation : Gateway α} {next : α → Gateway β}
    (first : Indifferent operation) (rest : ∀ value, Indifferent (next value)) :
    Indifferent (operation >>= next) := by
  intro settings
  change (operation.toDialogue settings >>=
    ExceptT.bindCont fun value => next value settings).Indifferent
  refine (first settings).bind fun result => ?_
  cases result with
  | error failure => exact .done _
  | ok value => exact rest value settings

theorem Indifferent.map {operation : Gateway α} (indifferent : Indifferent operation)
    (change : α → β) : Indifferent (change <$> operation) := by
  rw [map_eq_pure_bind]
  exact indifferent.bind fun value => indifferent_pure (change value)

theorem Indifferent.mapM {operation : α → Gateway β}
    (indifferent : ∀ value, Indifferent (operation value)) (values : List α) :
    Indifferent (values.mapM operation) := by
  induction values with
  | nil => exact indifferent_pure []
  | cons value rest ih =>
      rw [List.mapM_cons]
      exact (indifferent value).bind fun _ => ih.bind fun _ => indifferent_pure _

theorem indifferent_lift {dialogue : Dialogue Session α} (indifferent : dialogue.Indifferent) :
    Indifferent (lift dialogue) :=
  fun _ => indifferent.bind fun _ => .done _

theorem Indifferent.attempt {operation : Gateway α} (indifferent : Indifferent operation) :
    Indifferent (attempt operation) :=
  fun settings => indifferent_lift (indifferent settings) settings

theorem indifferent_ask {query : Query} (plain : query.Plain) : Indifferent (ask query) :=
  indifferent_lift (indifferent_query plain)

theorem indifferent_ask_bind {query : Query} {next : query.Reply → Gateway α}
    (alike : ∀ first second, query.Respells first second → next first = next second)
    (rest : ∀ reply, Indifferent (next reply)) : Indifferent (ask query >>= next) := by
  intro settings
  refine .ask (fun first second respelled => ?_) fun reply => rest reply settings
  change (next first).toDialogue settings = (next second).toDialogue settings
  rw [alike first second respelled]

theorem indifferent_handle : Indifferent handle := by
  have session : Indifferent (get : Gateway Session) := indifferent_lift indifferent_get
  refine session.bind fun session => ?_
  cases session.link.transport with
  | error failure => exact indifferent_throw failure
  | ok handle => exact indifferent_pure handle

theorem indifferent_call_of (operation : Operation) {codec : Codec α} {method : String}
    (parameters : Json)
    (indifferent : ∀ shape, Daemon.replyShape method = some shape → codec.Indifferent shape) :
    Indifferent (call operation codec method parameters) := by
  rw [call_eq]
  refine indifferent_handle.bind fun handle => indifferent_ask_bind ?_ fun reply =>
    indifferent_orClassify operation _
  intro first second respelled
  obtain ⟨shape, value, other, rfl, rfl, shaped, differ⟩ := respelled.of_call
  have same : codec.decode value = codec.decode other :=
    indifferent shape shaped .value _ _ differ
  change orClassify operation ((codec.decode value).mapError _) =
    orClassify operation ((codec.decode other).mapError _)
  rw [same]

theorem indifferent_call (operation : Operation) {codec : Codec α} {method : String}
    (parameters : Json) {shape : Shape} (shaped : Daemon.replyShape method = some shape)
    (indifferent : codec.Indifferent shape) :
    Indifferent (call operation codec method parameters) := by
  apply indifferent_call_of
  intro other found
  rw [shaped] at found
  exact Option.some.inj found ▸ indifferent

theorem indifferent_call_plain (operation : Operation) (codec : Codec α) {method : String}
    (parameters : Json) (plain : Daemon.replyShape method = none) :
    Indifferent (call operation codec method parameters) := by
  apply indifferent_call_of
  intro shape found
  rw [plain] at found
  cases found

theorem indifferent_command_bind {operation : Operation} {arguments : List String}
    {next : String → Gateway α}
    (alike : ∀ shape first second, Daemon.outputShape arguments = some shape →
      Rewritten shape first.toList second.toList → next first = next second)
    (rest : ∀ output, Indifferent (next output)) :
    Indifferent (command operation arguments >>= next) := by
  have joined : command operation arguments >>= next =
      ask (.command arguments) >>= fun reply => orClassify operation reply >>= next :=
    bind_assoc _ _ _
  rw [joined]
  refine indifferent_ask_bind ?_ fun reply => (indifferent_orClassify operation reply).bind rest
  intro first second respelled
  obtain ⟨shape, output, other, rfl, rfl, shaped, differ⟩ := respelled.of_command
  exact alike shape output other shaped differ

theorem indifferent_fetchFunds (operation : Operation) : Indifferent (fetchFunds operation) :=
  indifferent_call _ _ rfl Daemon.Funds.indifferent_codec

theorem indifferent_fetchInvoices (operation : Operation) :
    Indifferent (fetchInvoices operation) :=
  (indifferent_call _ _ rfl Daemon.InvoiceListing.indifferent_codec).bind fun _ =>
    indifferent_pure _

theorem indifferent_waitForSettlement (last : UInt64) : Indifferent (waitForSettlement last) :=
  (indifferent_call _ _ rfl Daemon.ReportedInvoice.indifferent_codec).bind fun _ =>
    indifferent_pure _

theorem indifferent_fetchForwards (operation : Operation) :
    Indifferent (fetchForwards operation) :=
  (indifferent_call _ _ rfl Daemon.ForwardListing.indifferent_codec).bind fun _ =>
    indifferent_pure _

theorem indifferent_fetchInfo (operation : Operation) : Indifferent (fetchInfo operation) :=
  (indifferent_call_plain _ _ _ rfl).bind fun _ => indifferent_read.bind fun _ => indifferent_pure _

theorem indifferent_decoding {σ : Type} (operation : Operation) (request : String) :
    (decoding operation request : Dialogue σ _).Indifferent := by
  apply indifferent_query_bind
  · intro first second respelled
    obtain ⟨shape, output, other, rfl, rfl, shaped, differ⟩ := respelled.of_command
    cases shaped
    have same := Daemon.DecodedRequest.parse_of_rewritten differ
    dsimp only
    rw [same]
  · intro reply
    cases reply <;> exact .done _

theorem indifferent_fetchPayments (operation : Operation) :
    Indifferent (fetchPayments operation) := by
  refine (indifferent_call _ _ rfl Daemon.PaymentListing.indifferent_codec).bind fun listing =>
    .mapM (fun payment => ?_) _
  unfold completePayment
  cases payment.request? with
  | none => exact indifferent_pure _
  | some request =>
      have remembered : Indifferent (decodeRemembered operation request) := fun settings =>
        (Cache.indifferent_remember (indifferent_decoding operation request)).focus _ _
      exact remembered.bind fun _ => indifferent_pure _

theorem indifferent_dateByBlock (transaction : OnChainTransaction) :
    Indifferent (dateByBlock transaction) := by
  refine .bind ?_ fun time => ?_
  · unfold blockTimeOf
    cases transaction.blockHeight with
    | none => exact indifferent_pure _
    | some height =>
        have looked := Chain.indifferent_blockTime height
        refine (indifferent_lift (looked.focus _ _)).bind fun found => ?_
        cases found <;> exact indifferent_pure _
  · cases time <;> exact indifferent_pure _

theorem indifferent_fetchOnChain (operation : Operation) :
    Indifferent (fetchOnChain operation) := by
  rw [fetchOnChain_eq]
  refine indifferent_command_bind ?_ fun income => indifferent_command_bind ?_ fun events =>
    .bind ((indifferent_orClassify _ _).bind fun _ => indifferent_orClassify _ _)
      fun transactions => indifferent_read.bind fun settings => ?_
  · intro shape first second shaped differ
    cases shaped
    simp only [readReports, Daemon.Bookkeeping.parseIncome_of_rewritten differ]
  · intro shape first second shaped
    cases shaped
  · cases settings.hasChainServer with
    | true => exact .mapM indifferent_dateByBlock transactions
    | false => exact indifferent_pure _

theorem indifferent_connectPeer (uri : String) : Indifferent (connectPeer uri) :=
  (indifferent_call_plain _ _ _ rfl).bind fun _ => indifferent_pure _

theorem indifferent_resolveAlias (nodePub : String) : Indifferent (resolveAlias nodePub) := by
  refine (indifferent_call_plain _ _ _ rfl).bind fun listing => ?_
  cases listing.nodes with
  | nil => exact indifferent_throw _
  | cons node rest => exact indifferent_pure _

theorem indifferent_listChannels : Indifferent listChannels := by
  rw [listChannels_eq]
  refine (indifferent_fetchFunds _).bind fun funds => .mapM (fun channel => ?_) _
  refine (indifferent_resolveAlias _).attempt.bind fun found => ?_
  cases found <;> exact indifferent_pure _

theorem indifferent_addInvoice (value : Msat) (memo : String) (expiry : UInt64)
    (isKeysend : Bool) : Indifferent (addInvoice value memo expiry isKeysend) := by
  refine (indifferent_ask Query.plain_label).bind fun label => ?_
  exact (indifferent_call_plain _ _ _ rfl).bind fun _ => indifferent_pure _

theorem indifferent_newAddress (input : NewAddressInput) : Indifferent (newAddress input) := by
  refine (indifferent_call_plain _ _ _ rfl).bind fun answer => ?_
  cases answer.ofType input.addressType with
  | none => exact indifferent_throw _
  | some address => exact indifferent_pure address

theorem indifferent_sendPayment (request : String) (timeoutSeconds : UInt32) (feeLimit : Msat)
    (amount : Option Msat) :
    Indifferent (sendPayment request timeoutSeconds feeLimit amount) :=
  (indifferent_call _ _ rfl Daemon.SentPayment.indifferent_codec).bind fun _ =>
    (indifferent_lift (indifferent_modifyGet _)).bind fun _ => indifferent_pure _

theorem indifferent_openChannel (amount : Msat) (nodeUri : String)
    (targetConfirmations : UInt32) :
    Indifferent (openChannel amount nodeUri targetConfirmations) :=
  (indifferent_connectPeer nodeUri).bind fun _ =>
    (indifferent_call_plain _ _ _ rfl).bind fun _ => indifferent_pure _

theorem indifferent_closeChannel (channelId : String) (force : Bool) :
    Indifferent (closeChannel channelId force) := by
  refine (indifferent_call_plain _ _ _ rfl).bind fun answer => ?_
  cases answer.kind with
  | unopened => exact indifferent_throw _
  | agreed | unilateral =>
      dsimp only
      cases answer.txid with
      | none => exact indifferent_throw _
      | some txid => exact indifferent_pure txid

theorem indifferent_sendCoins (input : SendCoinsInput) : Indifferent (sendCoins input) := by
  unfold sendCoins
  refine (indifferent_fetchFunds _).bind fun funds => ?_
  dsimp only
  split
  · exact indifferent_throw_bind _ _
  · split
    · exact indifferent_throw_bind _ _
    · cases satoshiText input with
      | error error => exact indifferent_throw _
      | ok satoshi =>
          refine (indifferent_call_plain _ _ _ rfl).bind fun answer => ?_
          exact (indifferent_ask (Query.plain_publish _)).bind fun _ => indifferent_pure _

end Gateway

/-! ### Requests and subscriptions -/

theorem Request.indifferent_perform (request : Request) : Gateway.Indifferent request.perform := by
  cases request with
  | walletBalance =>
      exact ((Gateway.indifferent_fetchFunds _).bind fun _ => Gateway.indifferent_pure _).map _
  | listAll successfulOnly page =>
      rw [perform, Gateway.listAll_eq]
      refine .map ((Gateway.indifferent_fetchInvoices _).bind fun invoices => ?_) _
      refine (Gateway.indifferent_fetchOnChain _).bind fun transactions => ?_
      refine (Gateway.indifferent_fetchPayments _).bind fun payments => ?_
      exact (Gateway.indifferent_fetchInfo _).bind fun info => Gateway.indifferent_pure _
  | listInvoices =>
      exact ((Gateway.indifferent_fetchInvoices _).bind fun _ => Gateway.indifferent_pure _).map _
  | listOnChain =>
      rw [perform, Gateway.listOnChain_eq]
      exact ((Gateway.indifferent_fetchOnChain _).bind fun _ =>
        (Gateway.indifferent_fetchInfo _).bind fun _ => Gateway.indifferent_pure _).map _
  | listPayments =>
      exact ((Gateway.indifferent_fetchPayments _).bind fun _ => Gateway.indifferent_pure _).map _
  | addInvoice => exact (Gateway.indifferent_addInvoice _ _ _ _).map _
  | decodePayRequest request =>
      exact Gateway.Indifferent.map (fun _ => Gateway.indifferent_decoding _ _) _
  | feeRevenue =>
      exact ((Gateway.indifferent_fetchForwards _).bind fun _ =>
        (Gateway.indifferent_ask Query.plain_now).bind fun _ => Gateway.indifferent_pure _).map _
  | newAddress input => exact (Gateway.indifferent_newAddress input).map _
  | sendCoins input => exact (Gateway.indifferent_sendCoins input).map _
  | sendPayment => exact (Gateway.indifferent_sendPayment _ _ _ _).map _
  | nodeInfo => exact (Gateway.indifferent_fetchInfo _).map _
  | unlockWallet => exact (Gateway.indifferent_pure true).map _
  | connectPeer uri => exact (Gateway.indifferent_connectPeer uri).map _
  | resolveAlias nodePub => exact (Gateway.indifferent_resolveAlias nodePub).map _
  | openChannel => exact (Gateway.indifferent_openChannel _ _ _).map _
  | listChannels => exact Gateway.indifferent_listChannels.map _
  | closeChannel => exact (Gateway.indifferent_closeChannel _ _).map _

theorem Lifecycle.indifferent_turn (settings : Settings) (stage : Lifecycle) :
    (Lifecycle.turn settings stage).Indifferent := by
  have linked (change : Link → Link) : (setLink change).Indifferent := indifferent_modifyGet _
  have failed (error : TransportError) : (failed error).Indifferent := by
    unfold Lifecycle.failed
    split <;> exact (linked _).bind fun _ => .done _
  have connects : (connect settings).Indifferent := by
    refine (linked _).bind fun _ => (indifferent_query Query.plain_connect).bind fun found => ?_
    cases found with
    | error error => exact failed error
    | ok handle =>
        apply indifferent_query_bind
        · -- Whatever the daemon says shows that it is alive.
          intro first second respelled
          obtain ⟨_, value, other, rfl, rfl, -⟩ := respelled.of_call
          rfl
        · intro reply
          cases reply with
          | error error => exact failed error
          | ok document => exact (linked _).bind fun _ => .done _
  cases stage with
  | starting =>
      refine indifferent_get.bind fun session => ?_
      split
      · exact .done _
      · exact connects
  | retrying => exact (indifferent_query (Query.plain_sleep _)).bind fun _ => connects
  | finished => exact .done _

theorem InvoiceFeed.indifferent_turn (settings : Settings) (stage : InvoiceFeed) :
    (InvoiceFeed.turn settings stage).Indifferent := by
  cases stage with
  | starting =>
      refine (Gateway.indifferent_fetchInvoices _ settings).bind fun found => ?_
      cases found <;> exact .done _
  | waiting last =>
      refine Dialogue.Indifferent.bind ?_ fun _ => .done _
      cases last with
      | none => exact .done _
      | some last =>
          refine (Gateway.indifferent_waitForSettlement last settings).bind fun found => ?_
          cases found <;> exact .done _

theorem Polling.indifferent_turn {σ α : Type} {sleep : Nat → Dialogue σ Unit}
    {fetch : Dialogue σ (Except Failure (List α))}
    (sleeps : ∀ milliseconds, (sleep milliseconds).Indifferent) (fetches : fetch.Indifferent)
    (interval : Nat) (state : Polling α) :
    (Polling.turn sleep fetch interval state).Indifferent := by
  unfold Polling.turn
  split
  · exact .done _
  · split
    · exact .done _
    · split
      · refine (sleeps _).bind fun _ => fetches.bind fun found => ?_
        cases found <;> exact .done _
      · refine fetches.bind fun found => ?_
        cases found <;> exact .done _

theorem ForwardFeed.indifferent_turn (settings : Settings) (stage : ForwardFeed) :
    (ForwardFeed.turn settings stage).Indifferent := by
  cases stage with
  | starting =>
      refine (Gateway.indifferent_fetchForwards _ settings).bind fun found => ?_
      cases found <;> exact .done _
  | polling state =>
      have fetches : Gateway.Indifferent Gateway.fetchForwardEvents :=
        (Gateway.indifferent_fetchForwards _).bind fun _ => Gateway.indifferent_pure _
      have turns := Polling.indifferent_turn
        (fun milliseconds => indifferent_query (Query.plain_sleep milliseconds)) (fetches settings)
        settings.pollInterval state
      exact turns.bind fun _ => .done _
  | finished => exact .done _

/-- Some amounts may be texts without a unit, in millisatoshis or in satoshis instead of numbers.
No request has another result or leaves another session behind, and no subscription asks or hands
out anything else. -/
theorem results_of_any_spelling {ω : Type} {answer other : Surroundings ω}
    (respelled : answer.Respelled other) (settings : Settings) (session : Session) (world : ω) :
    (∀ request : Request,
      Gateway.outcome answer settings request.perform session world =
        Gateway.outcome other settings request.perform session world) ∧
    (∀ count stage, Taken.history (Lifecycle.turn settings) answer count stage session world =
      Taken.history (Lifecycle.turn settings) other count stage session world) ∧
    (∀ count stage, Taken.history (InvoiceFeed.turn settings) answer count stage session world =
      Taken.history (InvoiceFeed.turn settings) other count stage session world) ∧
    ∀ count stage, Taken.history (ForwardFeed.turn settings) answer count stage session world =
      Taken.history (ForwardFeed.turn settings) other count stage session world := by
  refine ⟨fun request => ?_, fun count stage => ?_, fun count stage => ?_, fun count stage => ?_⟩
  · exact (request.indifferent_perform settings).run_eq respelled session world
  · exact Dialogue.history_eq (Lifecycle.indifferent_turn settings) respelled _ _ _ _
  · exact Dialogue.history_eq (InvoiceFeed.indifferent_turn settings) respelled _ _ _ _
  · exact Dialogue.history_eq (ForwardFeed.indifferent_turn settings) respelled _ _ _ _

/-- What a daemon reports that has an output and a channel. -/
def reportedFunds (output ourAmount capacity : Json) : Json :=
  .object
    [("outputs", .array [.object
        [("txid", .string "aa"), ("output", .ofNat 0), ("amount_msat", output),
          ("status", .string "confirmed")]]),
      ("channels", .array [.object
        [("peer_id", .string "02"), ("state", .string "CHANNELD_NORMAL"),
          ("our_amount_msat", ourAmount), ("amount_msat", capacity)]])]

def printedRest : List Char :=
  (",\"created_at\":1,\"expiry\":60,\"payee\":\"02\",\"payment_hash\":\"ab\"," ++
    "\"min_final_cltv_expiry\":9\x7d").toList

/-- What the command line client prints about a payment request. -/
def printedRequest (amount : List Char) : String :=
  .ofList ("\x7b\"currency\":\"bc\",".toList ++
    ("\"amount_msat\":".toList ++ (amount ++ printedRest)))

def reporting (funds : Json) (printed : String) : Replies :=
  .answering (.ok 0)
    (fun method => if method = "listfunds" then .ok funds else .error .missingResult)
    (fun arguments =>
      if arguments = ["decodepay", "tea"] then .ok printed else .error .missingResult)

theorem respelled_reporting {funds otherFunds : Json} {printed otherPrinted : String}
    (respelled : Relation.ReflTransGen
      (fun first second => Respelled Daemon.Funds.shape (.ofJson first) (.ofJson second))
      funds otherFunds)
    (rewritten : Rewritten Daemon.DecodedRequest.shape printed.toList otherPrinted.toList) :
    (reporting funds printed).surroundings.Respelled
      (reporting otherFunds otherPrinted).surroundings := by
  intro query world
  refine ⟨?_, rfl⟩
  cases query with
  | call handle method parameters =>
      have replied (funds : Json) (printed : String) :
          ((reporting funds printed).surroundings (.call handle method parameters) world).1 =
            if method = "listfunds" then Except.ok funds else .error .missingResult := rfl
      rw [replied, replied]
      split
      next funds =>
        subst funds
        exact respelled.lift _ fun _ _ respelled => ⟨_, rfl, respelled⟩
      · exact .refl
  | command arguments =>
      have replied (funds : Json) (printed : String) :
          ((reporting funds printed).surroundings (.command arguments) world).1 =
            if arguments = ["decodepay", "tea"] then Except.ok printed
            else .error .missingResult := rfl
      rw [replied, replied]
      split
      next decodes =>
        subst decodes
        exact .single ⟨_, rfl, rewritten⟩
      · exact .refl
  | _ => exact .refl

def numberedDaemon : Replies :=
  reporting (reportedFunds (.ofWord 5000) (.ofWord 2000) (.ofWord 9000))
    (printedRequest (Text.digits 7000))

def olderDaemon : Replies :=
  reporting (reportedFunds (.string "5000msat") (.string "2sat") (.string "9000"))
    (printedRequest "\"7000msat\"".toList)

theorem respelled_reportedFunds :
    Relation.ReflTransGen
      (fun first second => Respelled Daemon.Funds.shape (.ofJson first) (.ofJson second))
      (reportedFunds (.ofWord 5000) (.ofWord 2000) (.ofWord 9000))
      (reportedFunds (.string "5000msat") (.string "2sat") (.string "9000")) := by
  have spent : Amount.Spelling 5000 "5000msat" := .msat
  have ours : Amount.Spelling 2000 "2sat" := @Amount.Spelling.sat 2000 2 rfl
  have capacity : Amount.Spelling 9000 "9000" := .plain
  have first : Respelled Daemon.Funds.shape
      (.ofJson (reportedFunds (.ofWord 5000) (.ofWord 2000) (.ofWord 9000)))
      (.ofJson (reportedFunds (.string "5000msat") (.ofWord 2000) (.ofWord 9000))) :=
    @Respelled.field _ _ [] [_] "outputs" _ _ _ rfl <| @Respelled.item _ _ [] [] _ _ _ rfl <|
      @Respelled.field _ _ [_, _] [_] "amount_msat" _ _ _ rfl (.amount spent)
  have second : Respelled Daemon.Funds.shape
      (.ofJson (reportedFunds (.string "5000msat") (.ofWord 2000) (.ofWord 9000)))
      (.ofJson (reportedFunds (.string "5000msat") (.string "2sat") (.ofWord 9000))) :=
    @Respelled.field _ _ [_] [] "channels" _ _ _ rfl <| @Respelled.item _ _ [] [] _ _ _ rfl <|
      @Respelled.field _ _ [_, _] [_] "our_amount_msat" _ _ _ rfl (.amount ours)
  have third : Respelled Daemon.Funds.shape
      (.ofJson (reportedFunds (.string "5000msat") (.string "2sat") (.ofWord 9000)))
      (.ofJson (reportedFunds (.string "5000msat") (.string "2sat") (.string "9000"))) :=
    @Respelled.field _ _ [_] [] "channels" _ _ _ rfl <| @Respelled.item _ _ [] [] _ _ _ rfl <|
      @Respelled.field _ _ [_, _, _] [] "amount_msat" _ _ _ rfl (.amount capacity)
  exact .tail (.tail (.single first) second) third

theorem rewritten_printedRequest :
    Rewritten Daemon.DecodedRequest.shape (printedRequest (Text.digits 7000)).toList
      (printedRequest "\"7000msat\"".toList).toList := by
  have currency : Document.IsField "\"currency\":\"bc\"".toList :=
    ⟨"\"currency\":".toList, some "currency", "\"bc\"".toList, rfl,
      ⟨[], "currency\"".toList, [], rfl, rfl, rfl, rfl⟩, .string "bc", [], rfl, rfl⟩
  have name : Document.IsKey "\"amount_msat\":".toList (some "amount_msat") :=
    ⟨[], "amount_msat\"".toList, [], rfl, rfl, rfl, rfl⟩
  have printed (amount : List Char) : (printedRequest amount).toList =
      '\x7b' :: (Document.separated ["\"currency\":\"bc\"".toList] ++
        ("\"amount_msat\":".toList ++ (amount ++ printedRest))) := String.toList_ofList
  have spelling : Amount.Spelling 7000 "7000msat" := .msat
  rw [printed, printed]
  refine .field (by simpa using currency) name rfl (.amount spelling ?_)
  exact ⟨rfl, by decide, by decide, by decide⟩

/-- The funds and the amount of the request are the same in texts as in numbers. -/
theorem results_of_older_spellings :
    numberedDaemon.surroundings.Respelled olderDaemon.surroundings ∧
    (∀ request : Request,
      Gateway.outcome numberedDaemon.surroundings ⟨.coreLightning, "getinfo", 5000, 1000, false⟩
          request.perform ⟨.establish 0, .empty 1, .empty 1⟩ () =
        Gateway.outcome olderDaemon.surroundings ⟨.coreLightning, "getinfo", 5000, 1000, false⟩
          request.perform ⟨.establish 0, .empty 1, .empty 1⟩ ()) ∧
    (Gateway.outcome olderDaemon.surroundings ⟨.coreLightning, "getinfo", 5000, 1000, false⟩
      Request.walletBalance.perform ⟨.establish 0, .empty 1, .empty 1⟩ ()).1 =
        .ok (WalletBalance.codec.write ⟨5000, 0, 5000, 2000, 7000, 0, 0, 0, 0⟩) ∧
    ((Gateway.outcome olderDaemon.surroundings ⟨.coreLightning, "getinfo", 5000, 1000, false⟩
      (Request.decodePayRequest "tea").perform ⟨.establish 0, .empty 1, .empty 1⟩ ()).1.map
        fun decoded => (decoded.field? "num_msat").map Json.compact) = .ok (some "7000") := by
  have respelled : numberedDaemon.surroundings.Respelled olderDaemon.surroundings :=
    respelled_reporting respelled_reportedFunds rewritten_printedRequest
  refine ⟨respelled, ?_, by rfl, by decide +kernel⟩
  exact (results_of_any_spelling respelled _ _ ()).1

end LightningGateway
