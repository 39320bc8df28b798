import Mathlib.Data.List.Forall2
import LightningGateway.Gateway.Channels
import LightningGateway.Gateway.Listings
import LightningGateway.Proofs.Dialogue

/-!
# Outcomes of operations

What an operation of the gateway returns when it is carried out alone and every answer is there
at once, together with the session and the surroundings that it leaves behind. An operation that
has failed goes no further. Fetches side by side then come one after another.
-/

namespace LightningGateway.Gateway

variable {α β ω : Type}

/-- The result of an operation, the session and the surroundings after it. -/
abbrev Outcome (ω α : Type) := Except Failure α × Session × ω

/-- Carries out an operation. -/
def outcome (answer : Surroundings ω) (settings : Settings) (operation : Gateway α)
    (session : Session) (world : ω) : Outcome ω α :=
  (operation.toDialogue settings).run answer session world

/-- Goes on after a success. -/
def Outcome.continue (first : Outcome ω α) (next : α → Session → ω → Outcome ω β) :
    Outcome ω β :=
  match first with
  | (.ok value, session, world) => next value session world
  | (.error failure, session, world) => (.error failure, session, world)

@[simp]
theorem Outcome.continue_ok (value : α) (session : Session) (world : ω)
    (next : α → Session → ω → Outcome ω β) :
    Outcome.continue (.ok value, session, world) next = next value session world := rfl

@[simp]
theorem Outcome.continue_error (failure : Failure) (session : Session) (world : ω)
    (next : α → Session → ω → Outcome ω β) :
    Outcome.continue (.error failure, session, world) next =
      (.error failure, session, world) := rfl

variable (answer : Surroundings ω) (settings : Settings) (session : Session) (world : ω)

@[simp]
theorem outcome_pure (value : α) :
    outcome answer settings (pure value) session world = (.ok value, session, world) := rfl

@[simp]
theorem outcome_bind (operation : Gateway α) (next : α → Gateway β) :
    outcome answer settings (operation >>= next) session world =
      (outcome answer settings operation session world).continue fun value =>
        outcome answer settings (next value) := by
  change Dialogue.run answer
    (operation.toDialogue settings >>= ExceptT.bindCont fun value => next value settings)
    session world = _
  rw [Dialogue.run_bind]
  unfold outcome
  rcases (operation.toDialogue settings).run answer session world with
    ⟨_ | value, session, world⟩ <;> rfl

@[simp]
theorem outcome_map (change : α → β) (operation : Gateway α) :
    outcome answer settings (change <$> operation) session world =
      (outcome answer settings operation session world).continue fun value session world =>
        (.ok (change value), session, world) := by
  rw [map_eq_pure_bind, outcome_bind]
  rfl

theorem fst_outcome_map (change : α → β) (operation : Gateway α) :
    (outcome answer settings (change <$> operation) session world).1 =
      (outcome answer settings operation session world).1.map change := by
  rw [outcome_map]
  rcases outcome answer settings operation session world with ⟨_ | value, session, world⟩ <;>
    rfl

@[simp]
theorem outcome_get :
    outcome answer settings (get : Gateway Session) session world =
      (.ok session, session, world) := rfl

@[simp]
theorem outcome_ofDialogue (dialogue : Dialogue Session (Except Failure α)) :
    outcome answer settings (ofDialogue dialogue) session world =
      dialogue.run answer session world := rfl

@[simp]
theorem outcome_lift (dialogue : Dialogue Session α) :
    outcome answer settings (lift dialogue) session world =
      (.ok (dialogue.run answer session world).1,
        (dialogue.run answer session world).2) :=
  Dialogue.run_map answer Except.ok dialogue session world

@[simp]
theorem outcome_attempt (operation : Gateway α) :
    outcome answer settings (attempt operation) session world =
      (.ok (outcome answer settings operation session world).1,
        (outcome answer settings operation session world).2) :=
  Dialogue.run_map answer Except.ok (operation.toDialogue settings) session world

@[simp]
theorem outcome_ask (query : Query) :
    outcome answer settings (ask query) session world =
      (.ok (answer query world).1, session, (answer query world).2) := rfl

/-- A result as the failure that an operation makes of an error. -/
def classified (operation : Operation) (result : Except TransportError α) :
    Except Failure α :=
  result.mapError (Failure.ofError operation)

@[simp]
theorem classified_ok (operation : Operation) (value : α) :
    classified operation (.ok value) = .ok value := rfl

@[simp]
theorem classified_error (operation : Operation) (error : TransportError) :
    (classified operation (.error error) : Except Failure α) =
      .error (.ofError operation error) := rfl

@[simp]
theorem outcome_orClassify (operation : Operation) (result : Except TransportError α) :
    outcome answer settings (orClassify operation result) session world =
      (classified operation result, session, world) := by
  cases result <;> rfl

@[simp]
theorem outcome_handle :
    outcome answer settings handle session world =
      (session.link.transport, session, world) := by
  unfold handle
  rw [outcome_bind, outcome_get, Outcome.continue_ok]
  cases session.link.transport <;> rfl

/-- A list of operations that always succeed gives a result for each of them. -/
theorem exists_outcome_mapM {operation : α → Gateway β} {gives : α → β → Prop}
    (succeeds : ∀ value session world, ∃ result,
      (outcome answer settings (operation value) session world).1 = .ok result ∧
        gives value result)
    (values : List α) :
    ∃ results, (outcome answer settings (values.mapM operation) session world).1 = .ok results ∧
      List.Forall₂ gives values results := by
  induction values generalizing session world with
  | nil => exact ⟨[], rfl, .nil⟩
  | cons value rest ih =>
      obtain ⟨result, succeeded, given⟩ := succeeds value session world
      rcases first : outcome answer settings (operation value) session world with
        ⟨found, later, left⟩
      rw [first] at succeeded
      obtain rfl : found = .ok result := succeeded
      obtain ⟨results, listed, others⟩ := ih later left
      refine ⟨result :: results, ?_, .cons given others⟩
      rw [List.mapM_cons, outcome_bind, first, Outcome.continue_ok, outcome_bind]
      rcases second : outcome answer settings (rest.mapM operation) later left with ⟨found, last⟩
      rw [second] at listed
      obtain rfl : found = .ok results := listed
      rfl

/-- What a reply of the daemon says. -/
def reading (codec : Codec α) (reply : Except TransportError Json) : Except TransportError α :=
  reply.bind fun value => (codec.decode value).mapError .ofDecodeError

theorem outcome_call_connected (operation : Operation) (codec : Codec α) (method : String)
    (parameters : Json) {handle : Handle}
    (connected : session.link.transport = .ok handle) :
    outcome answer settings (call operation codec method parameters) session world =
      (classified operation (reading codec (answer (.call handle method parameters) world).1),
        session, (answer (.call handle method parameters) world).2) := by
  have asked := outcome_ask answer settings session world (.call handle method parameters)
  simp only [call, outcome_bind, outcome_handle, connected, Outcome.continue_ok, asked,
    outcome_orClassify]
  cases (answer (.call handle method parameters) world).1 with
  | error error => rfl
  | ok value => exact outcome_orClassify answer settings session _ operation _

@[simp]
theorem outcome_command (operation : Operation) (arguments : List String) :
    outcome answer settings (command operation arguments) session world =
      (classified operation (answer (.command arguments) world).1, session,
        (answer (.command arguments) world).2) := by
  have asked := outcome_ask answer settings session world (.command arguments)
  simp only [command, outcome_bind, asked, Outcome.continue_ok, outcome_orClassify]

/-! ### Operations one after another -/

section InTurn

variable {γ : Type}

theorem inTurn_alone (operation : Gateway α) : inTurn (alone operation) = operation := rfl

theorem inTurn_beside (first : Joined α) (second : Joined β) (combine : α → β → γ) :
    inTurn (first.beside second combine) =
      inTurn first >>= fun value => inTurn second >>= fun other => pure (combine value other) :=
  rfl

theorem inTurn_andThen (first : Joined α) (next : α → Joined β) :
    inTurn (first.andThen next) = inTurn first >>= fun value => inTurn (next value) := rfl

theorem inTurn_joinAll_map (operation : α → Gateway β) (values : List α) :
    inTurn (joinAll (values.map operation)) = values.mapM operation := by
  induction values with
  | nil => rfl
  | cons value others ih =>
      rw [List.mapM_cons, ← ih]
      rfl

theorem inTurn_datingByBlocks (transactions : List OnChainTransaction) :
    inTurn (datingByBlocks transactions) = do
      if (← read).hasChainServer then transactions.mapM dateByBlock else return transactions := by
  rw [← inTurn_joinAll_map]
  funext settings
  change _ = (if settings.hasChainServer then inTurn (joinAll (transactions.map dateByBlock))
    else pure transactions) settings
  rw [inTurn, datingByBlocks]
  split <;> rfl

/-- The wallet transactions as they are fetched if every answer is there at once. -/
theorem fetchOnChain_eq (operation : Operation) :
    fetchOnChain operation = do
      let income ← command operation ["bkpr-listincome"]
      let events ← command operation ["bkpr-listaccountevents"]
      let transactions ← readReports operation (income, events)
      if (← read).hasChainServer then transactions.mapM dateByBlock else return transactions := by
  simp only [fetchOnChain, fetchingOnChain, bookkeeperReports, inTurn_andThen, inTurn_beside,
    inTurn_alone, inTurn_datingByBlocks, bind_assoc, pure_bind]

theorem listOnChain_eq :
    listOnChain = do
      let transactions ← fetchOnChain .listOnChain
      let info ← fetchInfo .listOnChain
      return transactions.map (OnChainTransaction.updateConfirmations info.blockHeight) := rfl

theorem listAll_eq (successfulOnly : Bool) (page : Page) :
    listAll successfulOnly page = do
      let invoices ← fetchInvoices .listAll
      let transactions ← fetchOnChain .listAll
      let payments ← fetchPayments .listAll
      let info ← fetchInfo .listAll
      return Timeline.build page (listedEntries successfulOnly (timelineEntries invoices
        (transactions.map (OnChainTransaction.updateConfirmations info.blockHeight))
        payments)) := by
  simp only [listAll, listingAll, fetchOnChain, inTurn_beside, inTurn_alone, bind_assoc,
    pure_bind]

theorem listChannels_eq :
    listChannels = (do
      let funds ← fetchFunds .listChannels
      funds.channels.mapM nameChannel) := by
  simp only [listChannels, listingChannels, inTurn_andThen, inTurn_alone, inTurn_joinAll_map]

end InTurn

end LightningGateway.Gateway
