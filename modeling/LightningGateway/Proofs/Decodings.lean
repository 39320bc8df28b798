import Mathlib.Data.List.Dedup
import LightningGateway.Proofs.Recalling

/-!
# Remembered payment requests

A client that decodes a payment request in the same way each time may be asked once and for all.
What is remembered is what it would say again, so the listings of payments and of everything are
those of a session that remembers nothing. As long as all listed payment requests can be
remembered together, none that can be decoded is decoded twice for a listing. A listing of
everything that fails may cut off a decoding, which is then begun again for a later one.
-/

namespace LightningGateway

open Event (puts answers drops decoded listed)

/-- Surroundings in which the client decodes each payment request in its own way, always the
same. Others answer everything else. -/
def Surroundings.decoding {ω : Type} (decodes : String → Except TransportError String)
    (others : Surroundings ω) : Surroundings ω
  | .command ["decodepay", request], world => (decodes request, world)
  | query, world => others query world

namespace Gateway

variable {α β : Type} {known wanted : List String} {decodes : String → Except TransportError String}

/-! ### Transparent operations -/

/-- What is remembered matters to an operation only in so far as it is spared decodings. -/
def Transparent (known wanted : List String) (operation : Gateway α) : Prop :=
  ∀ settings, (operation.toDialogue settings).Transparent known wanted

theorem transparent_pure (value : α) : Transparent known wanted (pure value : Gateway α) :=
  fun _ => .done _

theorem transparent_throw (failure : Failure) :
    Transparent known wanted (throw failure : Gateway α) :=
  fun _ => .done _

theorem transparent_read : Transparent known wanted (read : Gateway Settings) :=
  fun _ => .done _

theorem transparent_orClassify (operation : Operation) (found : Except TransportError α) :
    Transparent known wanted (orClassify operation found) := by
  cases found with
  | error error => exact transparent_throw _
  | ok value => exact transparent_pure value

theorem Transparent.bind {operation : Gateway α} {next : α → Gateway β}
    (transparent : Transparent known wanted operation)
    (rest : ∀ value, Transparent known wanted (next value)) :
    Transparent known wanted (operation >>= next) := by
  intro settings
  refine Dialogue.Transparent.bind (transparent settings) fun result => ?_
  cases result with
  | error failure => exact .done _
  | ok value => exact rest value settings

theorem Transparent.map {operation : Gateway α} (transparent : Transparent known wanted operation)
    (change : α → β) : Transparent known wanted (change <$> operation) := by
  rw [map_eq_pure_bind]
  exact transparent.bind fun value => transparent_pure (change value)

theorem Transparent.mapM {operation : α → Gateway β} {values : List α}
    (transparent : ∀ value ∈ values, Transparent known wanted (operation value)) :
    Transparent known wanted (values.mapM operation) := by
  induction values with
  | nil => exact transparent_pure []
  | cons value rest ih =>
      obtain ⟨first, others⟩ := List.forall_mem_cons.mp transparent
      rw [List.mapM_cons]
      exact first.bind fun _ => (ih others).bind fun _ => transparent_pure _

/-- An operation that goes on after an answer knows what the answer lists. -/
theorem transparent_ask_bind {query : Query} (unrelated : query.decodes? = none)
    {next : query.Reply → Gateway β}
    (rest : ∀ reply, (Answered.mk query reply).lists ⊆ known →
      Transparent known wanted (next reply)) :
    Transparent known wanted (ask query >>= next) :=
  fun settings => .ask unrelated fun reply within => rest reply within settings

theorem transparent_handle : Transparent known wanted handle := by
  intro settings
  refine .work (fun session => .done session.link.transport) id (fun session => ?_)
    (fun _ _ => rfl) (fun _ _ => rfl) fun session => .done _
  obtain ⟨⟨phase, held⟩, requests, blocks⟩ := session
  cases phase <;> cases held <;> rfl

theorem transparent_call (operation : Operation) (codec : Codec α) (method : String)
    (parameters : Json) : Transparent known wanted (call operation codec method parameters) := by
  rw [call_eq]
  exact transparent_handle.bind fun handle => transparent_ask_bind rfl fun reply _ =>
    transparent_orClassify operation (reading codec reply)

theorem transparent_command (operation : Operation) {arguments : List String}
    (unrelated : (Query.command arguments).decodes? = none) :
    Transparent known wanted (command operation arguments) :=
  transparent_ask_bind unrelated fun reply _ => transparent_orClassify operation reply

/-- A dialogue on the block times of the session has nothing to do with payment requests. -/
theorem transparent_lift_blocks {dialogue : Dialogue (Cache UInt32 BlockTime) α}
    (unrelated : dialogue.AsksOnly fun query => query.decodes? = none) :
    Transparent known wanted
      (lift (dialogue.focus Session.blocks fun blocks session => { session with blocks })) := by
  intro settings
  refine Dialogue.Transparent.bind ?_ fun value => .done _
  induction dialogue with
  | done value => exact .done value
  | read next ih =>
      refine .work (fun session => (next session.blocks).focus _ _) id (fun session => rfl)
        (fun session requests => rfl) (fun session requests => rfl) fun session => ih _ ?_
      exact fun said value goes => unrelated said value (.read session.blocks goes)
  | write blocks next ih =>
      refine .work (fun session => next.focus _ _) (fun session => { session with blocks })
        (fun session => rfl) (fun session requests => rfl) (fun session requests => rfl)
        fun session => ih ?_
      exact fun said value goes => unrelated said value (.write blocks goes)
  | ask query next ih =>
      obtain ⟨first, others⟩ := unrelated.of_ask (Cache.empty 1)
      exact .ask first fun reply _ => ih reply (others reply)

/-! ### Payments -/

theorem transparent_decodeRemembered (operation : Operation) {request : String}
    (member : request ∈ wanted) :
    Transparent known wanted (decodeRemembered operation request) := by
  intro settings
  have looked : (remembered operation request >>= pure).Transparent known wanted :=
    .remembered operation pure member fun result => .done result
  rw [bind_pure] at looked
  exact looked

theorem transparent_completePayment (operation : Operation) {reported : Daemon.ReportedPayment}
    (member : ∀ request, reported.request? = some request → request ∈ wanted) :
    Transparent known wanted (completePayment operation reported) := by
  unfold completePayment
  cases made : reported.request? with
  | none => exact transparent_pure _
  | some request =>
      exact (transparent_decodeRemembered operation (member request made)).bind fun _ =>
        transparent_pure _

/-- What is looked up for the payments was listed with them. -/
theorem transparent_fetchPayments (operation : Operation) :
    Transparent known known (fetchPayments operation) := by
  rw [fetchPayments, call_eq]
  simp only [bind_assoc]
  refine transparent_handle.bind fun handle => transparent_ask_bind rfl fun reply within => ?_
  cases read : reading Daemon.PaymentListing.codec reply with
  | error error => exact transparent_throw _
  | ok listing =>
      refine Transparent.mapM fun reported member => ?_
      refine transparent_completePayment operation fun request made => within ?_
      have lists : (Answered.mk (.call handle "listpays" (.object [])) reply).lists =
          listing.pays.filterMap Daemon.ReportedPayment.request? := listedIn_of_reading read
      rw [lists]
      exact List.mem_filterMap.mpr ⟨reported, member, made⟩

/-! ### Wallet transactions -/

theorem transparent_dateByBlock (transaction : OnChainTransaction) :
    Transparent known wanted (dateByBlock transaction) := by
  have looked : Transparent known wanted (blockTimeOf transaction) := by
    unfold blockTimeOf
    cases transaction.blockHeight with
    | none => exact transparent_pure _
    | some height =>
        refine (transparent_lift_blocks (Chain.asksOnly_blockTime (fun _ _ => rfl) height)).bind
          fun found => ?_
        cases found <;> exact transparent_pure _
  refine looked.bind fun time => ?_
  cases time <;> exact transparent_pure _

theorem transparent_all {dialogues : List (Dialogue Session (Except Failure α))}
    (requests : Cache String PaymentRequest)
    (transparent : ∀ dialogue ∈ dialogues, dialogue.Transparent known []) :
    (Braid.all dialogues).Transparent known [] requests := by
  induction dialogues with
  | nil => exact .done _
  | cons first others ih =>
      obtain ⟨head, tail⟩ := List.forall_mem_cons.mp transparent
      exact ⟨[], [], .inl rfl, rfl, head, ih tail⟩

theorem transparent_fetchingOnChain (operation : Operation) (settings : Settings)
    (requests : Cache String PaymentRequest) :
    (fetchingOnChain operation settings).Transparent known [] requests := by
  have reports : (bookkeeperReports operation settings).Transparent known [] requests :=
    ⟨[], [], .inl rfl, rfl, transparent_command operation rfl settings,
      transparent_command operation rfl settings⟩
  refine ⟨⟨reports, fun reports _ => ?_⟩, fun transactions requests => ?_⟩
  · exact ((transparent_orClassify operation _).bind fun _ =>
      transparent_orClassify operation _) settings
  · unfold datingByBlocks
    split
    · refine transparent_all requests fun dialogue member => ?_
      simp only [List.map_map, List.mem_map] at member
      obtain ⟨transaction, -, rfl⟩ := member
      exact transparent_dateByBlock transaction settings
    · exact transparent_pure transactions settings

end Gateway

namespace Request

/-- Listings of payments or of everything, payments, and payment requests that are decoded. -/
def usesDecoded : Request → Bool
  | listAll _ _ | listPayments _ _ | sendPayment _ _ _ _ | decodePayRequest _ => true
  | _ => false

def listsPayments : Request → Bool
  | listAll _ _ | listPayments _ _ => true
  | _ => false

open Gateway in
theorem transparent_joined {request : Request} (lists : request.listsPayments = true)
    (settings : Settings) (known : List String) (requests : Cache String PaymentRequest) :
    (request.joined settings).Transparent known known requests := by
  cases request with
  | listPayments includeIncomplete page =>
      have listed : Gateway.Transparent known known (listPayments includeIncomplete page).perform :=
        ((transparent_fetchPayments .listPayments).bind fun _ => transparent_pure _).map _
      exact listed settings
  | listAll successfulOnly page =>
      have invoices : Gateway.Transparent known [] (fetchInvoices .listAll) :=
        (transparent_call _ _ _ _).bind fun _ => transparent_pure _
      have info : Gateway.Transparent known [] (fetchInfo .listAll) :=
        (transparent_call _ _ _ _).bind fun _ => transparent_read.bind fun _ => transparent_pure _
      have payments : Gateway.Transparent known known (fetchPayments .listAll) :=
        transparent_fetchPayments .listAll
      exact ⟨⟨[], known, .inl rfl, rfl, invoices settings, [], known, .inl rfl, rfl,
          transparent_fetchingOnChain .listAll settings requests, known, [], .inr rfl,
          List.append_nil known, payments settings, info settings⟩,
        fun _ _ => transparent_pure _ settings⟩
  | _ => cases lists

end Request

/-! ### Runs of requests -/

/-- A request that was served. -/
structure Served where
  request : Request
  before : Session
  events : List Event
  result : Except Failure Json
  after : Session

/-- Requests are served one after another. -/
inductive Serves (settings : Settings) : Session → List Served → Prop where
  | finished (session : Session) : Serves settings session []
  | next {request : Request} {session after : Session} {events : List Event}
      {result : Except Failure Json} {others : List Served}
      (runs : Braid.Runs (request.joined settings) session events result after)
      (rest : Serves settings after others) :
      Serves settings session (⟨request, session, events, result, after⟩ :: others)

namespace Served

/-- The payment requests that were listed meanwhile. -/
def listed (served : Served) : List String := Event.listed served.events

/-- The payment requests among some questions, if they were asked for a listing. -/
def among (served : Served) (queries : List Query) : List String :=
  if served.request.listsPayments then queries.filterMap Query.decodes? else []

/-- The payment requests that the client was asked to decode for a listing. -/
def asked (served : Served) : List String := served.among (puts served.events)

/-- The payment requests for which the client was heard. -/
def heard (served : Served) : List String :=
  served.among ((answers served.events).map Answered.query)

/-- The payment requests that were being decoded when the listing failed. -/
def cutOff (served : Served) : List String := served.among (drops served.events)

end Served

variable {settings : Settings} {decodes : String → Except TransportError String}

open Request in
/-- While a payment or a decoding is asked for, what is remembered changes its order at most. -/
theorem recalls_of_runs {request : Request} (usual : request.usesDecoded = true)
    (unlisted : request.listsPayments = false) {session after : Session} {events : List Event}
    {result : Except Failure Json}
    (runs : Braid.Runs (request.joined settings) session events result after) :
    Cache.Recalls (fresh decodes) [] [] session.requests after.requests := by
  let holds (later : Session) : Prop :=
    Cache.Recalls (fresh decodes) [] [] session.requests later.requests
  cases request with
  | sendPayment request timeoutSeconds feeLimit amount =>
      have remembers : Gateway.Keeps holds (fun _ => True)
          (Gateway.rememberedDescription request) := fun settings later held =>
        ⟨held.trans (Cache.recalls_get later.requests request), fun _ _ => trivial⟩
      have keeps : Gateway.Keeps holds (fun _ => True)
          (sendPayment request timeoutSeconds feeLimit amount).perform :=
        ((Gateway.keeps_call _ _ _ _).bind fun sent => remembers.bind fun description =>
          Gateway.keeps_pure _).map _
      exact runs.keeps (keeps settings) (.refl session.requests)
  | decodePayRequest request =>
      have decodes : Gateway.Keeps holds (fun _ => True) (Gateway.decodePayRequest request) := by
        intro settings
        change Dialogue.Keeps holds _ (Gateway.decoding .decodePayRequest request)
        rw [Gateway.decoding_eq]
        exact fun reply error _ => trivial
      exact runs.keeps (decodes.map _ settings) (.refl session.requests)
  | listAll | listPayments => cases unlisted
  | _ => cases usual

theorem recalls_served {request : Request} (usual : request.usesDecoded = true)
    {session after : Session} {events : List Event} {result : Except Failure Json}
    (runs : Braid.Runs (request.joined settings) session events result after)
    (sound : session.requests.Sound (fresh decodes)) (steady : Steady decodes events)
    {known : List String} (within : listed events ⊆ known) :
    Cache.Recalls (fresh decodes) known (Served.heard ⟨request, session, events, result, after⟩)
      session.requests after.requests := by
  unfold Served.heard Served.among
  cases lists : request.listsPayments with
  | false => exact (recalls_of_runs usual lists runs).mono (List.nil_subset known)
  | true =>
      exact (runs.follows (request.transparent_joined lists settings known _) sound steady
        within).1.recalls

/-- What was asked for a listing was heard or cut off. -/
theorem count_asked {request : Request} {session after : Session} {events : List Event}
    {result : Except Failure Json}
    (runs : Braid.Runs (request.joined settings) session events result after) (wanted : String) :
    (Served.asked ⟨request, session, events, result, after⟩).count wanted =
      (Served.heard ⟨request, session, events, result, after⟩).count wanted +
        (Served.cutOff ⟨request, session, events, result, after⟩).count wanted := by
  unfold Served.asked Served.heard Served.cutOff Served.among
  cases request.listsPayments with
  | false => rfl
  | true =>
      obtain ⟨orderly, nothing⟩ := request.unasked_joined settings
      have balanced : Braid.Balanced (fun query => query.decodes? == some wanted)
          (request.joined settings).inFlight events [] := runs.balanced orderly
      rw [nothing] at balanced
      simpa only [if_pos, List.count_filterMap, Braid.Balanced, List.countP_nil, Nat.add_zero]
        using balanced

/-- Decodings are cut off only in a listing of everything that fails. -/
theorem listAll_of_cutOff {request : Request} {session after : Session} {events : List Event}
    {result : Except Failure Json}
    (runs : Braid.Runs (request.joined settings) session events result after)
    (some : Served.cutOff ⟨request, session, events, result, after⟩ ≠ []) :
    (∃ successfulOnly page, request = .listAll successfulOnly page) ∧
      ∃ failure, result = .error failure := by
  have dropped : drops events ≠ [] := by
    intro none
    unfold Served.cutOff Served.among at some
    rw [none] at some
    exact some (ite_self [])
  refine ⟨?_, ?_⟩
  · cases request with
    | listAll successfulOnly page => exact ⟨successfulOnly, page, rfl⟩
    | listPayments => exact absurd (runs.drops_of_single trivial) dropped
    | _ => exact absurd rfl some
  · cases result with
    | error failure => exact ⟨failure, rfl⟩
    | ok value => exact absurd runs.drops_eq_nil dropped

section Run

variable {session : Session} {run : List Served} {known : List String}

/-- What holds of one request holds of a run of requests. -/
theorem recalls_serves (serves : Serves settings session run)
    (usual : ∀ served ∈ run, served.request.usesDecoded = true)
    (steady : ∀ served ∈ run, Steady decodes served.events)
    (sound : session.requests.Sound (fresh decodes)) (within : run.flatMap Served.listed ⊆ known) :
    ∃ final, Cache.Recalls (fresh decodes) known (run.flatMap Served.heard) session.requests
      final := by
  induction serves with
  | finished session => exact ⟨_, (Cache.Recalls.refl _).mono (List.nil_subset known)⟩
  | next runs rest ih =>
      obtain ⟨first_usual, others_usual⟩ := List.forall_mem_cons.mp usual
      obtain ⟨first_steady, others_steady⟩ := List.forall_mem_cons.mp steady
      rw [List.flatMap_cons] at within
      obtain ⟨first_within, others_within⟩ := List.append_subset.mp within
      have recalls := recalls_served first_usual runs sound first_steady first_within
      obtain ⟨final, further⟩ :=
        ih others_usual others_steady (recalls.sound sound) others_within
      refine ⟨final, ?_⟩
      rw [List.flatMap_cons]
      exact (recalls.trans further).mono
        (List.append_subset.mpr ⟨List.Subset.refl _, List.Subset.refl _⟩)

/-- Before and after each request, everything that is remembered is what the client would say. -/
theorem sound_of_mem (serves : Serves settings session run)
    (usual : ∀ served ∈ run, served.request.usesDecoded = true)
    (steady : ∀ served ∈ run, Steady decodes served.events)
    (sound : session.requests.Sound (fresh decodes)) :
    ∀ served ∈ run,
      Braid.Runs (served.request.joined settings) served.before served.events served.result
          served.after ∧
        served.before.requests.Sound (fresh decodes) ∧
        served.after.requests.Sound (fresh decodes) := by
  induction serves with
  | finished session => exact List.forall_mem_nil _
  | next runs rest ih =>
      obtain ⟨first_usual, others_usual⟩ := List.forall_mem_cons.mp usual
      obtain ⟨first_steady, others_steady⟩ := List.forall_mem_cons.mp steady
      have kept := (recalls_served first_usual runs sound first_steady
        (List.Subset.refl _)).sound sound
      exact List.forall_mem_cons.mpr
        ⟨⟨runs, sound, kept⟩, ih others_usual others_steady kept⟩

theorem count_asked_run (serves : Serves settings session run) (wanted : String) :
    (run.flatMap Served.asked).count wanted =
      (run.flatMap Served.heard).count wanted + (run.flatMap Served.cutOff).count wanted := by
  induction serves with
  | finished session => rfl
  | next runs rest ih =>
      have first := count_asked runs wanted
      simp only [List.flatMap_cons, List.count_append]
      omega

/-- Requests are served one after another, whatever the surroundings answer. -/
theorem exists_serves {ω : Type} (others : Surroundings ω) (settings : Settings)
    (requests : List Request) (session : Session) (world : ω) :
    ∃ run, Serves settings session run ∧ run.map Served.request = requests ∧
      ∀ served ∈ run, Steady decodes served.events ∧
        ∀ answered ∈ answers served.events, ∃ moment,
          answered.reply = (others.decoding decodes answered.query moment).1 := by
  induction requests generalizing session world with
  | nil => exact ⟨[], .finished session, rfl, List.forall_mem_nil _⟩
  | cons request rest ih =>
      obtain ⟨events, runs, answers⟩ :=
        request.exists_runs_perform (others.decoding decodes) settings session world
      obtain ⟨run, serves, same, steady⟩ := ih _ world
      refine ⟨_, .next runs serves, ?_, List.forall_mem_cons.mpr ⟨?_, steady⟩⟩
      · rw [List.map_cons, same]
      · refine ⟨fun request reply member => ?_, answers⟩
        obtain ⟨moment, told⟩ := answers _ (Event.mem_answers.mpr member)
        exact told

end Run

/-- Whatever the capacity, requests are served whatever the surroundings answer. In every run of
listings, payments and decodings that begins with nothing remembered, in whatever order the
answers come, each listing returns what a session returns that remembers nothing and decodes
everything afresh, and what is remembered was decoded successfully. Decodings are cut off only in
a listing of everything that fails. If all listed payment requests can be remembered together, one
that can be decoded is asked for at most once for a listing, and once more each time it was cut
off. -/
theorem listings_as_decoded_afresh (decodes : String → Except TransportError String)
    (settings : Settings) (capacity : Nat) (link : Link) (blocks : Cache UInt32 BlockTime) :
    let start : Session := ⟨link, .empty capacity, blocks⟩
    (∀ {ω : Type} (others : Surroundings ω) (_ : ω) (requests : List Request),
      ∃ run, Serves settings start run ∧ run.map Served.request = requests ∧
        ∀ served ∈ run, Steady decodes served.events ∧
          ∀ answered ∈ answers served.events, ∃ moment,
            answered.reply = (others.decoding decodes answered.query moment).1) ∧
    ∀ run, Serves settings start run →
      (∀ served ∈ run, served.request.usesDecoded = true) →
      (∀ served ∈ run, Steady decodes served.events) →
      (∀ served ∈ run, served.request.listsPayments = true →
        ∃ more, Afresh decodes served.events more ∧
          Braid.Runs (served.request.joined settings) served.before.forgetful more served.result
            served.after.forgetful) ∧
      (∀ served ∈ run, ∀ request decoded,
        served.after.requests.find? request = some decoded →
          fresh decodes request = .ok decoded) ∧
      (∀ served ∈ run, served.cutOff ≠ [] →
        (∃ successfulOnly page, served.request = .listAll successfulOnly page) ∧
          ∃ failure, served.result = .error failure) ∧
      ((run.flatMap Served.listed).dedup.length ≤ max capacity 1 →
        ∀ request decoded, fresh decodes request = .ok decoded →
          (run.flatMap Served.asked).count request ≤
            1 + (run.flatMap Served.cutOff).count request) := by
  intro start
  refine ⟨fun others world requests => exists_serves others settings requests start world,
    fun run serves usual steady => ?_⟩
  have nothing : start.requests.Sound (fresh decodes) := Cache.sound_empty _
  have each := sound_of_mem serves usual steady nothing
  refine ⟨fun served member lists => ?_, fun served member => (each served member).2.2,
    fun served member => listAll_of_cutOff (each served member).1,
    fun enough request decoded gives => ?_⟩
  · obtain ⟨runs, sound, -⟩ := each served member
    exact (runs.follows (served.request.transparent_joined lists settings _ _) sound
      (steady served member) (List.Subset.refl _)).2
  · obtain ⟨final, recalls⟩ :=
      recalls_serves serves usual steady nothing (List.subset_dedup _)
    have once := recalls.count_le_one (List.Subset.refl _) (Cache.roomy_empty enough) gives
    rw [count_asked_run serves]
    omega

/-! ### A decoding that is cut off -/

/-- Serves requests with the answers that are there in their polls, as far as these suffice. -/
def serve (settings : Settings) :
    List (Request × List Hearing) → Session → Option (List Served)
  | [], _ => some []
  | (request, hearings) :: others, session =>
      match (request.joined settings).polled hearings session with
      | (_, .going _, _) => none
      | (events, .ended result, after) =>
          (serve settings others after).map (⟨request, session, events, result, after⟩ :: ·)

/-- A script that suffices gives a run, in which only what is there is heard. -/
theorem serves_of_serve {settings : Settings} {script : List (Request × List Hearing)}
    {session : Session} {run : List Served} (served : serve settings script session = some run) :
    Serves settings session run ∧
      ∀ served ∈ run, ∀ answered ∈ answers served.events, ∃ step ∈ script, ∃ hears ∈ step.2,
        hears answered.query = some answered.reply := by
  induction script generalizing session run with
  | nil =>
      cases served
      exact ⟨.finished session, List.forall_mem_nil _⟩
  | cons first others ih =>
      obtain ⟨request, hearings⟩ := first
      rw [serve] at served
      rcases polled : (request.joined settings).polled hearings session with
        ⟨events, reached, after⟩
      rw [polled] at served
      cases reached with
      | going rest => cases served
      | ended result =>
          obtain ⟨rest, continued, rfl⟩ := Option.map_eq_some_iff.mp served
          obtain ⟨runs, heard⟩ := Braid.runs_polled polled
          obtain ⟨serves, later⟩ := ih continued
          refine ⟨.next runs serves, List.forall_mem_cons.mpr ⟨fun answered member => ?_,
            fun served among answered member => ?_⟩⟩
          · exact ⟨_, List.mem_cons_self, heard answered member⟩
          · obtain ⟨step, listed, told⟩ := later served among answered member
            exact ⟨step, List.mem_cons_of_mem _ listed, told⟩

/-- The client decodes each payment request in its own way, if it does so in a poll. -/
def Hearing.Decodes (decodes : String → Except TransportError String) (hears : Hearing) : Prop :=
  ∀ request reply, hears (.command ["decodepay", request]) = some reply → reply = decodes request

/-- Calls and commands that are answered in a poll. -/
def Hearing.answering (calls : String → Option (Except TransportError Json))
    (commands : List String → Option (Except TransportError String)) : Hearing
  | .call _ method _ => calls method
  | .command arguments => commands arguments
  | _ => none

def onePayment : Json :=
  .object [("pays", .array [.object [("bolt11", .string "lnbc1"), ("payment_hash", .string "00"),
    ("status", .string "complete"), ("created_at", .ofNat 1), ("amount_sent_msat", .ofNat 1000),
    ("amount_msat", .ofNat 1000)]])]

def decodedOutput : String :=
  "\x7b\"currency\":\"bc\",\"created_at\":1,\"expiry\":60,\"payee\":\"02\"," ++
    "\"payment_hash\":\"00\",\"min_final_cltv_expiry\":18\x7d"

/-- The payments are listed and decoded at once. -/
def listedAtOnce : Hearing :=
  .answering (fun method => if method = "listpays" then some (.ok onePayment) else none)
    fun arguments => if arguments = ["decodepay", "lnbc1"] then some (.ok decodedOutput) else none

/-- The payments are listed, and nothing else comes. -/
def onlyListed : Hearing :=
  .answering (fun method => if method = "listpays" then some (.ok onePayment) else none)
    fun _ => none

/-- The bookkeeper fails, and nothing else comes. -/
def bookkeeperFails : Hearing :=
  .answering (fun _ => none) fun arguments =>
    if arguments = ["bkpr-listincome"] then some (.error (.command "no such command")) else none

theorem decodes_listedAtOnce : listedAtOnce.Decodes fun _ => .ok decodedOutput := by
  intro request reply heard
  simp only [listedAtOnce, Hearing.answering, Option.ite_none_right_eq_some] at heard
  exact (Option.some.inj heard.2).symm

theorem decodes_onlyListed : onlyListed.Decodes fun _ => .ok decodedOutput :=
  fun _ _ heard => nomatch heard

theorem decodes_bookkeeperFails : bookkeeperFails.Decodes fun _ => .ok decodedOutput := by
  intro request reply heard
  simp [bookkeeperFails, Hearing.answering] at heard

/-- Two listings, with a decoding between them. The client takes its time for the first one. -/
def repeatedScript : List (Request × List Hearing) :=
  [(.listPayments true .whole, [onlyListed, listedAtOnce]),
    (.decodePayRequest "lnbc1", [listedAtOnce]), (.listPayments true .whole, [listedAtOnce])]

/-- A listing of everything for which the bookkeeper fails while the client is still decoding, and
a listing of payments. -/
def cutOffScript : List (Request × List Hearing) :=
  [(.listAll false .whole, [onlyListed, bookkeeperFails]),
    (.listPayments true .whole, [listedAtOnce])]

def plainSettings : Settings := ⟨.coreLightning, "getinfo", 5000, 1000, false⟩

/-- A session with room for one payment request. -/
def smallSession : Session := ⟨.establish 0, .empty 1, .empty 1⟩

def servedWith (script : List (Request × List Hearing)) : List Served :=
  (serve plainSettings script smallSession).getD []

theorem serves_servedWith {script : List (Request × List Hearing)} (ends : servedWith script ≠ [])
    (tells : ∀ step ∈ script, ∀ hears ∈ step.2, hears.Decodes fun _ => .ok decodedOutput) :
    Serves plainSettings smallSession (servedWith script) ∧
      ∀ served ∈ servedWith script, Steady (fun _ => .ok decodedOutput) served.events := by
  unfold servedWith at ends ⊢
  cases served : serve plainSettings script smallSession with
  | none =>
      rw [served] at ends
      exact absurd rfl ends
  | some run =>
      obtain ⟨serves, heard⟩ := serves_of_serve served
      refine ⟨serves, fun served among request reply member => ?_⟩
      obtain ⟨step, listed, hears, there, told⟩ :=
        heard served among _ (Event.mem_answers.mpr member)
      exact tells step listed hears there request reply told

theorem fresh_decodedOutput :
    fresh (fun _ => .ok decodedOutput) "lnbc1" =
      .ok ⟨"02", "00", none, 1, 60, "", none, 18, none, "bc"⟩ := by
  decide +kernel

theorem repeatedScript_decodes_once :
    Serves plainSettings smallSession (servedWith repeatedScript) ∧
      (servedWith repeatedScript).length = 3 ∧
      (∀ served ∈ servedWith repeatedScript, served.request.usesDecoded = true) ∧
      (∀ served ∈ servedWith repeatedScript,
        Steady (fun _ => .ok decodedOutput) served.events) ∧
      ((servedWith repeatedScript).flatMap Served.listed).dedup.length ≤ max 1 1 ∧
      (servedWith repeatedScript).flatMap Served.cutOff = [] ∧
      ((servedWith repeatedScript).flatMap Served.asked).count "lnbc1" ≤ 1 := by
  have facts : (∀ served ∈ servedWith repeatedScript, served.request.usesDecoded = true) ∧
      ((servedWith repeatedScript).flatMap Served.listed).dedup.length ≤ max 1 1 ∧
      (servedWith repeatedScript).flatMap Served.cutOff = [] ∧
      (servedWith repeatedScript).length = 3 := by
    decide +kernel
  obtain ⟨usual, enough, whole, three⟩ := facts
  have ends : servedWith repeatedScript ≠ [] := List.ne_nil_of_length_eq_add_one three
  obtain ⟨serves, steady⟩ := serves_servedWith ends
    (by simp [repeatedScript, decodes_onlyListed, decodes_listedAtOnce])
  have once := ((listings_as_decoded_afresh (fun _ => .ok decodedOutput) plainSettings 1
    (.establish 0) (.empty 1)).2 _ serves usual steady).2.2.2 enough "lnbc1" _ fresh_decodedOutput
  rw [whole] at once
  exact ⟨serves, three, usual, steady, enough, whole, once⟩

/-- One payment request is listed, there is room for it, and it can be decoded. Yet the client is
asked for it twice: the first decoding is cut off. -/
theorem decoded_again_after_cut_off :
    Serves plainSettings smallSession (servedWith cutOffScript) ∧
      (∀ served ∈ servedWith cutOffScript, served.request.usesDecoded = true) ∧
      (∀ served ∈ servedWith cutOffScript,
        Steady (fun _ => .ok decodedOutput) served.events) ∧
      ((servedWith cutOffScript).flatMap Served.listed).dedup.length ≤ 1 ∧
      (∃ decoded, fresh (fun _ => .ok decodedOutput) "lnbc1" = .ok decoded) ∧
      ((servedWith cutOffScript).flatMap Served.asked).count "lnbc1" = 2 := by
  have facts : (∀ served ∈ servedWith cutOffScript, served.request.usesDecoded = true) ∧
      ((servedWith cutOffScript).flatMap Served.listed).dedup.length ≤ 1 ∧
      ((servedWith cutOffScript).flatMap Served.asked).count "lnbc1" = 2 ∧
      (servedWith cutOffScript).length = 2 := by
    decide +kernel
  obtain ⟨usual, enough, twice, two⟩ := facts
  have ends : servedWith cutOffScript ≠ [] := List.ne_nil_of_length_eq_add_one two
  obtain ⟨serves, steady⟩ := serves_servedWith ends
    (by simp [cutOffScript, decodes_onlyListed, decodes_bookkeeperFails, decodes_listedAtOnce])
  exact ⟨serves, usual, steady, enough, ⟨_, fresh_decodedOutput⟩, twice⟩

end LightningGateway
