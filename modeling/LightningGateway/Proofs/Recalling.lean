import LightningGateway.Proofs.Cache
import LightningGateway.Proofs.Listings
import LightningGateway.Proofs.Polls

/-!
# Recalling payment requests

A dialogue is transparent for the payment requests that the session remembers if it looks at them
only to be spared a decoding. Where it finds one, it goes on as it would with the answer of the
client, and where it does not, it asks and stores what can be decoded. Polls of a braid of which
one strand at most looks at them are polls of a session that remembers nothing, with the spared
decodings put in.
-/

namespace LightningGateway

open Gateway (withRequests classified)

/-- The session with nothing remembered of payment requests, now or later. -/
def Session.forgetful (session : Session) : Session := withRequests session ⟨0, []⟩

/-! ### What was asked and heard -/

/-- The payment request that the client is asked to decode. -/
def Query.decodes? : Query → Option String
  | .command ["decodepay", request] => some request
  | _ => none

/-- The payment requests in a listing of the daemon, if the reply can be read as one. -/
def listedIn (reply : Except TransportError Json) : List String :=
  ((Gateway.reading Daemon.PaymentListing.codec reply).toOption.map fun listing =>
    listing.pays.filterMap Daemon.ReportedPayment.request?).getD []

theorem listedIn_of_reading {reply : Except TransportError Json} {listing : Daemon.PaymentListing}
    (read : Gateway.reading Daemon.PaymentListing.codec reply = .ok listing) :
    listedIn reply = listing.pays.filterMap Daemon.ReportedPayment.request? := by
  rw [listedIn, read]
  rfl

def Answered.lists : Answered → List String
  | ⟨.call _ "listpays" _, reply⟩ => listedIn reply
  | _ => []

namespace Event

/-- The payment requests for which the client was heard. -/
def decoded (events : List Event) : List String :=
  ((answers events).map Answered.query).filterMap Query.decodes?

/-- The payment requests in the listings that were heard. -/
def listed (events : List Event) : List String := (answers events).flatMap Answered.lists

variable {early late : List Event}

theorem decoded_append : decoded (early ++ late) = decoded early ++ decoded late := by
  rw [decoded, answers_append, List.map_append, List.filterMap_append]
  rfl

theorem listed_append : listed (early ++ late) = listed early ++ listed late := by
  rw [listed, answers_append, List.flatMap_append]
  rfl

theorem decoded_heard (answered : Answered) (events : List Event) :
    decoded (.heard answered :: events) = answered.query.decodes?.toList ++ decoded events := by
  change List.filterMap _ (answered.query :: (answers events).map Answered.query) = _
  rw [List.filterMap_cons]
  cases answered.query.decodes? <;> rfl

theorem listed_heard (answered : Answered) (events : List Event) :
    listed (.heard answered :: events) = answered.lists ++ listed events :=
  List.flatMap_cons

@[simp]
theorem decoded_dropped (queries : List Query) : decoded (queries.map .dropped) = [] := by
  rw [decoded, answers_dropped]
  rfl

@[simp]
theorem listed_dropped (queries : List Query) : listed (queries.map .dropped) = [] := by
  rw [listed, answers_dropped]
  rfl

end Event

open Event (decoded listed)

/-- What the client makes of a payment request. -/
def fresh (decodes : String → Except TransportError String) (request : String) :
    Except TransportError PaymentRequest :=
  (decodes request).bind Daemon.DecodedRequest.parse

section Steady

variable (decodes : String → Except TransportError String)

/-- The client decodes each payment request in its own way, always the same. -/
def Steady (events : List Event) : Prop :=
  ∀ request reply, .heard ⟨.command ["decodepay", request], reply⟩ ∈ events →
    reply = decodes request

/-- Some events, among which decodings that were answered at once are put in. -/
inductive Afresh : List Event → List Event → Prop where
  | nil : Afresh [] []
  | same {events more : List Event} (event : Event) (rest : Afresh events more) :
      Afresh (event :: events) (event :: more)
  | decoding {events more : List Event} (request : String) (rest : Afresh events more) :
      Afresh events (.put (.command ["decodepay", request]) ::
        .heard ⟨.command ["decodepay", request], decodes request⟩ :: more)

variable {decodes} {early late events more others : List Event}

theorem Steady.append_left (steady : Steady decodes (early ++ late)) : Steady decodes early :=
  fun request reply member => steady request reply (List.mem_append_left late member)

theorem Steady.append_right (steady : Steady decodes (early ++ late)) : Steady decodes late :=
  fun request reply member => steady request reply (List.mem_append_right early member)

theorem Steady.tail {event : Event} (steady : Steady decodes (event :: events)) :
    Steady decodes events :=
  fun request reply member => steady request reply (List.mem_cons_of_mem event member)

theorem Afresh.refl (events : List Event) : Afresh decodes events events := by
  induction events with
  | nil => exact .nil
  | cons event rest ih => exact .same event ih

theorem Afresh.append {further : List Event} (first : Afresh decodes events more)
    (second : Afresh decodes others further) :
    Afresh decodes (events ++ others) (more ++ further) := by
  induction first with
  | nil => exact second
  | same event rest ih => exact .same event ih
  | decoding request rest ih => exact .decoding request ih

end Steady

/-! ### Transparent dialogues -/

/-- A payment request, remembered or decoded. -/
def remembered (operation : Operation) (request : String) :
    Dialogue Session (Except Failure PaymentRequest) :=
  (Cache.remember request (Gateway.decoding operation request)).focus Session.requests
    fun requests session => { session with requests }

/-- What is remembered matters to a dialogue only in so far as it is spared decodings. It looks
up only what is wanted, and what was listed to it is known. -/
inductive Dialogue.Transparent (known wanted : List String) {α : Type} :
    Dialogue Session α → Prop where
  | done (value : α) : Transparent known wanted (.done value)
  | ask {query : Query} {next : query.Reply → Dialogue Session α}
      (unrelated : query.decodes? = none)
      (rest : ∀ reply, (Answered.mk query reply).lists ⊆ known →
        Transparent known wanted (next reply)) :
      Transparent known wanted (.ask query next)
  /-- Steps that neither see nor change what is remembered of payment requests. -/
  | work {dialogue : Dialogue Session α} (next : Session → Dialogue Session α)
      (change : Session → Session)
      (works : ∀ session, dialogue.advance session = (next session).advance (change session))
      (blind : ∀ session requests, next (withRequests session requests) = next session)
      (beside : ∀ session requests,
        change (withRequests session requests) = withRequests (change session) requests)
      (rest : ∀ session, Transparent known wanted (next session)) :
      Transparent known wanted dialogue
  | remembered {request : String} (operation : Operation)
      (next : Except Failure PaymentRequest → Dialogue Session α) (member : request ∈ wanted)
      (rest : ∀ result, Transparent known wanted (next result)) :
      Transparent known wanted (remembered operation request >>= next)

/-- Where a transparent dialogue stands. A payment request that is being decoded is not
remembered. -/
inductive Dialogue.Halt.Transparent (known wanted : List String)
    (requests : Cache String PaymentRequest) {α : Type} : Dialogue.Halt Session α → Prop where
  | ended (value : α) : Transparent known wanted requests (.ended value)
  | asking {query : Query} {next : query.Reply → Dialogue Session α}
      (unrelated : query.decodes? = none)
      (rest : ∀ reply, (Answered.mk query reply).lists ⊆ known →
        (next reply).Transparent known wanted) :
      Transparent known wanted requests (.asking query next)
  | decoding {request : String}
      {next : (Query.command ["decodepay", request]).Reply → Dialogue Session α}
      (operation : Operation) (further : Except Failure PaymentRequest → Dialogue Session α)
      (member : request ∈ wanted) (missing : requests.find? request = none)
      (continues : ∀ reply session, (next reply).advance session =
        (further (classified operation (reply.bind Daemon.DecodedRequest.parse))).advance
          (withRequests session
            (session.requests.storing request (reply.bind Daemon.DecodedRequest.parse))))
      (rest : ∀ result, (further result).Transparent known wanted) :
      Transparent known wanted requests (.asking (.command ["decodepay", request]) next)

variable {known wanted : List String} {decodes : String → Except TransportError String}

/-- What happens to the payment requests that are remembered. -/
structure Held (decodes : String → Except TransportError String) (wanted asked : List String)
    (before after : Cache String PaymentRequest) : Prop where
  recalls : Cache.Recalls (fresh decodes) wanted asked before after
  idle : (∀ request, request ∉ wanted) → after = before

namespace Held

variable {asked more further : List String} {before between after : Cache String PaymentRequest}

theorem refl (cache : Cache String PaymentRequest) : Held decodes wanted [] cache cache where
  recalls := (Cache.Recalls.refl cache).mono (List.nil_subset wanted)
  idle _ := rfl

theorem mono (held : Held decodes wanted asked before after) (contained : wanted ⊆ more) :
    Held decodes more asked before after where
  recalls := held.recalls.mono contained
  idle none := held.idle fun request member => none request (contained member)

theorem append (first : Held decodes wanted asked before between)
    (second : Held decodes more further between after) :
    Held decodes (wanted ++ more) (asked ++ further) before after where
  recalls := first.recalls.trans second.recalls
  idle none := by
    rw [second.idle fun request member => none request (List.mem_append_right _ member),
      first.idle fun request member => none request (List.mem_append_left _ member)]

theorem trans (first : Held decodes wanted asked before between)
    (second : Held decodes wanted further between after) :
    Held decodes wanted (asked ++ further) before after :=
  (first.append second).mono (List.append_subset.mpr ⟨List.Subset.refl _, List.Subset.refl _⟩)

end Held

namespace Dialogue

variable {α β : Type}

theorem Transparent.bind {dialogue : Dialogue Session α} {next : α → Dialogue Session β}
    (transparent : dialogue.Transparent known wanted)
    (rest : ∀ value, (next value).Transparent known wanted) :
    (dialogue >>= next).Transparent known wanted := by
  induction transparent with
  | done value => exact rest value
  | ask unrelated _ ih => exact .ask unrelated ih
  | work more change works blind beside _ ih =>
      refine .work (fun session => more session >>= next) change (fun session => ?_)
        (fun session requests => ?_) beside ih
      · rw [advance_bind, works, ← advance_bind]
      · rw [blind]
  | remembered operation more member _ ih =>
      rw [bind_assoc]
      exact .remembered operation _ member ih

/-- Stores what the client makes of a payment request, if it can be decoded. -/
def storing (request : String) : Except Failure PaymentRequest →
    Dialogue Session (Except Failure PaymentRequest)
  | .ok decoded =>
      focus Session.requests (fun requests session => withRequests session requests) do
        modify fun requests => requests.insert request decoded
        return .ok decoded
  | .error failure => return .error failure

/-- What is remembered is returned, and anything else is asked for and then remembered. -/
theorem advance_remembered (operation : Operation) (request : String)
    (next : Except Failure PaymentRequest → Dialogue Session α) (session : Session) :
    (remembered operation request >>= next).advance session =
      match session.requests.find? request with
      | some decoded =>
          (next (.ok decoded)).advance
            (withRequests session (session.requests.get request).2)
      | none =>
          (.asking (.command ["decodepay", request]) fun reply =>
            storing request (classified operation (reply.bind Daemon.DecodedRequest.parse)) >>=
              next, session) := by
  have looked : (focus Session.requests (fun requests session => { session with requests })
      (modifyGet fun requests : Cache String PaymentRequest => requests.get request)).advance
        session =
      (.ended (session.requests.get request).1,
        withRequests session (session.requests.get request).2) := rfl
  rw [remembered, Gateway.decoding_eq, Cache.remember, focus_bind, bind_assoc, advance_bind,
    looked, Halt.continue]
  cases held : session.requests.find? request with
  | some decoded =>
      rw [Cache.get_of_find?_eq_some held]
      rfl
  | none =>
      rw [Cache.get_of_find?_eq_none held]
      refine Prod.ext (congrArg (Halt.asking _) (funext fun reply => ?_)) rfl
      beta_reduce
      cases reply.bind Daemon.DecodedRequest.parse <;> rfl

theorem advance_storing (operation : Operation) (request : String)
    (found : Except TransportError PaymentRequest)
    (next : Except Failure PaymentRequest → Dialogue Session α) (session : Session) :
    (storing request (classified operation found) >>= next).advance session =
      (next (classified operation found)).advance
        (withRequests session (session.requests.storing request found)) := by
  cases found <;> rfl

/-- A session that remembers nothing stores nothing. -/
theorem forgetful_storing (session : Session) (request : String)
    (found : Except TransportError PaymentRequest) :
    withRequests session.forgetful (session.forgetful.requests.storing request found) =
      session.forgetful := by
  cases found <;> rfl

/-- Up to its next question a transparent dialogue leaves what is remembered as it was, apart from
its order, and a session that remembers nothing comes to the same question after the decodings of
which the dialogue was spared. -/
theorem Transparent.advance {dialogue : Dialogue Session α}
    (transparent : dialogue.Transparent known wanted) (session : Session)
    (sound : session.requests.Sound (fresh decodes)) :
    (dialogue.advance session).1.Transparent known wanted (dialogue.advance session).2.requests ∧
      Held decodes wanted [] session.requests (dialogue.advance session).2.requests ∧
      ∃ spared, Afresh decodes [] spared ∧ ∀ events after,
        Halt.Goes ((dialogue.advance session).1, (dialogue.advance session).2.forgetful) events
            after →
          Halt.Goes (dialogue.advance session.forgetful) (spared ++ events) after := by
  induction transparent generalizing session with
  | done value =>
      exact ⟨.ended value, .refl _, [], .nil, fun _ _ goes => goes⟩
  | ask unrelated rest _ =>
      exact ⟨.asking unrelated rest, .refl _, [], .nil, fun _ _ goes => goes⟩
  | work next change works blind beside _ ih =>
      have same := congrArg Session.requests (beside session session.requests)
      have kept : (change session).requests = session.requests := same
      have forgets := works session.forgetful
      rw [Session.forgetful, blind, beside] at forgets
      rw [works, ← kept]
      rw [← kept] at sound
      obtain ⟨stands, held, spared, afresh, goes⟩ := ih session (change session) sound
      refine ⟨stands, held, spared, afresh, fun events after begun => ?_⟩
      rw [Session.forgetful, forgets]
      exact goes events after begun
  | @remembered request operation next member rest ih =>
      have missing : session.forgetful.requests.find? request = none := rfl
      have forgets := advance_remembered operation request next session.forgetful
      rw [missing] at forgets
      rw [advance_remembered]
      cases found : session.requests.find? request with
      | some decoded =>
          have gives : (decodes request).bind Daemon.DecodedRequest.parse = .ok decoded :=
            sound request decoded found
          have looked : Cache.Recalls (fresh decodes) [] [] session.requests
              (session.requests.get request).2 :=
            Cache.recalls_get session.requests request
          obtain ⟨stands, held, spared, afresh, goes⟩ :=
            ih (.ok decoded) (withRequests session (session.requests.get request).2)
              (looked.sound sound)
          have first : Held decodes wanted [] session.requests (session.requests.get request).2 :=
            ⟨looked.mono (List.nil_subset _), fun none => absurd member (none request)⟩
          refine ⟨stands, first.trans held, _, .decoding request afresh,
            fun events after begun => ?_⟩
          rw [forgets]
          refine @Halt.Goes.hears _ _ (.command ["decodepay", request]) _ _ _ _ (decodes request) ?_
          rw [gives, advance_storing, forgetful_storing]
          exact goes events after begun
      | none =>
          refine ⟨?_, .refl _, [], .nil, fun events after begun => ?_⟩
          · exact .decoding operation next member found
              (fun reply session => advance_storing operation request _ next session) rest
          · rw [forgets]
            exact begun

/-- What hearing an answer leads to: a transparent dialogue, with what was decoded stored. -/
theorem Halt.Transparent.hear {query : Query} {next : query.Reply → Dialogue Session α}
    {session : Session}
    (stands : (Halt.asking query next).Transparent known wanted session.requests)
    {reply : query.Reply} {events : List Event}
    (steady : Steady decodes (.heard ⟨query, reply⟩ :: events))
    (within : (Answered.mk query reply).lists ⊆ known) :
    ∃ (dialogue : Dialogue Session α) (between : Session),
      dialogue.Transparent known wanted ∧
      (next reply).advance session = dialogue.advance between ∧
      (next reply).advance session.forgetful = dialogue.advance between.forgetful ∧
      Held decodes wanted query.decodes?.toList session.requests between.requests := by
  cases stands with
  | asking unrelated rest =>
      refine ⟨next reply, session, rest reply within, rfl, rfl, ?_⟩
      rw [unrelated]
      exact .refl _
  | @decoding request _ operation further member missing continues rest =>
      obtain rfl : reply = decodes request := steady request reply List.mem_cons_self
      refine ⟨_, _, rest _, continues _ session, ?_, ?_, fun none => absurd member (none request)⟩
      · rw [continues, forgetful_storing]
        rfl
      · have among : [request] ⊆ wanted := List.cons_subset.mpr ⟨member, List.nil_subset _⟩
        change Cache.Recalls _ wanted [request] session.requests
          (session.requests.storing request (fresh decodes request))
        cases found : fresh decodes request with
        | ok decoded => exact (Cache.recalls_insert found missing).mono among
        | error error => exact (Cache.recalls_of_refused found session.requests).mono among

/-- From where a dialogue stands some events lead on in a session that remembers, and the same
ones, with the spared decodings put in, in a session that remembers nothing. -/
structure Follows (decodes : String → Except TransportError String) (known wanted : List String)
    (before : Cache String PaymentRequest) (start : Halt Session α × Session)
    (events : List Event) (after : Halt Session α × Session) : Prop where
  stands : after.1.Transparent known wanted after.2.requests
  held : Held decodes wanted (decoded events) before after.2.requests
  afresh : ∃ more, Afresh decodes events more ∧
    Halt.Goes start more (after.1, after.2.forgetful)

variable {events : List Event} {before after : Halt Session α × Session}

theorem Transparent.follows {dialogue : Dialogue Session α}
    (transparent : dialogue.Transparent known wanted) {session : Session}
    (sound : session.requests.Sound (fresh decodes))
    (follows : Follows decodes known wanted (dialogue.advance session).2.requests
      ((dialogue.advance session).1, (dialogue.advance session).2.forgetful) events after) :
    Follows decodes known wanted session.requests (dialogue.advance session.forgetful) events
      after := by
  obtain ⟨-, held, spared, first, goes⟩ := transparent.advance session sound
  obtain ⟨stands, further, more, afresh, continues⟩ := follows
  exact ⟨stands, held.trans further, spared ++ more, first.append afresh, goes more _ continues⟩

theorem Halt.Goes.follows (goes : Halt.Goes before events after)
    (stands : before.1.Transparent known wanted before.2.requests)
    (sound : before.2.requests.Sound (fresh decodes)) (steady : Steady decodes events)
    (within : listed events ⊆ known) :
    Follows decodes known wanted before.2.requests (before.1, before.2.forgetful) events
      after := by
  induction goes with
  | ended value state => exact ⟨stands, .refl _, [], .nil, .ended value _⟩
  | stays query next state => exact ⟨stands, .refl _, _, .refl _, .stays query next _⟩
  | @hears query next state events after reply rest ih =>
      have heard : listed (.heard ⟨query, reply⟩ :: events) ⊆ known := within
      rw [Event.listed_heard] at heard
      obtain ⟨lists, within⟩ := List.append_subset.mp heard
      obtain ⟨dialogue, between, transparent, same, forgets, held⟩ :=
        stands.hear steady.tail lists
      rw [same] at ih
      have sound := held.recalls.sound sound
      obtain ⟨stands, first, -⟩ := transparent.advance between sound
      have follows := transparent.follows sound (ih stands (first.recalls.sound sound)
        steady.tail.tail within)
      obtain ⟨more, afresh, goes⟩ := follows.afresh
      refine ⟨follows.stands, ?_, _, .same _ (.same _ afresh), ?_⟩
      · have asked : decoded (.put query :: .heard ⟨query, reply⟩ :: events) =
            query.decodes?.toList ++ decoded events :=
          Event.decoded_heard ⟨query, reply⟩ events
        rw [asked]
        exact held.trans follows.held
      · refine .hears reply ?_
        rw [forgets]
        exact goes

end Dialogue

/-! ### Transparent braids -/

namespace Braid

/-- A braid of transparent strands. Of two that go on side by side one at most looks anything
up. -/
def Transparent (known wanted : List String) (requests : Cache String PaymentRequest) {α : Type} :
    Braid Session Failure α → Prop
  | strand dialogue => dialogue.Transparent known wanted
  | waiting query next => (Dialogue.Halt.asking query next).Transparent known wanted requests
  | both first second _ => ∃ early late, (early = [] ∨ late = []) ∧ early ++ late = wanted ∧
      first.Transparent known early requests ∧ second.Transparent known late requests
  | andThen first next => first.Transparent known wanted requests ∧
      ∀ value requests, (next value).Transparent known wanted requests

variable {α : Type}

/-- Where nothing is looked up, it does not matter what is remembered. -/
theorem Transparent.of_nil {requests : Cache String PaymentRequest}
    {braid : Braid Session Failure α}
    (transparent : braid.Transparent known [] requests) (others : Cache String PaymentRequest) :
    braid.Transparent known [] others := by
  induction braid with
  | strand dialogue => exact transparent
  | waiting query next =>
      cases transparent with
      | asking unrelated rest => exact .asking unrelated rest
      | decoding _ _ member => cases member
  | both first second combine ih later =>
      obtain ⟨early, late, -, nothing, begins, follows⟩ := transparent
      obtain ⟨rfl, rfl⟩ := List.append_eq_nil_iff.mp nothing
      exact ⟨[], [], .inl rfl, rfl, ih begins, later follows⟩
  | andThen first next ih later => exact ⟨ih transparent.1, transparent.2⟩

/-- What one of two strands looks up does not matter to the other one. -/
theorem Transparent.beside {firsts seconds asked : List String}
    {before between : Cache String PaymentRequest} {braid : Braid Session Failure α}
    (transparent : braid.Transparent known seconds before) (apart : firsts = [] ∨ seconds = [])
    (held : Held decodes firsts asked before between) :
    braid.Transparent known seconds between := by
  rcases apart with rfl | rfl
  · rw [held.idle fun _ => List.not_mem_nil]
    exact transparent
  · exact transparent.of_nil between

theorem Transparent.ofHalt {requests : Cache String PaymentRequest}
    {halt : Dialogue.Halt Session (Except Failure α)}
    (stands : halt.Transparent known wanted requests) :
    (Reached.ofHalt halt).rest.Transparent known wanted requests := by
  cases stands with
  | ended result => exact .done result
  | asking unrelated rest => exact .asking unrelated rest
  | decoding operation further member missing continues rest =>
      exact .decoding operation further member missing continues rest

/-- A poll of a session that remembers is one of a session that remembers nothing, with the spared
decodings put in. -/
structure Follows (decodes : String → Except TransportError String) (known wanted : List String)
    (braid : Braid Session Failure α) (before : Session) (events : List Event)
    (reached : Reached Session Failure α) (after : Session) : Prop where
  transparent : reached.rest.Transparent known wanted after.requests
  held : Held decodes wanted (decoded events) before.requests after.requests
  afresh : ∃ more, Afresh decodes events more ∧
    Polls braid before.forgetful more reached after.forgetful

theorem Polls.follows {α : Type} {braid : Braid Session Failure α} {before after : Session}
    {events : List Event} {reached : Reached Session Failure α}
    (polls : Polls braid before events reached after)
    (transparent : braid.Transparent known wanted before.requests)
    (sound : before.requests.Sound (fresh decodes)) (steady : Steady decodes events)
    (within : listed events ⊆ known) :
    Follows decodes known wanted braid before events reached after := by
  induction polls generalizing wanted with
  | @strand _ dialogue before _ _ _ goes =>
      obtain ⟨stands, held, -⟩ := Dialogue.Transparent.advance transparent before sound
      have follows := Dialogue.Transparent.follows transparent sound
        (goes.follows stands (held.recalls.sound sound) steady within)
      obtain ⟨more, afresh, goes⟩ := follows.afresh
      exact ⟨.ofHalt follows.stands, follows.held, more, afresh, .strand goes⟩
  | waits query next state => exact ⟨transparent, .refl _, [], .nil, .waits query next _⟩
  | @hears _ query next before _ events _ reply goes =>
      rw [Event.listed_heard] at within
      obtain ⟨lists, within⟩ := List.append_subset.mp within
      obtain ⟨dialogue, between, transparent, same, forgets, held⟩ :=
        Dialogue.Halt.Transparent.hear transparent steady lists
      rw [same] at goes
      have sound := held.recalls.sound sound
      obtain ⟨stands, first, -⟩ := transparent.advance between sound
      have follows := transparent.follows sound
        (goes.follows stands (first.recalls.sound sound) steady.tail within)
      obtain ⟨more, afresh, goes⟩ := follows.afresh
      refine ⟨.ofHalt follows.stands, ?_, _, .same _ afresh, .hears reply ?_⟩
      · rw [Event.decoded_heard]
        exact held.trans follows.held
      · rw [forgets]
        exact goes
  | firstFails fails second combine ih =>
      obtain ⟨firsts, seconds, -, rfl, begins, -⟩ := transparent
      rw [Event.listed_append, Event.listed_dropped, List.append_nil] at within
      obtain ⟨-, held, more, afresh, polls⟩ := ih begins sound steady.append_left within
      refine ⟨.done _, ?_, _, afresh.append (.refl _), .firstFails polls second combine⟩
      rw [Event.decoded_append, Event.decoded_dropped, List.append_nil]
      exact held.mono (List.subset_append_left _ _)
  | secondFails goes unfailed fails combine ih later =>
      obtain ⟨firsts, seconds, apart, rfl, begins, others⟩ := transparent
      rw [Event.listed_append, Event.listed_dropped, List.append_nil, Event.listed_append] at within
      obtain ⟨early, late⟩ := List.append_subset.mp within
      obtain ⟨-, held, more, afresh, polls⟩ :=
        ih begins sound steady.append_left.append_left early
      obtain ⟨-, further, rest, also, follows⟩ := later (others.beside apart held)
        (held.recalls.sound sound) steady.append_left.append_right late
      refine ⟨.done _, ?_, _, (afresh.append also).append (.refl _),
        .secondFails polls unfailed follows combine⟩
      rw [Event.decoded_append, Event.decoded_dropped, List.append_nil, Event.decoded_append]
      exact held.append further
  | bothGo goes unfailed follows alsoUnfailed combine ih later =>
      obtain ⟨firsts, seconds, apart, rfl, begins, others⟩ := transparent
      rw [Event.listed_append] at within
      obtain ⟨early, late⟩ := List.append_subset.mp within
      obtain ⟨first, held, more, afresh, polls⟩ := ih begins sound steady.append_left early
      obtain ⟨second, further, rest, also, follows⟩ := later (others.beside apart held)
        (held.recalls.sound sound) steady.append_right late
      refine ⟨?_, ?_, _, afresh.append also, .bothGo polls unfailed follows alsoUnfailed combine⟩
      · rcases Reached.both_cases combine unfailed alsoUnfailed with going | ⟨value, other, rfl, rfl⟩
        · rw [going]
          exact ⟨firsts, seconds, apart, rfl, first.beside apart.symm further, second⟩
        · exact .done _
      · rw [Event.decoded_append]
        exact held.append further
  | fails fails next ih =>
      obtain ⟨-, held, more, afresh, polls⟩ := ih transparent.1 sound steady within
      exact ⟨.done _, held, more, afresh, .fails polls next⟩
  | goesOn goes next ih =>
      obtain ⟨rest, held, more, afresh, polls⟩ := ih transparent.1 sound steady within
      exact ⟨⟨rest, transparent.2⟩, held, more, afresh, .goesOn polls next⟩
  | continues ends follows ih later =>
      rw [Event.listed_append] at within
      obtain ⟨early, late⟩ := List.append_subset.mp within
      obtain ⟨-, held, more, afresh, polls⟩ := ih transparent.1 sound steady.append_left early
      obtain ⟨rest, further, others, also, continues⟩ := later (transparent.2 _ _)
        (held.recalls.sound sound) steady.append_right late
      refine ⟨rest, ?_, _, afresh.append also, .continues polls continues⟩
      rw [Event.decoded_append]
      exact held.trans further

/-- What holds of every poll holds of a run. -/
theorem Runs.follows {braid : Braid Session Failure α} {before after : Session}
    {events : List Event} {result : Except Failure α}
    (runs : Runs braid before events result after)
    (transparent : braid.Transparent known wanted before.requests)
    (sound : before.requests.Sound (fresh decodes)) (steady : Steady decodes events)
    (within : listed events ⊆ known) :
    Held decodes wanted (decoded events) before.requests after.requests ∧
      ∃ more, Afresh decodes events more ∧
        Runs braid before.forgetful more result after.forgetful := by
  induction runs with
  | ends polls =>
      obtain ⟨-, held, more, afresh, polls⟩ := polls.follows transparent sound steady within
      exact ⟨held, more, afresh, .ends polls⟩
  | polled polls runs ih =>
      rw [Event.listed_append] at within
      obtain ⟨early, late⟩ := List.append_subset.mp within
      obtain ⟨rest, held, more, afresh, polls⟩ :=
        polls.follows transparent sound steady.append_left early
      obtain ⟨further, others, also, runs⟩ :=
        ih rest (held.recalls.sound sound) steady.append_right late
      refine ⟨?_, _, afresh.append also, .polled polls runs⟩
      rw [Event.decoded_append]
      exact held.trans further

end Braid

end LightningGateway
