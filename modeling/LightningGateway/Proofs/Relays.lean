import LightningGateway.Proofs.Forwarding
import LightningGateway.Proofs.Watching

/-!
# The subscription to forwards among others

Payments may be forwarded at any time, whatever the subscription is doing. It hands out the
forwards that have joined the listing since its first look, in the order of the listing, and what
its last fetch has found waits until it is handed out.
-/

namespace LightningGateway

namespace ForwardFeed

open Daemon (Forward ForwardListing)
open Gateway (classified reading)

/-! ### Answers of the daemon -/

/-- A listing holds all forwards. It may fail if faults are possible. -/
def Lists (faults : Prop) (forwards : List Forward) : Except TransportError ForwardListing → Prop
  | .ok listing => listing.forwards = forwards
  | .error _ => faults

/-- The answers of a daemon about its forwards, and of the clock. -/
def Answers (faults : Prop) : Answered → List Forward → Prop
  | ⟨.call _ method parameters, reply⟩, forwards =>
      method = "listforwards" ∧ parameters = .object [("status", .string "settled")] ∧
        Lists faults forwards (reading ForwardListing.codec reply)
  | ⟨.sleep _, ()⟩, _ => True
  | _, _ => False

/-- A daemon that forwards payments at any time. If faults are possible, calls may fail and the
connection may be lost. -/
def milieu (faults : Prop) : Milieu (List Forward) where
  finds := Session.Usable faults
  changes before after := before <+: after
  answers := Answers faults

/-! ### Turns -/

/-- What the first look brings. -/
def looked : Except Failure ForwardListing → Turn (Except Failure ForwardEvent) × ForwardFeed
  | .ok listing => (.quiet, between listing.forwards.length [] false)
  | .error failure => (.item (.error failure), .finished)

/-- What a fetch brings. -/
def fetched (watermark : Nat) :
    Except Failure ForwardListing → Turn (Except Failure ForwardEvent) × ForwardFeed
  | .ok listing =>
      (.quiet, between watermark ((listing.forwards.drop watermark).map Forward.toEvent) true)
  | .error failure => (.item (.error failure), .polling ⟨⟨watermark, []⟩, true, true⟩)

/-- A call of the listing. -/
def listing (settings : Settings) : Dialogue Session (Except Failure ForwardListing) :=
  (Gateway.call .listenForwards ForwardListing.codec "listforwards"
    (.object [("status", .string "settled")])).toDialogue settings

theorem turn_starting (settings : Settings) :
    turn settings .starting = looked <$> listing settings := by
  rw [turn, Gateway.fetchForwards, Gateway.toDialogue_map_bind, map_eq_pure_bind]
  congr
  funext result
  cases result <;> rfl

theorem toDialogue_fetchForwardEvents (settings : Settings) :
    Gateway.fetchForwardEvents.toDialogue settings =
      (fun result => (result.map ForwardListing.forwards).map (List.map Forward.toEvent)) <$>
        listing settings := by
  calc Gateway.fetchForwardEvents.toDialogue settings
      = Gateway.fetchForwardEvents.toDialogue settings >>= pure := (bind_pure _).symm
    _ = (Gateway.fetchForwards .listenForwards).toDialogue settings >>= fun result =>
          pure (result.map (List.map Forward.toEvent)) :=
        Gateway.toDialogue_map_bind _ _ settings pure
    _ = listing settings >>= fun result =>
          pure ((result.map ForwardListing.forwards).map (List.map Forward.toEvent)) :=
        Gateway.toDialogue_map_bind _ _ settings _
    _ = _ := (map_eq_pure_bind _ _).symm

theorem turn_empty (settings : Settings) (watermark : Nat) (again : Bool) :
    turn settings (between watermark [] again) =
      (if again then Dialogue.query (.sleep (Poller.pause settings.pollInterval)) else pure ()) >>=
        fun _ => fetched watermark <$> listing settings := by
  have brings (result : Except Failure ForwardListing) :
      ((Polling.received ⟨watermark, []⟩
          ((result.map ForwardListing.forwards).map (List.map Forward.toEvent))).1,
        ForwardFeed.polling (Polling.received ⟨watermark, []⟩
          ((result.map ForwardListing.forwards).map (List.map Forward.toEvent))).2) =
        fetched watermark result := by
    cases result with
    | error failure => rfl
    | ok found => simp [Except.map, Polling.received, Poller.observe, fetched, between]
  simp only [turn, between, Polling.turn_empty, toDialogue_fetchForwardEvents, map_eq_pure_bind,
    bind_assoc, pure_bind, brings]

/-- The first look at what is known. -/
def look (handle : Handle) :
    Dialogue.Halt Session (Turn (Except Failure ForwardEvent) × ForwardFeed) :=
  .asking (fetchQuery handle) fun reply =>
    .done (looked (classified .listenForwards (reading ForwardListing.codec reply)))

/-- A fetch of the listing. -/
def fetch (handle : Handle) (watermark : Nat) :
    Dialogue.Halt Session (Turn (Except Failure ForwardEvent) × ForwardFeed) :=
  .asking (fetchQuery handle) fun reply =>
    .done (fetched watermark (classified .listenForwards (reading ForwardListing.codec reply)))

/-- A pause before a fetch. -/
def rest (settings : Settings) (watermark : Nat) :
    Dialogue.Halt Session (Turn (Except Failure ForwardEvent) × ForwardFeed) :=
  .asking (.sleep (Poller.pause settings.pollInterval)) fun _ =>
    fetched watermark <$> listing settings

theorem advance_starting (settings : Settings) (session : Session) :
    (turn settings .starting).advance session =
      match session.link.transport with
      | .ok handle => (look handle, session)
      | .error failure => (.ended (.item (.error failure), .finished), session) := by
  rw [turn_starting, listing, Gateway.advance_map_call]
  rfl

theorem advance_fetched (settings : Settings) (watermark : Nat) (session : Session) :
    (fetched watermark <$> listing settings).advance session =
      match session.link.transport with
      | .ok handle => (fetch handle watermark, session)
      | .error failure =>
          (.ended (.item (.error failure), .polling ⟨⟨watermark, []⟩, true, true⟩), session) := by
  rw [listing, Gateway.advance_map_call]
  rfl

/-- Without anything that waits, the next fetch comes at once or after a pause. -/
theorem advance_empty (settings : Settings) (watermark : Nat) (again : Bool) (session : Session) :
    (turn settings (between watermark [] again)).advance session =
      if again then (rest settings watermark, session)
      else (fetched watermark <$> listing settings).advance session := by
  rw [turn_empty]
  cases again <;> rfl

theorem advance_pending (settings : Settings) (watermark : Nat) (event : ForwardEvent)
    (others : List ForwardEvent) (again : Bool) (session : Session) :
    (turn settings (between watermark (event :: others) again)).advance session =
      (.ended (.item (.ok event), between (watermark + 1) others again), session) :=
  rfl

/-! ### The course of the subscription -/

/-- What is around the subscription, and what has come of it. -/
abbrev Watching := Watch (Except Failure ForwardEvent) ForwardFeed (List Forward)

/-- A call was answered with a listing. -/
def Offers : Answered → Prop
  | ⟨.call _ _ _, reply⟩ => ∃ listing, reading ForwardListing.codec reply = .ok listing
  | _ => False

theorem not_offers_sleep (milliseconds : Nat) : ¬ Offers ⟨.sleep milliseconds, ()⟩ := id

/-- Forwards were handed out up to the last one that was seen. What follows it in the listing that
was fetched last waits. -/
structure Handed (watch : Watching) (known seen listed : List Forward)
    (failure : Option Failure) : Prop where
  follows : watch.Follows id Forward.toEvent known seen failure
  waits : seen <+: listed
  happened : listed <+: watch.world
  /-- No listing was longer. -/
  offered : ∀ look ∈ watch.heard, Offers look.1 → look.2 <+: listed

/-- A subscription between two turns, not all of which may have been handed out. -/
structure Resting (watch : Watching) (known seen listed : List Forward) : Prop
    extends Handed watch known seen listed none where
  heard : watch.heard ≠ []
  idle : ∃ brought again, watch.halt = .ended (brought,
    between seen.length ((listed.drop seen.length).map Forward.toEvent) again)

/-- A subscription that stands at a question has handed out all that was fetched. -/
structure Empty (watch : Watching) (known seen : List Forward) : Prop
    extends Handed watch known seen seen none where
  heard : watch.heard ≠ []

/-- A subscription that has failed goes no further. -/
def Over (stage : ForwardFeed) : Prop :=
  stage = .finished ∨ ∃ watermark, stage = .polling ⟨⟨watermark, []⟩, true, true⟩

/-- Where a subscription may stand. -/
inductive Stands (faults : Prop) (settings : Settings) (watch : Watching) : Prop where
  | starting (idle : watch.halt = .ended (.quiet, .starting)) (unheard : watch.heard = [])
      (empty : watch.items = [])
  | looking {handle : Handle} (asks : watch.halt = look handle) (unheard : watch.heard = [])
      (empty : watch.items = [])
  | resting {known seen listed : List Forward} (rests : Resting watch known seen listed)
  | pausing {known seen : List Forward} (asks : watch.halt = rest settings seen.length)
      (empty : Empty watch known seen)
  | fetching {handle : Handle} {known seen : List Forward}
      (asks : watch.halt = fetch handle seen.length) (empty : Empty watch known seen)
  | failed {brought : Turn (Except Failure ForwardEvent)} {stage : ForwardFeed}
      {known seen : List Forward} {failure : Failure} (faulty : faults) (lost : Over stage)
      (ended : watch.halt = .ended (brought, stage))
      (handed : Handed watch known seen seen (some failure))

variable {faults : Prop} {settings : Settings} {watch : Watching}
  {known seen listed : List Forward} {failure : Option Failure}

namespace Handed

theorem opened (unheard : watch.heard = []) (empty : watch.items = []) :
    Handed watch [] [] [] none where
  follows := .opened id Forward.toEvent unheard empty
  waits := List.prefix_rfl
  happened := List.nil_prefix
  offered look heard := by simp [unheard] at heard

theorem passes (handed : Handed watch known seen listed failure) (session : Session)
    {world : List Forward} (grown : watch.world <+: world) :
    Handed { watch with session, world } known seen listed failure :=
  ⟨handed.follows.passes session grown, handed.waits, handed.happened.trans grown, handed.offered⟩

theorem goes_on (handed : Handed watch known seen listed failure)
    (halt : Dialogue.Halt Session (Turn (Except Failure ForwardEvent) × ForwardFeed))
    (session : Session) : Handed { watch with halt, session } known seen listed failure :=
  ⟨handed.follows.goes_on halt session, handed.waits, handed.happened, handed.offered⟩

theorem fail (handed : Handed watch known seen listed none) (failure : Failure)
    (halt : Dialogue.Halt Session (Turn (Except Failure ForwardEvent) × ForwardFeed))
    (session : Session) :
    Handed { watch with halt, session, items := watch.items ++ [.error failure] } known seen listed
      (some failure) :=
  ⟨handed.follows.fail failure halt session, handed.waits, handed.happened, handed.offered⟩

/-- The first answer shows what is known. -/
theorem look (unheard : watch.heard = []) (empty : watch.items = []) (answered : Answered) :
    Handed (watch.hear answered) watch.world watch.world watch.world none where
  follows := .look id Forward.toEvent unheard empty answered
  waits := List.prefix_rfl
  happened := List.prefix_rfl
  offered look heard _ := by
    rw [Watch.hear, unheard] at heard
    rw [List.mem_singleton.mp heard]

/-- An answer that offers nothing new. -/
theorem hear (handed : Handed watch known seen listed failure) (heard : watch.heard ≠ [])
    {answered : Answered} (nothing : ¬ Offers answered) :
    Handed (watch.hear answered) known seen listed failure where
  follows := handed.follows.hear heard answered
  waits := handed.waits
  happened := handed.happened
  offered look member offers := by
    rcases List.mem_append.mp member with earlier | now
    · exact handed.offered look earlier offers
    · rw [List.mem_singleton.mp now] at offers
      exact absurd offers nothing

/-- A listing offers all that has happened. -/
theorem fetch (handed : Handed watch known seen listed failure) (heard : watch.heard ≠ [])
    (answered : Answered) : Handed (watch.hear answered) known seen watch.world failure where
  follows := handed.follows.hear heard answered
  waits := handed.waits.trans handed.happened
  happened := List.prefix_rfl
  offered look member offers := by
    rcases List.mem_append.mp member with earlier | now
    · exact (handed.offered look earlier offers).trans handed.happened
    · rw [List.mem_singleton.mp now]

/-- The next forward is handed out. -/
theorem hand (handed : Handed watch known seen listed none) {forward : Forward}
    (next : seen ++ [forward] <+: listed)
    (halt : Dialogue.Halt Session (Turn (Except Failure ForwardEvent) × ForwardFeed))
    (session : Session) :
    Handed { watch with halt, session, items := watch.items ++ [.ok forward.toEvent] } known
      (seen ++ [forward]) listed none where
  follows := handed.follows.hand (next.trans handed.happened) halt session
  waits := next
  happened := handed.happened
  offered := handed.offered

end Handed

/-- Time passes. -/
theorem Stands.passes (stands : Stands faults settings watch) (session : Session)
    {world : List Forward} (grown : watch.world <+: world) :
    Stands faults settings { watch with session, world } := by
  cases stands with
  | starting idle unheard empty => exact .starting idle unheard empty
  | looking asks unheard empty => exact .looking asks unheard empty
  | resting rests => exact .resting ⟨rests.toHanded.passes session grown, rests.heard, rests.idle⟩
  | pausing asks empty => exact .pausing asks ⟨empty.toHanded.passes session grown, empty.heard⟩
  | fetching asks empty => exact .fetching asks ⟨empty.toHanded.passes session grown, empty.heard⟩
  | failed faulty lost ended handed => exact .failed faulty lost ended (handed.passes session grown)

/-- The subscription fetches the listing, or it fails without a connection. -/
theorem Empty.fetches (empty : Empty watch known seen) (usable : watch.session.Usable faults) :
    Stands faults settings (watch.resume (fetched seen.length <$> listing settings)) ∧
      (watch.resume (fetched seen.length <$> listing settings)).session = watch.session := by
  have advanced := advance_fetched settings seen.length watch.session
  cases connection : watch.session.link.transport with
  | ok handle =>
      rw [connection] at advanced
      rw [Watch.resume_silently advanced rfl]
      exact ⟨.fetching rfl ⟨empty.toHanded.goes_on _ _, empty.heard⟩, rfl⟩
  | error failure =>
      rw [connection] at advanced
      rw [Watch.resume_of_advance advanced]
      exact ⟨.failed (usable.faults_of_lost connection) (Or.inr ⟨_, rfl⟩) rfl
        (empty.toHanded.fail failure _ _), rfl⟩

/-- The subscription hands out the next forward that waits. -/
theorem Handed.hands (handed : Handed watch known seen listed none) (heard : watch.heard ≠ [])
    {forward : Forward} {others : List Forward}
    (more : listed.drop seen.length = forward :: others) (settings : Settings) (again : Bool) :
    Resting (watch.resume (turn settings
        (between seen.length ((listed.drop seen.length).map Forward.toEvent) again)))
      known (seen ++ [forward]) listed := by
  have whole : seen ++ forward :: others = listed := by
    rw [← more]
    exact (List.prefix_append_drop handed.waits).symm
  have next : seen ++ [forward] <+: listed := ⟨others, by simpa using whole⟩
  have left : listed.drop (seen ++ [forward]).length = others := by
    rw [← whole, List.append_cons seen forward others, List.drop_left]
  rw [more, List.map_cons, Watch.resume_of_advance (advance_pending ..)]
  refine ⟨handed.hand next _ _, heard, .item (.ok forward.toEvent), again, ?_⟩
  rw [left, List.length_append, List.length_singleton]

/-- The subscription is polled for its next turn. -/
theorem Stands.polled (stands : Stands faults settings watch)
    (usable : watch.session.Usable faults) {brought : Turn (Except Failure ForwardEvent)}
    {stage : ForwardFeed} (idle : watch.halt = .ended (brought, stage)) :
    Stands faults settings (watch.resume (turn settings stage)) ∧
      (watch.resume (turn settings stage)).session = watch.session := by
  cases stands with
  | starting rests unheard empty =>
      cases rests.symm.trans idle
      have advanced := advance_starting settings watch.session
      cases connection : watch.session.link.transport with
      | ok handle =>
          rw [connection] at advanced
          rw [Watch.resume_silently advanced rfl]
          exact ⟨.looking rfl unheard empty, rfl⟩
      | error failure =>
          rw [connection] at advanced
          rw [Watch.resume_of_advance advanced]
          exact ⟨.failed (usable.faults_of_lost connection) (Or.inl rfl) rfl
            ((Handed.opened unheard empty).fail failure _ _), rfl⟩
  | looking asks unheard empty =>
      rw [asks] at idle
      cases idle
  | @resting known seen listed rests =>
      obtain ⟨handed, heard, _, again, stays⟩ := rests
      cases stays.symm.trans idle
      cases more : listed.drop seen.length with
      | nil =>
          obtain rfl : seen = listed :=
            handed.waits.eq_of_length_le (List.drop_eq_nil_iff.mp more)
          have advanced := advance_empty settings seen.length again watch.session
          cases again with
          | false =>
              rw [List.map_nil, Watch.resume_congr advanced]
              exact Empty.fetches ⟨handed, heard⟩ usable
          | true =>
              rw [List.map_nil, Watch.resume_silently advanced rfl]
              exact ⟨.pausing rfl ⟨handed.goes_on _ _, heard⟩, rfl⟩
      | cons forward others =>
          have hands := handed.hands heard more settings again
          rw [more] at hands
          exact ⟨.resting hands, rfl⟩
  | pausing asks empty =>
      rw [asks] at idle
      cases idle
  | fetching asks empty =>
      rw [asks] at idle
      cases idle
  | failed faulty lost ended handed =>
      cases ended.symm.trans idle
      have advanced : (turn settings stage).advance watch.session =
          (.ended (.ended, stage), watch.session) := by
        obtain rfl | ⟨watermark, rfl⟩ := lost <;> rfl
      rw [Watch.resume_silently advanced rfl]
      exact ⟨.failed faulty lost rfl (handed.goes_on _ _), rfl⟩

/-- The listing of the first look arrives. -/
theorem resting_of_listed {handle : Handle} (unheard : watch.heard = [])
    (empty : watch.items = []) {reply : Except TransportError Json}
    (read : reading ForwardListing.codec reply = .ok ⟨watch.world⟩) :
    Resting ((watch.hear ⟨fetchQuery handle, reply⟩).resume
        (.done (looked (classified .listenForwards (reading ForwardListing.codec reply)))))
      watch.world watch.world watch.world := by
  rw [read, Gateway.classified_ok, looked, Watch.resume_quiet]
  refine ⟨(Handed.look unheard empty _).goes_on _ _, by simp [Watch.hear], .quiet, false, ?_⟩
  simp

/-- A listing arrives. -/
theorem Empty.resting_of_listed (empty : Empty watch known seen) {handle : Handle}
    {reply : Except TransportError Json}
    (read : reading ForwardListing.codec reply = .ok ⟨watch.world⟩) :
    Resting ((watch.hear ⟨fetchQuery handle, reply⟩).resume
        (.done (fetched seen.length
          (classified .listenForwards (reading ForwardListing.codec reply)))))
      known seen watch.world := by
  rw [read, Gateway.classified_ok, fetched, Watch.resume_quiet]
  exact ⟨(empty.toHanded.fetch empty.heard _).goes_on _ _, by simp [Watch.hear], .quiet, true,
    rfl⟩

/-- The subscription gets the answer to its question. -/
theorem Stands.answered (stands : Stands faults settings watch)
    (usable : watch.session.Usable faults) {query : Query}
    {next : query.Reply → Dialogue Session (Turn (Except Failure ForwardEvent) × ForwardFeed)}
    {reply : query.Reply} (asks : watch.halt = .asking query next)
    (answer : Answers faults ⟨query, reply⟩ watch.world) :
    Stands faults settings ((watch.hear ⟨query, reply⟩).resume (next reply)) ∧
      ((watch.hear ⟨query, reply⟩).resume (next reply)).session = watch.session := by
  cases stands with
  | starting idle unheard empty =>
      rw [idle] at asks
      cases asks
  | @looking handle looks unheard empty =>
      cases looks.symm.trans asks
      obtain ⟨-, -, lists⟩ := answer
      refine ⟨?_, rfl⟩
      cases read : reading ForwardListing.codec reply with
      | ok listing =>
          rw [read] at lists
          obtain rfl : listing = ⟨watch.world⟩ := congrArg ForwardListing.mk lists
          exact .resting (ForwardFeed.resting_of_listed unheard empty read)
      | error error =>
          rw [read] at lists
          dsimp only
          rw [read, Gateway.classified_error, looked, Watch.resume_item]
          exact .failed lists (Or.inl rfl) rfl ((Handed.look unheard empty _).fail _ _ _)
  | resting rests =>
      obtain ⟨-, -, brought, again, idle⟩ := rests
      rw [idle] at asks
      cases asks
  | pausing rests empty =>
      cases rests.symm.trans asks
      have heard : Empty (watch.hear ⟨.sleep (Poller.pause settings.pollInterval), ()⟩) _ _ :=
        ⟨empty.toHanded.hear empty.heard (not_offers_sleep _), by simp [Watch.hear]⟩
      exact heard.fetches usable
  | @fetching handle known seen fetches empty =>
      cases fetches.symm.trans asks
      obtain ⟨-, -, lists⟩ := answer
      refine ⟨?_, rfl⟩
      cases read : reading ForwardListing.codec reply with
      | ok listing =>
          rw [read] at lists
          obtain rfl : listing = ⟨watch.world⟩ := congrArg ForwardListing.mk lists
          exact .resting (empty.resting_of_listed read)
      | error error =>
          rw [read] at lists
          have nothing : ¬ Offers ⟨fetchQuery handle, reply⟩ := by
            rintro ⟨listing, found⟩
            rw [read] at found
            cases found
          dsimp only
          rw [read, Gateway.classified_error, fetched, Watch.resume_item]
          exact .failed lists (Or.inr ⟨_, rfl⟩) rfl
            ((empty.toHanded.hear empty.heard nothing).fail _ _ _)
  | failed faulty lost ended handed =>
      rw [ended] at asks
      cases asks

/-- Wherever a subscription comes to, in whatever order things happen, it stands at one of these
places. -/
theorem stands_of_reaches {session : Session} {world : List Forward}
    (usable : session.Usable faults)
    (reached : Watch.Reaches (milieu faults) (turn settings) (.opened .starting session world)
      watch) :
    Stands faults settings watch ∧ watch.session.Usable faults :=
  reached.stands (Stands faults settings) (fun _ found => found) (.starting rfl rfl rfl) usable
    (fun _ session _ stands changed => stands.passes session changed)
    (fun _ _ _ stands usable idle => stands.polled usable idle)
    (fun _ _ _ _ stands usable asks answer => stands.answered usable asks answer)

/-! ### Progress -/

variable (faults settings)

/-- The first look can be taken. -/
theorem reaches_resting {session : Session} {handle : Handle} {world : List Forward}
    {reply : Except TransportError Json} (connected : session.link.transport = .ok handle)
    (read : reading ForwardListing.codec reply = .ok ⟨world⟩) :
    ∃ watch : Watching, Watch.Reaches (milieu faults) (turn settings)
        (.opened .starting session world) watch ∧
      watch.world = world ∧ watch.session = session ∧ Resting watch world world world := by
  have advanced := advance_starting settings session
  rw [connected] at advanced
  have polled : Watch.Step (milieu faults) (turn settings) (.opened .starting session world) _ :=
    .polled rfl
  rw [Watch.resume_silently advanced rfl] at polled
  refine ⟨_, .head polled (.single (.answered rfl ⟨rfl, rfl, ?_⟩)), rfl, rfl,
    resting_of_listed rfl rfl read⟩
  rw [read]
  rfl

/-- A fetch can be answered. -/
theorem Empty.reaches_resting {handle : Handle} {reply : Except TransportError Json}
    (empty : Empty watch known seen) (asks : watch.halt = fetch handle seen.length)
    (read : reading ForwardListing.codec reply = .ok ⟨watch.world⟩) :
    ∃ later, Watch.Reaches (milieu faults) (turn settings) watch later ∧
      later.world = watch.world ∧ later.session = watch.session ∧
      Resting later known seen watch.world ∧
      ∃ answered, Offers answered ∧ (answered, watch.world) ∈ later.heard := by
  refine ⟨_, .single (.answered asks ⟨rfl, rfl, ?_⟩), rfl, rfl, empty.resting_of_listed read,
    ⟨fetchQuery handle, reply⟩, ⟨_, read⟩, List.mem_append_right _ (List.mem_singleton_self _)⟩
  rw [read]
  rfl

/-- The listing can be fetched once nothing waits. -/
theorem Resting.reaches_fetched {handle : Handle} {reply : Except TransportError Json}
    (rests : Resting watch known seen seen)
    (connected : watch.session.link.transport = .ok handle)
    (read : reading ForwardListing.codec reply = .ok ⟨watch.world⟩) :
    ∃ later, Watch.Reaches (milieu faults) (turn settings) watch later ∧
      later.world = watch.world ∧ later.session = watch.session ∧
      Resting later known seen watch.world ∧
      ∃ answered, Offers answered ∧ (answered, watch.world) ∈ later.heard := by
  obtain ⟨handed, heard, brought, again, idle⟩ := rests
  rw [List.drop_length, List.map_nil] at idle
  have polled : Watch.Step (milieu faults) (turn settings) watch _ := .polled idle
  have advanced := advance_empty settings seen.length again watch.session
  have fetches := advance_fetched settings seen.length watch.session
  rw [connected] at fetches
  cases again with
  | false =>
      rw [Watch.resume_congr advanced, Watch.resume_silently fetches rfl] at polled
      let asking : Watching := { watch with halt := fetch handle seen.length }
      have empty : Empty asking known seen := ⟨handed.goes_on _ _, heard⟩
      obtain ⟨later, reached, further⟩ := empty.reaches_resting faults settings rfl read
      exact ⟨later, .head polled reached, further⟩
  | true =>
      rw [Watch.resume_silently advanced rfl] at polled
      let pausing : Watching := { watch with halt := rest settings seen.length }
      let woken : Watching := pausing.hear ⟨.sleep (Poller.pause settings.pollInterval), ()⟩
      have slept : Watch.Step (milieu faults) (turn settings) pausing
          (woken.resume (fetched seen.length <$> listing settings)) :=
        @Watch.Step.answered _ _ _ _ _ pausing (.sleep _) (fun _ => _) () rfl trivial
      have advanced : (fetched seen.length <$> listing settings).advance woken.session =
          (fetch handle seen.length, watch.session) := fetches
      rw [Watch.resume_silently advanced rfl] at slept
      let asking : Watching := { woken with halt := fetch handle seen.length }
      have empty : Empty asking known seen :=
        ⟨((handed.goes_on _ _).hear heard (not_offers_sleep _)).goes_on _ _,
          by simp [asking, woken, Watch.hear]⟩
      obtain ⟨later, reached, further⟩ := empty.reaches_resting faults settings rfl read
      exact ⟨later, .head polled (.head slept reached), further⟩

/-- What waits can be handed out. -/
theorem Resting.reaches_handed {forward : Forward} {others : List Forward}
    (rests : Resting watch known seen listed)
    (more : listed.drop seen.length = forward :: others) :
    ∃ later, Watch.Reaches (milieu faults) (turn settings) watch later ∧
      later.world = watch.world ∧ later.session = watch.session ∧
      Resting later known (seen ++ [forward]) listed := by
  obtain ⟨handed, heard, brought, again, idle⟩ := rests
  have hands := handed.hands heard more settings again
  have polled : Watch.Step (milieu faults) (turn settings) watch _ := .polled idle
  refine ⟨_, .single polled, rfl, ?_, hands⟩
  rw [more]
  rfl

end ForwardFeed

end LightningGateway
