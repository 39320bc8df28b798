import LightningGateway.Gateway.Lifecycle
import LightningGateway.Proofs.Courses
import LightningGateway.Proofs.Readiness

/-!
# Attempts to connect among others

A subscription to the progress of the connection stands at a question in the midst of a turn:
while it waits for a connection, for the first answer of the daemon or for the next attempt, others
make attempts on the same connection, and it may be dropped there. Whatever the order, the
connection is ready only with a handle, and a handle that is held has answered a first call.
-/

namespace LightningGateway

theorem Link.transport_eq_ok_iff {link : Link} {handle : Handle} :
    link.transport = .ok handle ↔ link.phase = .ready ∧ link.handle = some handle := by
  obtain ⟨phase, held⟩ := link
  cases phase <;> cases held <;> simp [Link.transport]

namespace Lifecycle

/-! ### From question to question -/

/-- What follows the first call on a connection. -/
def probed (handle : Handle) : Except TransportError Json → Dialogue Session Report
  | .error error => failed error
  | .ok _ => do
      setLink fun _ => .establish handle
      return (.item (.ok .success), .finished)

/-- What follows the opening of a connection. -/
def connected (settings : Settings) : Except TransportError Handle → Dialogue Session Report
  | .error error => failed error
  | .ok handle => do
      probed handle (← Dialogue.query (.call handle settings.livenessMethod (.object [])))

variable (settings : Settings) (session : Session)

theorem advance_failed (error : TransportError) :
    (failed error).advance session =
      (.ended (reportOf (.error error)), session.withLink (linkAfter (.error error))) := by
  unfold failed reportOf linkAfter
  by_cases unreachable : error.isConnect
  · simp only [unreachable, if_true]
    rfl
  · simp only [unreachable]
    rfl

theorem connect_eq :
    connect settings = setLink .begin >>= fun _ =>
      Dialogue.query .connect >>= connected settings := by
  refine congrArg (setLink .begin >>= ·) (funext fun _ => ?_)
  refine congrArg (Dialogue.query .connect >>= ·) (funext fun reply => ?_)
  cases reply with
  | error error => rfl
  | ok handle =>
      refine congrArg (Dialogue.query (.call handle _ _) >>= ·) (funext fun reply => ?_)
      cases reply <;> rfl

theorem advance_connect :
    (connect settings).advance session =
      (.asking .connect (connected settings), session.withLink session.link.begin) := by
  rw [connect_eq]
  rfl

theorem advance_turn_starting :
    (turn settings .starting).advance session =
      if session.link.phase = .ready then
        (.ended (.item (.ok .success), .finished), session)
      else (connect settings).advance session := by
  obtain ⟨⟨phase, handle⟩, requests, blocks⟩ := session
  cases phase <;> rfl

theorem advance_turn_retrying :
    (turn settings .retrying).advance session =
      (.asking (.sleep settings.retryDelay) fun _ => connect settings, session) := rfl

theorem advance_turn_finished :
    (turn settings .finished).advance session = (.ended (.ended, .finished), session) := rfl

theorem advance_connected_ok (handle : Handle) :
    (connected settings (.ok handle)).advance session =
      (.asking (.call handle settings.livenessMethod (.object [])) (probed handle), session) :=
  rfl

theorem advance_probed_ok (handle : Handle) (value : Json) :
    (probed handle (.ok value)).advance session =
      (.ended (reportOf (.ok handle)), session.withLink (.establish handle)) := rfl

/-- A handle came from the opening of a connection, and the daemon answered the first call on it. -/
def Alive (handle : Handle) (heard : List Answered) : Prop :=
  ∃ value,
    [⟨.connect, .ok handle⟩, ⟨.call handle settings.livenessMethod (.object []), .ok value⟩] <:+:
      heard

/-- Where a subscription may stand after what it has heard. -/
inductive Stands : Dialogue.Halt Session Report → List Answered → Prop where
  /-- Before or after a turn. -/
  | resting (report : Report) (heard : List Answered) : Stands (.ended report) heard
  | pausing (heard : List Answered) :
      Stands (.asking (.sleep settings.retryDelay) fun _ => connect settings) heard
  | connecting (heard : List Answered) : Stands (.asking .connect (connected settings)) heard
  | probing (handle : Handle) (heard : List Answered) :
      Stands (.asking (.call handle settings.livenessMethod (.object [])) (probed handle))
        (heard ++ [⟨.connect, .ok handle⟩])

/-- What becomes of the connection between two questions. -/
inductive Alters (heard : List Answered) (link : Link) : Link → Prop where
  | keeps : Alters heard link link
  | begins : Alters heard link link.begin
  | loses : Alters heard link .lose
  | givesUp : Alters heard link .giveUp
  | establishes (handle : Handle) (alive : Alive settings handle heard) :
      Alters heard link (.establish handle)

theorem Alters.exists_handle {settings : Settings} {heard : List Answered} {before after : Link}
    (alters : Alters settings heard before after)
    (held : before.phase = .ready → ∃ handle, before.handle = some handle)
    (ready : after.phase = .ready) : ∃ handle, after.handle = some handle := by
  cases alters with
  | keeps => exact held ready
  | begins => cases ready
  | loses => cases ready
  | givesUp => cases ready
  | establishes handle _ => exact ⟨handle, rfl⟩

/-- A handle was held before, or it was just found alive. -/
theorem Alters.held_or_alive {settings : Settings} {heard : List Answered} {before after : Link}
    (alters : Alters settings heard before after) {handle : Handle}
    (held : after.handle = some handle) :
    before.handle = some handle ∨ Alive settings handle heard := by
  cases alters with
  | keeps => exact .inl held
  | begins => exact .inl held
  | loses => cases held
  | givesUp => cases held
  | establishes found alive =>
      obtain rfl := Option.some.inj held
      exact .inr alive

/-- A subscription has come to its next question or to the end of its turn. -/
structure Continues (heard : List Answered) (result : Dialogue.Halt Session Report × Session) :
    Prop where
  stands : Stands settings result.1 heard
  alters : Alters settings heard session.link result.2.link

variable {settings session} {heard : List Answered}

theorem continues_failed (error : TransportError) :
    Continues settings session heard ((failed error).advance session) := by
  rw [advance_failed]
  refine ⟨.resting _ heard, ?_⟩
  change Alters settings heard session.link (linkAfter (.error error))
  by_cases unreachable : error.isConnect = true
  · rw [linkAfter, if_pos unreachable]
    exact .loses
  · rw [linkAfter, if_neg unreachable]
    exact .givesUp

theorem continues_connect :
    Continues settings session heard ((connect settings).advance session) := by
  rw [advance_connect]
  exact ⟨.connecting heard, .begins⟩

theorem continues_turn (stage : Lifecycle) :
    Continues settings session heard ((turn settings stage).advance session) := by
  cases stage with
  | starting =>
      rw [advance_turn_starting]
      split
      · exact ⟨.resting _ heard, .keeps⟩
      · exact continues_connect
  | retrying =>
      rw [advance_turn_retrying]
      exact ⟨.pausing heard, .keeps⟩
  | finished =>
      rw [advance_turn_finished]
      exact ⟨.resting _ heard, .keeps⟩

/-- Each answer brings a subscription to a place where it may stand. The connection is established
on the answer to a first call only. -/
theorem Stands.continues {query : Query} {next : query.Reply → Dialogue Session Report}
    (stands : Stands settings (.asking query next) heard) (reply : query.Reply) :
    Continues settings session (heard ++ [⟨query, reply⟩]) ((next reply).advance session) := by
  cases stands with
  | pausing => exact continues_connect
  | connecting =>
      cases reply with
      | error error => exact continues_failed error
      | ok handle =>
          rw [advance_connected_ok]
          exact ⟨.probing handle heard, .keeps⟩
  | probing handle before =>
      cases reply with
      | error error => exact continues_failed error
      | ok value =>
          rw [advance_probed_ok]
          refine ⟨.resting _ _, .establishes handle ⟨value, before, [], ?_⟩⟩
          simp

end Lifecycle

/-! ### Subscriptions that share the connection -/

/-- A subscription to the progress of the connection. -/
structure Seeker where
  /-- A question or the end of a turn, until the subscription is dropped. -/
  halt : Option (Dialogue.Halt Session Lifecycle.Report)
  /-- The questions that were answered. -/
  heard : List Answered

namespace Seeker

def opened : Seeker := ⟨some (.ended (.quiet, .starting)), []⟩

def dropped (seeker : Seeker) : Seeker := { seeker with halt := none }

/-- Takes the next turn, up to its first question, if the last one has ended. -/
def polled (settings : Settings) (seeker : Seeker) (session : Session) : Seeker × Session :=
  match seeker.halt with
  | some (.ended (_, stage)) =>
      let (halt, session) := (Lifecycle.turn settings stage).advance session
      (⟨some halt, seeker.heard⟩, session)
  | _ => (seeker, session)

/-- Goes on from a question to the next one, with an answer out of some replies. -/
def answered (replies : Replies) (seeker : Seeker) (session : Session) : Seeker × Session :=
  match seeker.halt with
  | some (.asking query next) =>
      let (halt, session) := (next (replies query)).advance session
      (⟨some halt, seeker.heard ++ [⟨query, replies query⟩]⟩, session)
  | _ => (seeker, session)

/-- What a subscription may do to itself and to the session. -/
structure Acts (settings : Settings) (seeker : Seeker) (session : Session)
    (result : Seeker × Session) : Prop where
  stands : ∀ halt, result.1.halt = some halt → Lifecycle.Stands settings halt result.1.heard
  remembers : seeker.heard <+: result.1.heard
  alters : Lifecycle.Alters settings result.1.heard session.link result.2.link

variable {settings : Settings} {seeker : Seeker} {session : Session}

theorem acts_of_idle
    (stands : ∀ halt, seeker.halt = some halt → Lifecycle.Stands settings halt seeker.heard) :
    Acts settings seeker session (seeker, session) :=
  ⟨stands, List.prefix_rfl, .keeps⟩

theorem acts_dropped : Acts settings seeker session (seeker.dropped, session) :=
  ⟨nofun, List.prefix_rfl, .keeps⟩

theorem acts_polled
    (stands : ∀ halt, seeker.halt = some halt → Lifecycle.Stands settings halt seeker.heard) :
    Acts settings seeker session (seeker.polled settings session) := by
  unfold polled
  split
  · next turn stage ended =>
      have continues : Lifecycle.Continues settings session seeker.heard
          ((Lifecycle.turn settings stage).advance session) := Lifecycle.continues_turn stage
      refine ⟨?_, List.prefix_rfl, continues.alters⟩
      rintro halt ⟨⟩
      exact continues.stands
  · exact acts_of_idle stands

theorem acts_answered
    (stands : ∀ halt, seeker.halt = some halt → Lifecycle.Stands settings halt seeker.heard)
    (replies : Replies) : Acts settings seeker session (seeker.answered replies session) := by
  unfold answered
  split
  · next query next asking =>
      have continues : Lifecycle.Continues settings session
          (seeker.heard ++ [⟨query, replies query⟩]) ((next (replies query)).advance session) :=
        (stands _ asking).continues (replies query)
      refine ⟨?_, List.prefix_append _ _, continues.alters⟩
      rintro halt ⟨⟩
      exact continues.stands
  · exact acts_of_idle stands

end Seeker

/-- Subscriptions to the progress of one connection, those that were dropped included. -/
structure Seekers where
  session : Session
  streams : List Seeker

namespace Seekers

inductive Move where
  /-- Another subscription is opened. -/
  | join
  /-- The subscription at a place is dropped, wherever it stands. -/
  | leave (place : Nat)
  | poll (place : Nat)
  /-- The question at which the subscription at a place stands is answered. -/
  | answer (place : Nat) (replies : Replies)
  /-- Someone else works on the session, apart from the connection. -/
  | elsewhere (session : Session)

def nobody (requestCapacity blockCapacity : Nat) : Seekers :=
  ⟨.fresh requestCapacity blockCapacity, []⟩

/-- The subscription at a place acts on the session. -/
def acting (seekers : Seekers) (place : Nat) (act : Seeker → Session → Seeker × Session) :
    Seekers :=
  match seekers.streams[place]? with
  | some seeker =>
      let (later, session) := act seeker seekers.session
      ⟨session, seekers.streams.set place later⟩
  | none => seekers

def after (settings : Settings) (seekers : Seekers) : Move → Seekers
  | .join => { seekers with streams := seekers.streams ++ [.opened] }
  | .leave place => seekers.acting place fun seeker session => (seeker.dropped, session)
  | .poll place => seekers.acting place (Seeker.polled settings)
  | .answer place replies => seekers.acting place (Seeker.answered replies)
  | .elsewhere session => { seekers with session := session.withLink seekers.session.link }

def run (settings : Settings) (seekers : Seekers) (moves : List Move) : Seekers :=
  moves.foldl (after settings) seekers

/-! ### What every move preserves -/

/-- Every subscription stands where it may stand, the connection is ready only with a handle, and
the handle was found alive by one of the subscriptions. -/
structure Sound (settings : Settings) (seekers : Seekers) : Prop where
  stands : ∀ seeker ∈ seekers.streams, ∀ halt, seeker.halt = some halt →
    Lifecycle.Stands settings halt seeker.heard
  held : seekers.session.link.phase = .ready → ∃ handle, seekers.session.link.handle = some handle
  alive : ∀ handle, seekers.session.link.handle = some handle →
    ∃ seeker ∈ seekers.streams, Lifecycle.Alive settings handle seeker.heard

variable {settings : Settings} {seekers : Seekers}

theorem sound_nobody (requestCapacity blockCapacity : Nat) :
    Sound settings (nobody requestCapacity blockCapacity) :=
  ⟨nofun, nofun, nofun⟩

/-- What a subscription has heard is not forgotten when it acts. -/
theorem exists_prefix_of_mem_set {streams : List Seeker} {place : Nat} {seeker later : Seeker}
    (here : streams[place]? = some seeker) (remembers : seeker.heard <+: later.heard)
    {other : Seeker} (member : other ∈ streams) :
    ∃ found ∈ streams.set place later, other.heard <+: found.heard := by
  obtain ⟨position, within, rfl⟩ := List.getElem_of_mem member
  by_cases same : position = place
  · subst position
    have acts : streams[place] = seeker := Option.some.inj
      ((List.getElem?_eq_getElem within).symm.trans here)
    exact ⟨later, List.mem_set within later, acts ▸ remembers⟩
  · have kept : (streams.set place later)[position]? = some streams[position] := by
      rw [List.getElem?_set_ne (Ne.symm same), List.getElem?_eq_getElem within]
    exact ⟨_, List.mem_of_getElem? kept, List.prefix_rfl⟩

theorem Sound.acting (sound : Sound settings seekers) (place : Nat)
    {act : Seeker → Session → Seeker × Session}
    (acts : ∀ seeker ∈ seekers.streams,
      seeker.Acts settings seekers.session (act seeker seekers.session)) :
    Sound settings (seekers.acting place act) := by
  unfold Seekers.acting
  split
  · next seeker here =>
      have member := List.mem_of_getElem? here
      have acted := acts seeker member
      generalize act seeker seekers.session = result at acted ⊢
      obtain ⟨later, session⟩ := result
      obtain ⟨stands, remembers, alters⟩ := acted
      have inside : later ∈ seekers.streams.set place later :=
        List.mem_set (List.getElem?_eq_some_iff.mp here).1 later
      refine ⟨fun other listed => ?_, alters.exists_handle sound.held, fun handle held => ?_⟩
      · rcases List.mem_or_eq_of_mem_set listed with before | rfl
        · exact sound.stands other before
        · exact stands
      · -- The subscription that found the handle alive may be the one that acts.
        rcases alters.held_or_alive held with before | alive
        · obtain ⟨other, listed, value, heard⟩ := sound.alive handle before
          obtain ⟨found, kept, longer⟩ := exists_prefix_of_mem_set here remembers listed
          exact ⟨found, kept, value, heard.trans longer.isInfix⟩
        · exact ⟨later, inside, alive⟩
  · exact sound

theorem Sound.after (sound : Sound settings seekers) (move : Move) :
    Sound settings (seekers.after settings move) := by
  cases move with
  | join =>
      refine ⟨fun seeker member => ?_, sound.held, fun handle held => ?_⟩
      · rcases List.mem_append.mp member with before | new
        · exact sound.stands seeker before
        · obtain rfl := List.mem_singleton.mp new
          rintro halt ⟨⟩
          exact .resting _ _
      · obtain ⟨seeker, member, alive⟩ := sound.alive handle held
        exact ⟨seeker, List.mem_append_left _ member, alive⟩
  | leave place => exact sound.acting place fun seeker _ => Seeker.acts_dropped
  | poll place =>
      exact sound.acting place fun seeker member => Seeker.acts_polled (sound.stands seeker member)
  | answer place replies =>
      exact sound.acting place fun seeker member =>
        Seeker.acts_answered (sound.stands seeker member) replies
  | elsewhere session => exact ⟨sound.stands, sound.held, sound.alive⟩

theorem Sound.run (sound : Sound settings seekers) (moves : List Move) :
    Sound settings (seekers.run settings moves) := by
  induction moves generalizing seekers with
  | nil => exact sound
  | cons move rest ih => exact ih (sound.after move)

/-- However any number of subscriptions are polled, answered and dropped, the connection can be
used exactly while it is ready, and otherwise what needs it fails as unavailable. A handle that is
held came from the opening of a connection and has answered the first call on it. -/
theorem usable_iff_ready (settings : Settings) (requestCapacity blockCapacity : Nat)
    (moves : List Move) :
    let seekers := (nobody requestCapacity blockCapacity).run settings moves
    let link := seekers.session.link
    (link.phase = .ready → ∃ handle, link.handle = some handle) ∧
      ((∃ handle, link.transport = .ok handle) ↔ link.phase = .ready) ∧
      (link.phase ≠ .ready →
        link.transport = .error ⟨.unavailable, "Connection not initialized"⟩) ∧
      ∀ handle, link.handle = some handle →
        ∃ seeker ∈ seekers.streams, Lifecycle.Alive settings handle seeker.heard := by
  intro seekers link
  have sound : Sound settings seekers := (sound_nobody requestCapacity blockCapacity).run moves
  refine ⟨sound.held, ⟨?_, fun ready => ?_⟩, fun unready => ?_, sound.alive⟩
  · rintro ⟨handle, connected⟩
    exact (Link.transport_eq_ok_iff.mp connected).1
  · obtain ⟨handle, held⟩ := sound.held ready
    exact ⟨handle, Link.transport_eq_ok_iff.mpr ⟨ready, held⟩⟩
  · cases failed : link.transport with
    | ok handle => exact absurd (Link.transport_eq_ok_iff.mp failed).1 unready
    | error failure =>
        rw [link.eq_notReady_of_transport failed]
        rfl

/-- Two subscriptions make attempts at the same time. The second one loses its connection and is
dropped before the first one hears from the daemon. -/
def overlapping : List Move :=
  let alive := Replies.answering (.ok 7) (fun _ => .ok .null) fun _ => .ok ""
  let refusing := Replies.answering (.error (.connect "refused")) (fun _ => .ok .null)
    fun _ => .ok ""
  [.join, .join, .poll 0, .poll 1, .answer 0 alive, .answer 1 refusing, .leave 1, .answer 0 alive]

theorem overlapping_ready :
    let seekers := (nobody 1 1).run ⟨.coreLightning, "getinfo", 2000, 2000, false⟩ overlapping
    seekers.session.link.phase = .ready ∧
      (∃ handle, seekers.session.link.transport = .ok handle) ∧
      ∃ seeker ∈ seekers.streams, Lifecycle.Alive
        ⟨.coreLightning, "getinfo", 2000, 2000, false⟩ 7 seeker.heard := by
  have usable := usable_iff_ready ⟨.coreLightning, "getinfo", 2000, 2000, false⟩ 1 1 overlapping
  exact ⟨rfl, usable.2.1.mpr rfl, usable.2.2.2 7 rfl⟩

end Seekers

end LightningGateway
