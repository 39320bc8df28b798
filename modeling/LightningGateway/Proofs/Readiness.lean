import LightningGateway.Gateway.Lifecycle
import LightningGateway.Proofs.Turns

/-!
# How long the connection stays ready

Any number of subscriptions to the progress of the connection may be open at a time, and they
share one connection. A subscription looks at the phase only in its first turn. One that waits
to try again does not look: its next turn makes another attempt, whatever the others have
reached. So the connection stays ready exactly as long as no subscription waits to try again.
-/

namespace LightningGateway

/-- The session with another connection. -/
def Session.withLink (session : Session) (link : Link) : Session := { session with link }

namespace Lifecycle

variable {ω : Type} (answer : Surroundings ω) (settings : Settings)

/-- What comes of an attempt to connect: a connection on which the daemon is alive, or an error. -/
def attempted (world : ω) : Except TransportError Handle × ω :=
  match answer .connect world with
  | (.error error, later) => (.error error, later)
  | (.ok handle, later) =>
      match answer (.call handle settings.livenessMethod (.object [])) later with
      | (.error error, last) => (.error error, last)
      | (.ok _, last) => (.ok handle, last)

/-- The report about an attempt. -/
def reportOf : Except TransportError Handle → Report
  | .ok _ => (.item (.ok .success), .finished)
  | .error error =>
      if error.isConnect then (.item (.ok .waiting), .retrying)
      else (.item (.error (.ofError .establish error)), .finished)

/-- The connection after an attempt. -/
def linkAfter : Except TransportError Handle → Link
  | .ok handle => .establish handle
  | .error error => if error.isConnect then .lose else .giveUp

/-! ### Turns -/

theorem run_failed (error : TransportError) (session : Session) (world : ω) :
    (failed error).run answer session world =
      (reportOf (.error error), session.withLink (linkAfter (.error error)), world) := by
  unfold failed reportOf linkAfter
  by_cases unreachable : error.isConnect
  · simp only [unreachable, if_true]
    rfl
  · simp only [unreachable]
    rfl

theorem run_connect (session : Session) (world : ω) :
    (connect settings).run answer session world =
      (reportOf (attempted answer settings world).1,
        session.withLink (linkAfter (attempted answer settings world).1),
        (attempted answer settings world).2) := by
  unfold connect attempted
  rw [Dialogue.run_bind]
  refine (Dialogue.run_bind answer (Dialogue.query .connect) _ _ world).trans ?_
  rw [Dialogue.run_query]
  dsimp only
  rcases answer .connect world with ⟨_ | handle, later⟩
  · exact run_failed answer _ _ _
  · refine (Dialogue.run_bind answer (Dialogue.query (.call handle _ _)) _ _ later).trans ?_
    rw [Dialogue.run_query]
    dsimp only
    rcases answer (.call handle settings.livenessMethod (.object [])) later with
      ⟨_ | value, last⟩
    · exact run_failed answer _ _ _
    · rfl

theorem run_turn_starting (session : Session) (world : ω) :
    (turn settings .starting).run answer session world =
      if session.link.phase = .ready then
        ((.item (.ok .success), .finished), session, world)
      else (connect settings).run answer session world := by
  obtain ⟨⟨phase, handle⟩, requests, blocks⟩ := session
  cases phase <;> rfl

theorem run_turn_retrying (session : Session) (world : ω) :
    (turn settings .retrying).run answer session world =
      (connect settings).run answer session
        (answer (.sleep settings.retryDelay) world).2 := rfl

/-- A turn makes one attempt or leaves the session as it is. It reports success in the latter
case only if the connection is ready. -/
theorem turn_attempts_or_keeps (stage : Lifecycle) (session : Session) (world : ω) :
    (∃ result,
      ((turn settings stage).run answer session world).1 = reportOf result ∧
      ((turn settings stage).run answer session world).2.1 =
        session.withLink (linkAfter result)) ∨
    ((turn settings stage).run answer session world).2.1 = session ∧
      (((turn settings stage).run answer session world).1.1 = .item (.ok .success) →
        session.link.phase = .ready) := by
  cases stage with
  | starting =>
      -- This is the only stage that looks at the phase.
      rw [run_turn_starting]
      by_cases ready : session.link.phase = .ready
      · rw [if_pos ready]
        exact Or.inr ⟨rfl, fun _ => ready⟩
      · rw [if_neg ready, run_connect]
        exact Or.inl ⟨_, rfl, rfl⟩
  | retrying =>
      rw [run_turn_retrying, run_connect]
      exact Or.inl ⟨_, rfl, rfl⟩
  | finished => exact Or.inr ⟨rfl, nofun⟩

/-! ### The connection after an attempt -/

theorem phase_linkAfter_of_success {result : Except TransportError Handle}
    (success : (reportOf result).1 = .item (.ok .success)) :
    (linkAfter result).phase = .ready := by
  cases result with
  | ok handle => rfl
  | error error =>
      by_cases unreachable : error.isConnect = true
      · rw [reportOf, if_pos unreachable] at success
        cases success
      · rw [reportOf, if_neg unreachable] at success
        cases success

theorem transport_linkAfter {result : Except TransportError Handle}
    (ready : (linkAfter result).phase = .ready) :
    ∃ handle, (linkAfter result).transport = .ok handle := by
  cases result with
  | ok handle => exact ⟨handle, rfl⟩
  | error error =>
      by_cases unreachable : error.isConnect = true
      · rw [linkAfter, if_pos unreachable] at ready
        cases ready
      · rw [linkAfter, if_neg unreachable] at ready
        cases ready

/-! ### What is asked -/

theorem connect_mem_attempted (replies : Replies) (asked : List Query) :
    .connect ∈
      (attempted (Surroundings.noting replies.surroundings) settings ((), asked)).2.2 := by
  unfold attempted Surroundings.noting Replies.surroundings
  cases replies .connect with
  | error error => simp
  | ok handle =>
      dsimp only
      cases replies (.call handle settings.livenessMethod (.object [])) <;> simp

end Lifecycle

/-- Open subscriptions with the session that they share. -/
structure Crowd where
  session : Session
  streams : List Lifecycle

/-- What may happen next. A turn gets replies of its own. -/
inductive Move where
  /-- Another subscription is opened. -/
  | join
  /-- The subscription at a place is dropped. -/
  | leave (place : Nat)
  /-- The subscription at a place takes its next turn. -/
  | poll (place : Nat) (replies : Replies)

namespace Crowd

/-- Nobody has subscribed yet. -/
def empty (requestCapacity blockCapacity : Nat) : Crowd :=
  ⟨.fresh requestCapacity blockCapacity, []⟩

/-- Makes a move, in which a turn may be taken. -/
def after (settings : Settings) (crowd : Crowd) :
    Move → Crowd × Option (Taken (Except Failure LifecycleUpdate))
  | .join => ({ crowd with streams := crowd.streams ++ [.starting] }, none)
  | .leave place => ({ crowd with streams := crowd.streams.eraseIdx place }, none)
  | .poll place replies =>
      match crowd.streams[place]? with
      | none => (crowd, none)
      | some stage =>
          match Taken.next (Lifecycle.turn settings) replies.surroundings stage crowd.session ()
            with
          | (taken, later, session, ()) =>
              (⟨session, crowd.streams.set place later⟩, some taken)

/-- Makes one move after another. -/
def run (settings : Settings) :
    Crowd → List Move → Crowd × List (Taken (Except Failure LifecycleUpdate))
  | crowd, [] => (crowd, [])
  | crowd, move :: rest =>
      let (next, taken) := crowd.after settings move
      let (last, others) := run settings next rest
      (last, taken.toList ++ others)

/-- The connection can be used. -/
def Ready (crowd : Crowd) : Prop :=
  crowd.session.link.phase = .ready ∧ ∃ handle, crowd.session.link.transport = .ok handle

/-- The connection can be used from now on, whatever happens, and nobody makes an attempt. -/
def Settled (settings : Settings) (crowd : Crowd) : Prop :=
  ∀ moves, (crowd.run settings moves).1.Ready ∧
    ∀ taken ∈ (crowd.run settings moves).2, .connect ∉ taken.asked

/-- No subscription waits to try again. -/
def Calm (crowd : Crowd) : Prop := .retrying ∉ crowd.streams

variable {settings : Settings} {crowd : Crowd}

theorem after_poll {place : Nat} {stage : Lifecycle} (replies : Replies)
    (polled : crowd.streams[place]? = some stage) :
    crowd.after settings (.poll place replies) =
      let outcome := (Lifecycle.turn settings stage).run
        (Surroundings.noting replies.surroundings) crowd.session ((), [])
      (⟨outcome.2.1, crowd.streams.set place outcome.1.2⟩,
        some ⟨outcome.2.2.2, outcome.1.1⟩) := by
  simp only [after, polled]
  rfl

theorem after_poll_nobody {place : Nat} (replies : Replies)
    (polled : crowd.streams[place]? = none) :
    crowd.after settings (.poll place replies) = (crowd, none) := by
  simp only [after, polled]

/-! ### Where nobody waits to try again -/

theorem poll_ready_of_calm {place : Nat} (replies : Replies)
    (ready : crowd.Ready) (calm : crowd.Calm) :
    (crowd.after settings (.poll place replies)).1.Ready ∧
      (crowd.after settings (.poll place replies)).1.Calm ∧
      ∀ taken ∈ (crowd.after settings (.poll place replies)).2, .connect ∉ taken.asked := by
  cases polled : crowd.streams[place]? with
  | none =>
      rw [after_poll_nobody replies polled]
      exact ⟨ready, calm, nofun⟩
  | some stage =>
      have stillCalm : .retrying ∉ crowd.streams.set place .finished := by
        intro member
        rcases List.mem_or_eq_of_mem_set member with member | same
        · exact calm member
        · cases same
      rw [after_poll replies polled]
      cases stage with
      | retrying => exact absurd (List.mem_of_getElem? polled) calm
      | finished =>
          refine ⟨ready, stillCalm, ?_⟩
          rintro taken ⟨⟩
          exact List.not_mem_nil
      | starting =>
          rw [Lifecycle.run_turn_starting, if_pos ready.1]
          refine ⟨ready, stillCalm, ?_⟩
          rintro taken ⟨⟩
          exact List.not_mem_nil

/-- A move leaves the connection ready, if nobody waits to try again, and then nobody will. -/
theorem after_ready_of_calm (settings : Settings) (move : Move) (ready : crowd.Ready)
    (calm : crowd.Calm) :
    (crowd.after settings move).1.Ready ∧ (crowd.after settings move).1.Calm ∧
      ∀ taken ∈ (crowd.after settings move).2, .connect ∉ taken.asked := by
  cases move with
  | join =>
      refine ⟨ready, fun member => ?_, nofun⟩
      rcases List.mem_append.mp member with member | fresh
      · exact calm member
      · cases List.mem_singleton.mp fresh
  | leave place => exact ⟨ready, fun member => calm (List.mem_of_mem_eraseIdx member), nofun⟩
  | poll place replies => exact poll_ready_of_calm replies ready calm

theorem settled_of_calm (ready : crowd.Ready) (calm : crowd.Calm) :
    crowd.Settled settings := by
  intro moves
  -- Only both together are kept by every move; a ready connection alone is not.
  induction moves generalizing crowd with
  | nil => exact ⟨ready, nofun⟩
  | cons move rest ih =>
      obtain ⟨stillReady, stillCalm, unasked⟩ :=
        after_ready_of_calm settings move ready calm
      obtain ⟨lastReady, laterUnasked⟩ := ih stillReady stillCalm
      refine ⟨lastReady, fun taken member => ?_⟩
      rcases List.mem_append.mp member with here | later
      · exact unasked taken (Option.mem_toList.mp here)
      · exact laterUnasked taken later

/-! ### Where somebody waits to try again -/

/-- Replies of a daemon that cannot be reached. -/
def refusing : Replies :=
  .answering (.error (.connect "Connection refused")) (fun _ => .error .missingResult)
    fun _ => .error .missingResult

/-- Replies of a daemon that is alive. -/
def accepting : Replies :=
  .answering (.ok 0) (fun _ => .ok .null) fun _ => .error .missingResult

theorem after_poll_retrying (settings : Settings) {place : Nat} (replies : Replies)
    (polled : crowd.streams[place]? = some .retrying) :
    (∃ taken ∈ (crowd.after settings (.poll place replies)).2, .connect ∈ taken.asked) ∧
      (crowd.after settings (.poll place replies)).1.session.link =
        Lifecycle.linkAfter (Lifecycle.attempted (Surroundings.noting replies.surroundings)
          settings ((), [.sleep settings.retryDelay])).1 := by
  rw [after_poll replies polled, Lifecycle.run_turn_retrying, Lifecycle.run_connect]
  exact ⟨⟨_, rfl, Lifecycle.connect_mem_attempted settings replies _⟩, rfl⟩

/-- The connection is lost in a move in which another attempt is made. -/
def LostIn (settings : Settings) (crowd : Crowd) (move : Move) : Prop :=
  (crowd.after settings move).1.session.link.phase = .offline ∧
    (crowd.after settings move).1.session.link.transport = .error Link.notReady ∧
    ∃ taken ∈ (crowd.after settings move).2, .connect ∈ taken.asked

theorem exists_lostIn_of_retrying (settings : Settings)
    (waiting : .retrying ∈ crowd.streams) :
    ∃ place, crowd.LostIn settings (.poll place refusing) := by
  obtain ⟨place, polled⟩ := List.mem_iff_getElem?.mp waiting
  obtain ⟨asked, link⟩ := after_poll_retrying settings refusing polled
  refine ⟨place, ?_, ?_, asked⟩
  · rw [link]
    rfl
  · rw [link]
    rfl

theorem not_settled_of_lostIn {move : Move} (lost : crowd.LostIn settings move) :
    ¬ crowd.Settled settings := by
  intro settled
  obtain ⟨taken, happened, asked⟩ := lost.2.2
  refine (settled [move]).2 taken ?_ asked
  exact List.mem_append_left _ (Option.mem_toList.mpr happened)

/-! ### After a success -/

/-- In the phase in which the connection is used there is one. -/
def Sound (crowd : Crowd) : Prop :=
  crowd.session.link.phase = .ready → crowd.Ready

theorem sound_empty (requestCapacity blockCapacity : Nat) :
    (empty requestCapacity blockCapacity).Sound := nofun

theorem sound_after (move : Move) (sound : crowd.Sound) :
    (crowd.after settings move).1.Sound := by
  cases move with
  | join => exact sound
  | leave place => exact sound
  | poll place replies =>
      cases polled : crowd.streams[place]? with
      | none =>
          rw [after_poll_nobody replies polled]
          exact sound
      | some stage =>
          rw [after_poll replies polled]
          intro ready
          refine ⟨ready, ?_⟩
          rcases Lifecycle.turn_attempts_or_keeps (Surroundings.noting replies.surroundings)
              settings stage crowd.session ((), []) with ⟨result, -, attempted⟩ | ⟨kept, -⟩
          · dsimp only at ready ⊢
            rw [attempted] at ready ⊢
            exact Lifecycle.transport_linkAfter ready
          · dsimp only at ready ⊢
            rw [kept] at ready ⊢
            exact (sound ready).2

theorem sound_run (settings : Settings) (moves : List Move) (sound : crowd.Sound) :
    (crowd.run settings moves).1.Sound := by
  induction moves generalizing crowd with
  | nil => exact sound
  | cons move rest ih => exact ih (sound_after move sound)

theorem ready_of_success {place : Nat} {replies : Replies} (sound : crowd.Sound)
    (success : (crowd.after settings (.poll place replies)).2.map Taken.brought =
      some (.item (.ok .success))) :
    (crowd.after settings (.poll place replies)).1.Ready := by
  refine sound_after _ sound ?_
  cases polled : crowd.streams[place]? with
  | none =>
      rw [after_poll_nobody replies polled] at success
      cases success
  | some stage =>
      rw [after_poll replies polled] at success ⊢
      have handed := Option.some.inj success
      rcases Lifecycle.turn_attempts_or_keeps (Surroundings.noting replies.surroundings)
          settings stage crowd.session ((), []) with ⟨result, reported, attempted⟩ | ⟨kept, ready⟩
      · rw [reported] at handed
        dsimp only
        rw [attempted]
        exact Lifecycle.phase_linkAfter_of_success handed
      · dsimp only
        rw [kept]
        exact ready handed

/-- Once a subscription has reported success, the connection stays ready and nobody makes an
attempt any more, if and only if no subscription waits to try again at that moment. One that
does loses the connection if the daemon is out of reach at its next turn. -/
theorem settled_iff_calm_after_success (settings : Settings)
    (requestCapacity blockCapacity : Nat) (moves : List Move) (place : Nat) (replies : Replies)
    (success :
      (((empty requestCapacity blockCapacity).run settings moves).1.after settings
        (.poll place replies)).2.map Taken.brought = some (.item (.ok .success))) :
    let connected := (((empty requestCapacity blockCapacity).run settings moves).1.after settings
      (.poll place replies)).1
    (connected.Settled settings ↔ connected.Calm) ∧
      (¬ connected.Calm → ∃ other, connected.LostIn settings (.poll other refusing)) := by
  intro connected
  have sound := sound_run settings moves
    (sound_empty requestCapacity blockCapacity)
  have lost (restless : ¬ connected.Calm) :
      ∃ other, connected.LostIn settings (.poll other refusing) :=
    exists_lostIn_of_retrying settings (Classical.not_not.mp restless)
  refine ⟨⟨fun settled waiting => ?_, settled_of_calm (ready_of_success sound success)⟩, lost⟩
  obtain ⟨other, lostThere⟩ := exists_lostIn_of_retrying settings waiting
  exact not_settled_of_lostIn lostThere settled

/-- A single subscription to a daemon that is alive settles the connection. -/
theorem settled_after_single_success :
    (((empty 1 1).run ⟨.coreLightning, "getinfo", 2000, 2000, false⟩ [.join]).1.after
        ⟨.coreLightning, "getinfo", 2000, 2000, false⟩ (.poll 0 accepting)).1.Settled
      ⟨.coreLightning, "getinfo", 2000, 2000, false⟩ :=
  (settled_iff_calm_after_success _ 1 1 [.join] 0 accepting rfl).1.mpr
    fun member => by cases List.mem_singleton.mp member

/-- Two subscriptions, of which the first one has found the daemon out of reach and the second
one has connected. The next turn of the first one loses the connection again. -/
theorem ready_lost_to_waiting_subscription :
    let settings : Settings := ⟨.coreLightning, "getinfo", 2000, 2000, false⟩
    let waiting := ((empty 1 1).run settings [.join, .join, .poll 0 refusing]).1
    let connected := waiting.after settings (.poll 1 accepting)
    let lost := connected.1.after settings (.poll 0 refusing)
    connected.2.map Taken.brought = some (.item (.ok .success)) ∧
      connected.1.session.link = .establish 0 ∧
      lost.1.session.link.phase = .offline ∧
      lost.1.session.link.transport = .error Link.notReady ∧
      lost.2.map Taken.asked = some [.sleep 2000, .connect] ∧
      ¬ connected.1.Settled settings := by
  refine ⟨rfl, rfl, rfl, rfl, rfl, fun settled => ?_⟩
  have ready := (settled [.poll 0 refusing]).1.1
  cases ready

end Crowd

end LightningGateway
