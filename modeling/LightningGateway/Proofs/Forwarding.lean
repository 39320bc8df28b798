import Mathlib.Control.Monad.Basic
import LightningGateway.Endpoint
import LightningGateway.Gateway.Subscriptions
import LightningGateway.Proofs.Outcome
import LightningGateway.Proofs.Plans
import LightningGateway.Proofs.Turns

/-!
# The subscription to forwards

The listing of forwards is fetched again and again while it grows. The subscription hands out
the entries beyond those of the first listing, each once and in the order of the listing. All
entries of one fetch are handed out before the next one, which comes after a pause. A fetch that
fails is handed out as its failure, and nothing follows it.
-/

namespace LightningGateway

namespace Config

variable {files : FileSystem} {config : Config}

/-- The pause of a configuration that can be used is the interval less the margin, and is not
empty. -/
theorem pause_of_validate (valid : config.validate files = .ok ()) :
    Poller.pause (Plan.settingsOf config).pollInterval + 100 =
        config.subscriptions.pollInterval.toNat ∧
      0 < Poller.pause (Plan.settingsOf config).pollInterval := by
  obtain ⟨-, -, -, limits⟩ := validate_eq_ok_iff.mp valid
  have long : ¬config.subscriptions.pollInterval ≤ 100 := by
    intro short
    unfold checkLimits at limits
    rw [if_pos short] at limits
    split at limits <;> cases limits
  have more : 100 < config.subscriptions.pollInterval.toNat := by
    simpa [UInt64.le_iff_toNat_le] using long
  simp only [Plan.settingsOf, Poller.pause, Poller.safetyMargin]
  omega

end Config

namespace Polling

variable {α σ : Type}

/-- What the reply to a fetch brings, and what it leaves behind. -/
def received (poller : Poller α) : Except Failure (List α) → Turn (Except Failure α) × Polling α
  | .ok listing => (.quiet, ⟨poller.observe listing, true, false⟩)
  | .error failure => (.item (.error failure), ⟨poller, true, true⟩)

theorem turn_empty (fetch : Dialogue σ (Except Failure (List α)))
    (interval watermark : Nat) (fetched : Bool) :
    Polling.turn (fun milliseconds => Dialogue.query (.sleep milliseconds)) fetch interval
        ⟨⟨watermark, []⟩, fetched, false⟩ =
      (if fetched then Dialogue.query (.sleep (Poller.pause interval)) else pure ()) >>=
        fun _ => received ⟨watermark, []⟩ <$> fetch := by
  have brought : (fetch >>= fun
      | .ok listing => pure (.quiet, ⟨(Poller.mk watermark []).observe listing, true, false⟩)
      | .error failure => pure (.item (.error failure), ⟨⟨watermark, []⟩, true, true⟩)) =
      received ⟨watermark, []⟩ <$> fetch := by
    rw [map_eq_pure_bind]
    congr
    funext reply
    cases reply <;> rfl
  cases fetched with
  | false => exact brought
  | true =>
      exact congrArg (Dialogue.query (Query.sleep (Poller.pause interval)) >>= fun _ => ·) brought

end Polling

namespace ForwardFeed

open Gateway (outcome classified reading)

/-- Surroundings in which the calls of the daemon have the given replies, one after another. They
count the calls. -/
def scripted (replies : Nat → Except TransportError Json) : Surroundings Nat
  | .call _ _ _, index => (replies index, index + 1)
  | .connect, index => (.error .missingResult, index)
  | .chainCall _ _, index => (.error .missingResult, index)
  | .command _, index => (.error .missingResult, index)
  | .sleep _, index => ((), index)
  | .now, index => (0, index)
  | .label, index => ("", index)
  | .publish _, index => ((), index)

/-- What a fetch asks. -/
def fetchQuery (handle : Handle) : Query :=
  .call handle "listforwards" (.object [("status", .string "settled")])

/-- What the reply to a call says about forwards. -/
def listingFrom (replies : Nat → Except TransportError Json) (index : Nat) :
    Except TransportError (List Daemon.Forward) :=
  (reading Daemon.ForwardListing.codec (replies index)).map Daemon.ForwardListing.forwards

/-- What is asked before a fetch. -/
def resting (interval : Nat) (fetched : Bool) : List Query :=
  if fetched then [.sleep (Poller.pause interval)] else []

/-- The entries of a listing that the one before does not have. None is new in the first one. -/
def news (listings : Nat → List Daemon.Forward) : Nat → List Daemon.Forward
  | 0 => []
  | index + 1 => (listings (index + 1)).drop (listings index).length

/-- A turn that hands out a forward. -/
def handing (forward : Daemon.Forward) : Taken (Except Failure ForwardEvent) :=
  ⟨[], .item (.ok forward.toEvent)⟩

/-- The turns around the first fetches, if these have found the given listings. The first listing
and the one after it are fetched at once. -/
def happened (handle : Handle) (interval : Nat) (listings : Nat → List Daemon.Forward) :
    Nat → List (Taken (Except Failure ForwardEvent))
  | 0 => []
  | fetched + 1 =>
      happened handle interval listings fetched ++
        ⟨resting interval (1 < fetched) ++ [fetchQuery handle], .quiet⟩ ::
          (news listings fetched).map handing

variable {replies : Nat → Except TransportError Json} {settings : Settings} {session : Session}
  {handle : Handle} {index : Nat}

/-! ### Fetching -/

theorem run_fetchForwards (replies : Nat → Except TransportError Json) (settings : Settings)
    (index : Nat) (connected : session.link.transport = .ok handle) (asked : List Query) :
    ((Gateway.fetchForwards .listenForwards).toDialogue settings).run
        (Surroundings.noting (scripted replies)) session (index, asked) =
      (classified .listenForwards (listingFrom replies index), session,
        (index + 1, asked ++ [fetchQuery handle])) := by
  have called := Gateway.outcome_call_connected (Surroundings.noting (scripted replies)) settings
    session (index, asked) .listenForwards Daemon.ForwardListing.codec "listforwards"
    (.object [("status", .string "settled")]) connected
  change outcome _ settings (Gateway.fetchForwards .listenForwards) session _ = _
  rw [Gateway.fetchForwards, Gateway.outcome_bind, called]
  change Gateway.Outcome.continue
    (classified .listenForwards (reading Daemon.ForwardListing.codec (replies index)), session,
      (index + 1, asked ++ [fetchQuery handle])) _ = _
  unfold listingFrom
  cases reading Daemon.ForwardListing.codec (replies index) <;> rfl

theorem run_fetchForwardEvents (replies : Nat → Except TransportError Json)
    (settings : Settings) (index : Nat) (connected : session.link.transport = .ok handle)
    (asked : List Query) :
    (Gateway.fetchForwardEvents.toDialogue settings).run
        (Surroundings.noting (scripted replies)) session (index, asked) =
      ((classified .listenForwards (listingFrom replies index)).map
          (List.map Daemon.Forward.toEvent), session,
        (index + 1, asked ++ [fetchQuery handle])) := by
  have fetched := run_fetchForwards replies settings index connected asked
  change outcome _ settings (Gateway.fetchForwards .listenForwards) session _ = _ at fetched
  change outcome _ settings Gateway.fetchForwardEvents session _ = _
  rw [Gateway.fetchForwardEvents, Gateway.outcome_bind, fetched]
  cases listingFrom replies index <;> rfl

/-! ### Turns -/

/-- The subscription between two fetches: the number of entries that were handed out or known
from the start, and the events that wait. -/
def between (watermark : Nat) (pending : List ForwardEvent) (fetched : Bool) : ForwardFeed :=
  .polling ⟨⟨watermark, pending⟩, fetched, false⟩

theorem next_starting (settings : Settings) (connected : session.link.transport = .ok handle)
    {listing : List Daemon.Forward} (found : listingFrom replies index = .ok listing) :
    Taken.next (turn settings) (scripted replies) .starting session index =
      (⟨[fetchQuery handle], .quiet⟩, between listing.length [] false, session, index + 1) := by
  unfold Taken.next turn
  rw [Dialogue.run_bind, run_fetchForwards replies settings index connected, found]
  rfl

theorem next_starting_failed (settings : Settings) (connected : session.link.transport = .ok handle)
    {error : TransportError} (found : listingFrom replies index = .error error) :
    Taken.next (turn settings) (scripted replies) .starting session index =
      (⟨[fetchQuery handle], .item (.error (.ofError .listenForwards error))⟩, .finished,
        session, index + 1) := by
  unfold Taken.next turn
  rw [Dialogue.run_bind, run_fetchForwards replies settings index connected, found]
  rfl

theorem next_pending {watermark : Nat} {event : ForwardEvent} {rest : List ForwardEvent}
    {fetched : Bool} :
    Taken.next (turn settings) (scripted replies) (between watermark (event :: rest) fetched)
        session index =
      (⟨[], .item (.ok event)⟩, between (watermark + 1) rest fetched, session, index) := rfl

theorem next_empty (connected : session.link.transport = .ok handle) (watermark : Nat)
    (fetched : Bool) :
    Taken.next (turn settings) (scripted replies) (between watermark [] fetched) session index =
      (⟨resting settings.pollInterval fetched ++ [fetchQuery handle],
          (Polling.received ⟨watermark, []⟩ ((classified .listenForwards
            (listingFrom replies index)).map (List.map Daemon.Forward.toEvent))).1⟩,
        .polling (Polling.received ⟨watermark, []⟩ ((classified .listenForwards
          (listingFrom replies index)).map (List.map Daemon.Forward.toEvent))).2,
        session, index + 1) := by
  have turned := Polling.turn_empty (Gateway.fetchForwardEvents.toDialogue settings)
    settings.pollInterval watermark fetched
  have listed := run_fetchForwardEvents replies settings index connected
    (resting settings.pollInterval fetched)
  have rested : Dialogue.run (Surroundings.noting (scripted replies))
      (if fetched then Dialogue.query (.sleep (Poller.pause settings.pollInterval)) else pure ())
      session (index, []) = ((), session, index, resting settings.pollInterval fetched) := by
    cases fetched <;> rfl
  unfold Taken.next
  simp only [between, turn, turned, Dialogue.run_bind, rested, Dialogue.run_map, listed,
    Dialogue.run_pure]

theorem next_fetch (settings : Settings) (connected : session.link.transport = .ok handle)
    (watermark : Nat) (fetched : Bool) {listing : List Daemon.Forward}
    (found : listingFrom replies index = .ok listing) :
    Taken.next (turn settings) (scripted replies) (between watermark [] fetched) session index =
      (⟨resting settings.pollInterval fetched ++ [fetchQuery handle], .quiet⟩,
        between watermark ((listing.drop watermark).map Daemon.Forward.toEvent) true, session,
        index + 1) := by
  rw [next_empty connected, found]
  simp [Except.map, Polling.received, Poller.observe, between]

theorem next_fetch_failed (settings : Settings) (connected : session.link.transport = .ok handle)
    (watermark : Nat) (fetched : Bool) {error : TransportError}
    (found : listingFrom replies index = .error error) :
    Taken.next (turn settings) (scripted replies) (between watermark [] fetched) session index =
      (⟨resting settings.pollInterval fetched ++ [fetchQuery handle],
          .item (.error (.ofError .listenForwards error))⟩,
        .polling ⟨⟨watermark, []⟩, true, true⟩, session, index + 1) := by
  rw [next_empty connected, found]
  rfl

theorem next_failed {watermark : Nat} :
    Taken.next (turn settings) (scripted replies) (.polling ⟨⟨watermark, []⟩, true, true⟩) session
        index =
      (⟨[], .ended⟩, .polling ⟨⟨watermark, []⟩, true, true⟩, session, index) := rfl

theorem next_finished :
    Taken.next (turn settings) (scripted replies) .finished session index =
      (⟨[], .ended⟩, .finished, session, index) := rfl

theorem asked_next_of_pending {state : Polling ForwardEvent} (waiting : state.poller.pending ≠ []) :
    (Taken.next (turn settings) (scripted replies) (.polling state) session index).1.asked =
      [] := by
  obtain ⟨⟨watermark, pending⟩, fetched, failed⟩ := state
  cases pending with
  | nil => exact absurd rfl waiting
  | cons event rest => rfl

/-! ### Histories -/

theorem history_pending (replies : Nat → Except TransportError Json) (settings : Settings)
    (session : Session) (index : Nat) (forwards : List Daemon.Forward) (watermark : Nat)
    (fetched : Bool) :
    Taken.history (turn settings) (scripted replies) forwards.length
        (between watermark (forwards.map Daemon.Forward.toEvent) fetched) session index =
      (forwards.map handing, between (watermark + forwards.length) [] fetched, session,
        index) := by
  induction forwards generalizing watermark with
  | nil => rfl
  | cons forward rest ih =>
      rw [List.length_cons, List.map_cons, Taken.history_succ next_pending, ih]
      rw [List.map_cons, handing, Nat.add_right_comm, Nat.add_assoc]

/-- As long as the listing only grows, the turns around each fetch hand out what has grown. -/
theorem history_happened (settings : Settings) (connected : session.link.transport = .ok handle)
    {listings : Nat → List Daemon.Forward} {good : Nat}
    (found : ∀ index < good, listingFrom replies index = .ok (listings index))
    (grows : ∀ index, index + 1 < good → listings index <+: listings (index + 1))
    (fetched : Nat) (early : fetched < good) :
    Taken.history (turn settings) (scripted replies)
        (happened handle settings.pollInterval listings (fetched + 1)).length .starting session
        0 =
      (happened handle settings.pollInterval listings (fetched + 1),
        between (listings fetched).length [] (0 < fetched), session, fetched + 1) := by
  induction fetched with
  | zero =>
      have first := next_starting settings connected (found 0 early)
      exact Taken.history_succ first 0
  | succ fetched ih =>
      -- The watermark is the length of the last listing, so what is queued next is what is new.
      have before := ih (Nat.lt_of_succ_lt early)
      have next := next_fetch settings connected (listings fetched).length (0 < fetched)
        (found (fetched + 1) early)
      have pending := history_pending replies settings session (fetched + 1 + 1)
        (news listings (fetched + 1)) (listings fetched).length true
      have grown : (listings fetched).length + (news listings (fetched + 1)).length =
          (listings (fetched + 1)).length := by
        rw [news, List.length_drop]
        exact Nat.add_sub_cancel' (grows fetched early).length_le
      rw [grown] at pending
      rw [happened, List.length_append, List.length_cons, List.length_map,
        Taken.history_add before, Taken.history_succ next]
      rw [← news, pending]
      simp

theorem items_happened (handle : Handle) (interval : Nat) {listings : Nat → List Daemon.Forward}
    {good : Nat} (grows : ∀ index, index + 1 < good → listings index <+: listings (index + 1))
    (fetched : Nat) (early : fetched < good) :
    listings 0 <+: listings fetched ∧
      Taken.items (happened handle interval listings (fetched + 1)) =
        ((listings fetched).drop (listings 0).length).map fun forward =>
          .ok forward.toEvent := by
  have handed (forwards : List Daemon.Forward) :
      Taken.items (forwards.map handing) = forwards.map fun forward => .ok forward.toEvent := by
    simp [Taken.items, handing, List.filterMap_map, Function.comp_def]
  induction fetched with
  | zero => simp [happened, news, Taken.items]
  | succ fetched ih =>
      obtain ⟨begins, items⟩ := ih (Nat.lt_of_succ_lt early)
      obtain ⟨added, grown⟩ := grows fetched early
      have fresh : news listings (fetched + 1) = added := by
        rw [news, ← grown, List.drop_left]
      refine ⟨begins.trans ⟨added, grown⟩, ?_⟩
      rw [happened, Taken.items_append, items, fresh, ← grown,
        List.drop_append_of_le_length begins.length_le, List.map_append, ← handed added]
      rfl

theorem asked_happened (handle : Handle) (interval : Nat)
    (listings : Nat → List Daemon.Forward) (fetches : Nat) :
    (happened handle interval listings fetches).flatMap Taken.asked =
      (List.range fetches).flatMap fun fetched =>
        resting interval (1 < fetched) ++ [fetchQuery handle] := by
  have silent (forwards : List Daemon.Forward) :
      (forwards.map handing).flatMap Taken.asked = [] := by
    simp [handing, List.flatMap_map]
  induction fetches with
  | zero => rfl
  | succ fetches ih =>
      rw [happened, List.flatMap_append, ih, List.flatMap_cons, silent, List.range_succ,
        List.flatMap_append, List.flatMap_singleton, List.append_nil]

/-! ### Whole runs -/

/-- A listing that cannot be fetched is the last that is asked for. -/
theorem history_failed (settings : Settings) (connected : session.link.transport = .ok handle)
    {listings : Nat → List Daemon.Forward} {good : Nat}
    (found : ∀ index < good, listingFrom replies index = .ok (listings index))
    (grows : ∀ index, index + 1 < good → listings index <+: listings (index + 1))
    {error : TransportError} (lost : listingFrom replies good = .error error) (extra : Nat) :
    (Taken.history (turn settings) (scripted replies)
        ((happened handle settings.pollInterval listings good).length + (extra + 1)) .starting
        session 0).1 =
      happened handle settings.pollInterval listings good ++
        ⟨resting settings.pollInterval (1 < good) ++ [fetchQuery handle],
            .item (.error (.ofError .listenForwards error))⟩ ::
          List.replicate extra ⟨[], .ended⟩ := by
  cases good with
  | zero =>
      have first := next_starting_failed settings connected lost
      rw [happened, List.length_nil, Nat.zero_add, Taken.history_succ first,
        Taken.history_ended next_finished]
      rfl
  | succ fetched =>
      have before := history_happened settings connected found grows fetched
        (Nat.lt_succ_self fetched)
      have last := next_fetch_failed settings connected (listings fetched).length (0 < fetched)
        lost
      rw [Taken.history_add before, Taken.history_succ last, Taken.history_ended next_failed]
      simp

variable (replies settings)

/-- The subscription hands out what the listing has gained since it began, until a fetch fails.
All that waits is handed out before the next fetch, which comes after a pause. -/
theorem forwards_follow_listings (connected : session.link.transport = .ok handle)
    {listings : Nat → List Daemon.Forward} {good : Nat}
    (found : ∀ index < good, listingFrom replies index = .ok (listings index))
    (grows : ∀ index, index + 1 < good → listings index <+: listings (index + 1)) :
    -- The turns up to the last good reply.
    (∀ count ≤ (happened handle settings.pollInterval listings good).length,
      (Taken.history (turn settings) (scripted replies) count .starting session 0).1 =
        (happened handle settings.pollInterval listings good).take count) ∧
    (Taken.items (happened handle settings.pollInterval listings good) =
      ((listings (good - 1)).drop (listings 0).length).map fun forward => .ok forward.toEvent) ∧
    ((happened handle settings.pollInterval listings good).flatMap Taken.asked =
      (List.range good).flatMap fun fetched =>
        resting settings.pollInterval (1 < fetched) ++ [fetchQuery handle]) ∧
    -- The turns after it.
    (∀ error, listingFrom replies good = .error error → ∀ extra,
      (Taken.history (turn settings) (scripted replies)
          ((happened handle settings.pollInterval listings good).length + (extra + 1)) .starting
          session 0).1 =
        happened handle settings.pollInterval listings good ++
          ⟨resting settings.pollInterval (1 < good) ++ [fetchQuery handle],
              .item (.error (.ofError .listenForwards error))⟩ ::
            List.replicate extra ⟨[], .ended⟩) ∧
    -- Nothing is fetched while an event waits.
    (∀ (state : Polling ForwardEvent) (index : Nat), state.poller.pending ≠ [] →
      (Taken.next (turn settings) (scripted replies) (.polling state) session index).1.asked =
        []) ∧
    (∀ (files : FileSystem) (config : Config), config.validate files = .ok () →
      Poller.pause (Plan.settingsOf config).pollInterval + 100 =
          config.subscriptions.pollInterval.toNat ∧
        0 < Poller.pause (Plan.settingsOf config).pollInterval) := by
  refine ⟨?_, ?_, asked_happened handle settings.pollInterval listings good, ?_, ?_, ?_⟩
  · intro count fewer
    cases good with
    | zero =>
        rw [Nat.le_zero.mp fewer]
        rfl
    | succ fetched =>
        exact Taken.history_take
          (history_happened settings connected found grows fetched (Nat.lt_succ_self fetched))
          fewer
  · cases good with
    | zero => simp [happened, Taken.items]
    | succ fetched =>
        exact (items_happened handle settings.pollInterval grows fetched
          (Nat.lt_succ_self fetched)).2
  · intro error lost extra
    exact history_failed settings connected found grows lost extra
  · intro state index waiting
    exact asked_next_of_pending waiting
  · intro files config valid
    exact config.pause_of_validate valid

/-- A daemon that forwards one payment after another and then cannot be reached. -/
def forwarding (forward : Nat → Daemon.Forward) (good : Nat) : Nat → Except TransportError Json :=
  fun index =>
    if index < good then
      .ok (Daemon.ForwardListing.codec.write ⟨(List.range (index + 1)).map forward⟩)
    else .error .missingResult

/-- A payment over two channels, with its number as the time. -/
def relayed (number : Nat) : Daemon.Forward :=
  ⟨"1x1x1", "2x2x2", 1010, some 1000, some 10, .ofNat number, some (.ofNat number)⟩

theorem forwards_follow_relayed :
    Taken.items (Taken.history (turn ⟨.coreLightning, "getinfo", 5000, 1000, false⟩)
        (scripted (forwarding relayed 3)) 8 .starting
        { Session.fresh 10 10 with link := .establish 0 } 0).1 =
      [.ok (relayed 1).toEvent, .ok (relayed 2).toEvent,
        .error (.ofError .listenForwards .missingResult)] := by
  have connected : ({ Session.fresh 10 10 with link := .establish 0 } : Session).link.transport =
      .ok 0 := rfl
  have found : ∀ index < 3, listingFrom (forwarding relayed 3) index =
      .ok ((List.range (index + 1)).map relayed) := by decide +kernel
  have grows : ∀ index, index + 1 < 3 →
      (List.range (index + 1)).map relayed <+: (List.range (index + 1 + 1)).map relayed := by
    intro index _
    rw [@List.range_succ (index + 1), List.map_append]
    exact List.prefix_append _ _
  have turns : (happened 0 1000 (fun index => (List.range (index + 1)).map relayed) 3).length +
      (2 + 1) = 8 := rfl
  obtain ⟨-, -, -, fails, -⟩ := forwards_follow_listings (forwarding relayed 3)
    ⟨.coreLightning, "getinfo", 5000, 1000, false⟩ connected found grows
  have failed := fails .missingResult rfl 2
  rw [turns] at failed
  rw [failed]
  rfl

end ForwardFeed

end LightningGateway
