import Mathlib.Data.List.Induction
import Mathlib.Data.List.TakeWhile
import LightningGateway.Proofs.Readiness

/-!
# Attempts until the daemon is up

A single subscription makes one attempt to connect in each of its turns, with a pause before each
but the first. As long as the daemon is out of reach it reports so and goes on. The first attempt
that ends otherwise is its last: it reports success, or the error that has ended the attempt. Only
after a success is there a connection; another subscription then reports success at once, and after
an error it begins anew.
-/

namespace LightningGateway.Lifecycle

/-- How an attempt to connect goes. -/
inductive Attempt where
  /-- No connection can be opened. -/
  | refused (error : TransportError)
  /-- The first call on the connection fails. -/
  | silent (handle : Handle) (error : TransportError)
  /-- The daemon answers the first call. -/
  | alive (handle : Handle) (value : Json)

namespace Attempt

def outcome : Attempt → Except TransportError Handle
  | refused error | silent _ error => .error error
  | alive handle _ => .ok handle

/-- The daemon was out of reach. -/
def isOffline (attempt : Attempt) : Bool :=
  match attempt.outcome with
  | .ok _ => false
  | .error error => error.isConnect

/-- What is asked in an attempt: always a new connection, and a first call if it is opened. -/
def asked (settings : Settings) : Attempt → List Query
  | refused _ => [.connect]
  | silent handle _ | alive handle _ =>
      [.connect, .call handle settings.livenessMethod (.object [])]

end Attempt

/-- Surroundings in which the attempts to connect go as a script has it, one after another. -/
def scripted : Surroundings (List Attempt)
  | .connect, .refused error :: later => (.error error, later)
  | .connect, .silent handle error :: later => (.ok handle, .silent handle error :: later)
  | .connect, .alive handle value :: later => (.ok handle, .alive handle value :: later)
  | .connect, [] => (.error .missingResult, [])
  | .call _ _ _, .silent _ error :: later => (.error error, later)
  | .call _ _ _, .alive _ value :: later => (.ok value, later)
  | .call _ _ _, script => (.error .missingResult, script)
  | .chainCall _ _, script => (.error .missingResult, script)
  | .command _, script => (.error .missingResult, script)
  | .sleep _, script => ((), script)
  | .now, script => (0, script)
  | .label, script => ("", script)
  | .publish _, script => ((), script)

/-- The attempts at the beginning of a script that find the daemon out of reach. -/
def offline (script : List Attempt) : List Attempt := script.takeWhile Attempt.isOffline

/-- How far a subscription has come after some attempts that found the daemon out of reach. -/
def stageAfter : Nat → Lifecycle
  | 0 => .starting
  | _ + 1 => .retrying

/-- The session after such attempts. -/
def sessionAfter (session : Session) : Nat → Session
  | 0 => session
  | _ + 1 => session.withLink .lose

/-- What is asked before the attempt at a place: only the first attempt is made at once. -/
def pausing (settings : Settings) : Nat → List Query
  | 0 => []
  | _ + 1 => [.sleep settings.retryDelay]

/-- The turn around the attempt at a place. -/
def trying (settings : Settings) (brought : Turn (Except Failure LifecycleUpdate)) (place : Nat)
    (attempt : Attempt) : Taken (Except Failure LifecycleUpdate) :=
  ⟨pausing settings place ++ attempt.asked settings, brought⟩

/-- The number of connections that are opened in some turns. -/
def connects (turns : List (Taken (Except Failure LifecycleUpdate))) : Nat :=
  (turns.flatMap Taken.asked).countP fun
    | .connect => true
    | _ => false

/-- The pauses in some turns, in milliseconds. -/
def pauses (turns : List (Taken (Except Failure LifecycleUpdate))) : List Nat :=
  (turns.flatMap Taken.asked).filterMap fun
    | .sleep milliseconds => some milliseconds
    | _ => none

/-- What comes of a subscription, in turns that nobody else interrupts. -/
structure Course (settings : Settings) (session : Session) (script : List Attempt) : Prop where
  /-- Each attempt that finds the daemon out of reach is reported as such. -/
  waits : ∀ count ≤ (offline script).length,
    Taken.history (turn settings) scripted count .starting session script =
      ((script.take count).mapIdx (trying settings (.item (.ok .waiting))), stageAfter count,
        sessionAfter session count, script.drop count)
  /-- The first other attempt is the last one. A success establishes the connection. -/
  succeeds : ∀ attempt later handle,
    script.dropWhile Attempt.isOffline = attempt :: later → attempt.outcome = .ok handle →
    ∀ more,
      Taken.history (turn settings) scripted ((offline script).length + 1 + more) .starting
          session script =
        ((offline script).mapIdx (trying settings (.item (.ok .waiting))) ++
            trying settings (.item (.ok .success)) (offline script).length attempt ::
            List.replicate more ⟨[], .ended⟩,
          .finished, session.withLink (.establish handle), later)
  /-- Any other error is reported, and the attempts are given up. -/
  fails : ∀ attempt later error,
    script.dropWhile Attempt.isOffline = attempt :: later → attempt.outcome = .error error →
    ∀ more,
      Taken.history (turn settings) scripted ((offline script).length + 1 + more) .starting
          session script =
        ((offline script).mapIdx (trying settings (.item (.ok .waiting))) ++
            trying settings (.item (.error (.ofError .establish error))) (offline script).length
              attempt ::
            List.replicate more ⟨[], .ended⟩,
          .finished, session.withLink .giveUp, later)
  /-- With the item after some reports that the daemon is out of reach, one more connection than
  these was opened, and as many pauses were made. -/
  counts : ∀ count ≤ (offline script).length, count < script.length →
    let turns :=
      (Taken.history (turn settings) scripted (count + 1) .starting session script).1
    connects turns = count + 1 ∧ pauses turns = List.replicate count settings.retryDelay

variable (settings : Settings) {session : Session}

/-! ### One turn -/

theorem attempted_scripted (attempt : Attempt) (later : List Attempt) (asked : List Query) :
    attempted (Surroundings.noting scripted) settings (attempt :: later, asked) =
      (attempt.outcome, (later, asked ++ attempt.asked settings)) := by
  cases attempt <;> simp [attempted, Surroundings.noting, scripted, Attempt.outcome, Attempt.asked]

theorem next_attempt (place : Nat) (unready : place = 0 → session.link.phase ≠ .ready)
    (attempt : Attempt) (later : List Attempt) :
    Taken.next (turn settings) scripted (stageAfter place) session (attempt :: later) =
      (trying settings (reportOf attempt.outcome).1 place attempt, (reportOf attempt.outcome).2,
        session.withLink (linkAfter attempt.outcome), later) := by
  unfold Taken.next
  cases place with
  | zero =>
      rw [stageAfter, run_turn_starting, if_neg (unready rfl), run_connect, attempted_scripted]
      rfl
  | succ place =>
      rw [stageAfter, run_turn_retrying, run_connect]
      have tried : attempted (Surroundings.noting scripted) settings
          (Surroundings.noting scripted (.sleep settings.retryDelay) (attempt :: later, [])).2 =
            (attempt.outcome, later, [.sleep settings.retryDelay] ++ attempt.asked settings) :=
        attempted_scripted settings attempt later [.sleep settings.retryDelay]
      rw [tried]
      rfl

theorem reportOf_of_isOffline {attempt : Attempt} (unreachable : attempt.isOffline = true) :
    reportOf attempt.outcome = (.item (.ok .waiting), .retrying) ∧
      linkAfter attempt.outcome = .lose := by
  unfold Attempt.isOffline at unreachable
  cases ended : attempt.outcome with
  | ok handle =>
      rw [ended] at unreachable
      cases unreachable
  | error error =>
      rw [ended] at unreachable
      exact ⟨if_pos unreachable, if_pos unreachable⟩

theorem reportOf_of_error {attempt : Attempt} {error : TransportError}
    (ended : attempt.outcome = .error error) (reachable : attempt.isOffline = false) :
    reportOf attempt.outcome =
        (.item (.error (.ofError .establish error)), .finished) ∧
      linkAfter attempt.outcome = .giveUp := by
  rw [Attempt.isOffline, ended] at reachable
  rw [ended]
  have other : ¬ error.isConnect = true := by simpa using reachable
  exact ⟨if_neg other, if_neg other⟩

theorem next_finished {ω : Type} (answer : Surroundings ω) (session : Session) (world : ω) :
    Taken.next (turn settings) answer .finished session world =
      (⟨[], .ended⟩, .finished, session, world) := rfl

/-! ### Turn after turn -/

theorem sessionAfter_ne_ready (unready : session.link.phase ≠ .ready) (place : Nat) :
    place = 0 → (sessionAfter session place).link.phase ≠ .ready := by
  rintro rfl
  exact unready

theorem withLink_sessionAfter (session : Session) (place : Nat) (link : Link) :
    (sessionAfter session place).withLink link = session.withLink link := by
  cases place <;> rfl

/-- As long as the daemon is out of reach, a subscription goes on. -/
theorem history_offline (unready : session.link.phase ≠ .ready) (attempts later : List Attempt)
    (unreachable : ∀ attempt ∈ attempts, attempt.isOffline = true) :
    Taken.history (turn settings) scripted attempts.length .starting session
        (attempts ++ later) =
      (attempts.mapIdx (trying settings (.item (.ok .waiting))), stageAfter attempts.length,
        sessionAfter session attempts.length, later) := by
  induction attempts using List.reverseRecOn generalizing later with
  | nil => rfl
  | append_singleton attempts attempt ih =>
      have before := ih (attempt :: later) fun other member =>
        unreachable other (List.mem_append_left _ member)
      have next := next_attempt settings attempts.length
        (sessionAfter_ne_ready unready attempts.length) attempt later
      obtain ⟨report, link⟩ := reportOf_of_isOffline
        (unreachable attempt (List.mem_append_right _ (List.mem_singleton_self _)))
      rw [report, link, withLink_sessionAfter] at next
      rw [List.length_append, List.length_singleton, List.append_assoc, List.singleton_append,
        Taken.history_add before, Taken.history_succ next, List.mapIdx_concat]
      rfl

/-- The first attempt that finds the daemon in reach is the last one. -/
theorem history_decided (unready : session.link.phase ≠ .ready) (attempts later : List Attempt)
    (unreachable : ∀ attempt ∈ attempts, attempt.isOffline = true) {attempt : Attempt}
    {item : Except Failure LifecycleUpdate}
    (report : reportOf attempt.outcome = (.item item, .finished)) (more : Nat) :
    Taken.history (turn settings) scripted (attempts.length + 1 + more) .starting session
        (attempts ++ attempt :: later) =
      (attempts.mapIdx (trying settings (.item (.ok .waiting))) ++
          trying settings (.item item) attempts.length attempt ::
          List.replicate more ⟨[], .ended⟩,
        .finished, session.withLink (linkAfter attempt.outcome), later) := by
  have before := history_offline settings unready attempts (attempt :: later) unreachable
  have next := next_attempt settings attempts.length
    (sessionAfter_ne_ready unready attempts.length) attempt later
  rw [report, withLink_sessionAfter] at next
  rw [Nat.add_assoc, Nat.add_comm 1, Taken.history_add before, Taken.history_succ next,
    Taken.history_ended (next_finished settings scripted _ later)]

/-! ### The whole course -/

theorem isOffline_of_mem {script : List Attempt} {attempt : Attempt}
    (member : attempt ∈ offline script) : attempt.isOffline = true :=
  List.mem_takeWhile_imp member

theorem isOffline_of_dropWhile {script later : List Attempt} {attempt : Attempt}
    (decides : script.dropWhile Attempt.isOffline = attempt :: later) :
    attempt.isOffline = false := by
  have first := List.head?_dropWhile_not Attempt.isOffline script
  rwa [decides] at first

theorem connects_append (first second : List (Taken (Except Failure LifecycleUpdate))) :
    connects (first ++ second) = connects first + connects second := by
  simp [connects]

theorem pauses_append (first second : List (Taken (Except Failure LifecycleUpdate))) :
    pauses (first ++ second) = pauses first ++ pauses second := by
  simp [pauses]

theorem connects_trying (brought : Turn (Except Failure LifecycleUpdate)) (place : Nat)
    (attempt : Attempt) : connects [trying settings brought place attempt] = 1 := by
  cases place <;> cases attempt <;> rfl

theorem pauses_trying (brought : Turn (Except Failure LifecycleUpdate)) (place : Nat)
    (attempt : Attempt) :
    pauses [trying settings brought place attempt] =
      if place = 0 then [] else [settings.retryDelay] := by
  cases place <;> cases attempt <;> rfl

theorem counts_mapIdx (brought : Turn (Except Failure LifecycleUpdate))
    (attempts : List Attempt) :
    connects (attempts.mapIdx (trying settings brought)) = attempts.length ∧
      pauses (attempts.mapIdx (trying settings brought)) =
        List.replicate (attempts.length - 1) settings.retryDelay := by
  induction attempts using List.reverseRecOn with
  | nil => exact ⟨rfl, rfl⟩
  | append_singleton attempts attempt ih =>
      obtain ⟨opened, paused⟩ := ih
      rw [List.mapIdx_concat, connects_append, pauses_append, connects_trying, pauses_trying,
        opened, paused, List.length_append, List.length_singleton]
      refine ⟨rfl, ?_⟩
      cases attempts with
      | nil => rfl
      | cons first rest => simp [List.replicate_succ']

/-- The attempts at the beginning of a script, as far as they find the daemon out of reach. -/
theorem history_waiting (unready : session.link.phase ≠ .ready) {script : List Attempt}
    {count : Nat} (few : count ≤ (offline script).length) :
    Taken.history (turn settings) scripted count .starting session script =
      ((script.take count).mapIdx (trying settings (.item (.ok .waiting))), stageAfter count,
        sessionAfter session count, script.drop count) := by
  have begins : offline script <+: script := List.takeWhile_prefix _
  have same : script.take count = (offline script).take count := by
    rw [List.prefix_iff_eq_take.mp begins, List.take_take, Nat.min_eq_left few]
  have long : (script.take count).length = count :=
    List.length_take_of_le (few.trans begins.length_le)
  have went := history_offline settings unready (script.take count) (script.drop count)
    fun attempt member => isOffline_of_mem (List.mem_of_mem_take (same ▸ member))
  rwa [long, List.take_append_drop] at went

theorem counts_waiting (unready : session.link.phase ≠ .ready) {script : List Attempt}
    {count : Nat} (few : count ≤ (offline script).length) (more : count < script.length) :
    let turns :=
      (Taken.history (turn settings) scripted (count + 1) .starting session script).1
    connects turns = count + 1 ∧ pauses turns = List.replicate count settings.retryDelay := by
  have before := history_waiting settings unready few
  rw [List.drop_eq_getElem_cons more] at before
  have next := next_attempt settings count (sessionAfter_ne_ready unready count) script[count]
    (script.drop (count + 1))
  have long : (script.take count).length = count := List.length_take_of_le more.le
  obtain ⟨opened, paused⟩ := counts_mapIdx settings (.item (.ok .waiting)) (script.take count)
  dsimp only
  rw [Taken.history_add before, Taken.history_succ next, connects_append, pauses_append, opened,
    paused, long]
  change count + connects [_] = _ ∧ _ ++ pauses [_] = _
  rw [connects_trying, pauses_trying]
  refine ⟨rfl, ?_⟩
  cases count with
  | zero => rfl
  | succ count => simp [List.replicate_succ']

theorem course_of_unready (unready : session.link.phase ≠ .ready) (script : List Attempt) :
    Course settings session script where
  waits count few := history_waiting settings unready few
  succeeds attempt later handle decides ended more := by
    have report : reportOf attempt.outcome = (.item (.ok .success), .finished) := by
      rw [ended]
      rfl
    have went := history_decided settings unready (offline script) later
      (fun _ => isOffline_of_mem) report more
    rw [offline, ← decides, List.takeWhile_append_dropWhile, ended] at went
    exact went
  fails attempt later error decides ended more := by
    obtain ⟨report, link⟩ := reportOf_of_error ended (isOffline_of_dropWhile decides)
    have went := history_decided settings unready (offline script) later
      (fun _ => isOffline_of_mem) report more
    rw [offline, ← decides, List.takeWhile_append_dropWhile, link] at went
    exact went
  counts count few more := counts_waiting settings unready few more

/-- Another subscription to a connection that is established asks nothing. -/
theorem history_established {ω : Type} (answer : Surroundings ω) {handle : Handle}
    (established : session.link = .establish handle) (world : ω) (more : Nat) :
    Taken.history (turn settings) answer (more + 1) .starting session world =
      (⟨[], .item (.ok .success)⟩ :: List.replicate more ⟨[], .ended⟩, .finished, session,
        world) := by
  have ready : session.link.phase = .ready := congrArg Link.phase established
  have first : Taken.next (turn settings) answer .starting session world =
      (⟨[], .item (.ok .success)⟩, .finished, session, world) := by
    unfold Taken.next
    rw [run_turn_starting, if_pos ready]
  rw [Taken.history_succ first, Taken.history_ended (next_finished settings answer session world)]

/-- A single subscription to a connection that is not ready makes attempts until one of them finds
the daemon in reach. Another subscription reports success at once if that attempt has succeeded, and
begins anew if it has failed. -/
theorem attempts_until_in_reach (settings : Settings) {session : Session}
    (unready : session.link.phase ≠ .ready) (script : List Attempt) :
    Course settings session script ∧
      (∀ handle again, again.link = .establish handle →
        ∀ (ω : Type) (answer : Surroundings ω) (world : ω) more,
          Taken.history (turn settings) answer (more + 1) .starting again world =
            (⟨[], .item (.ok .success)⟩ :: List.replicate more ⟨[], .ended⟩, .finished, again,
              world)) ∧
      ∀ again : Session, again.link = .giveUp → ∀ later, Course settings again later := by
  refine ⟨course_of_unready settings unready script, ?_, fun again lost later => ?_⟩
  · intro handle again established ω answer world more
    exact history_established settings answer established world more
  · exact course_of_unready settings (by rw [lost]; exact nofun) later

/-- Out of reach twice, then a refusal. A daemon that is up comes too late for this subscription. -/
def bumpyScript : List Attempt :=
  [.refused (.connect "Connection refused"), .silent 3 (.connect "Connection reset"),
    .silent 4 (.permissionDenied "bad rune"), .alive 5 .null]

theorem bumpyScript_until_in_reach :
    let settings : Settings := ⟨.coreLightning, "getinfo", 2000, 2000, false⟩
    let session := Session.fresh 1 1
    let probe (handle : Handle) : Query := .call handle "getinfo" (.object [])
    session.link.phase ≠ .ready ∧
      Taken.history (turn settings) scripted 4 .starting session bumpyScript =
        ([⟨[.connect], .item (.ok .waiting)⟩,
            ⟨[.sleep 2000, .connect, probe 3], .item (.ok .waiting)⟩,
            ⟨[.sleep 2000, .connect, probe 4],
              .item (.error (.ofError .establish (.permissionDenied "bad rune")))⟩,
            ⟨[], .ended⟩],
          .finished, session.withLink .giveUp, [.alive 5 .null]) ∧
      Taken.history (turn settings) scripted 2 .starting (session.withLink .giveUp)
          [.alive 5 .null] =
        ([⟨[.connect, probe 5], .item (.ok .success)⟩, ⟨[], .ended⟩], .finished,
          session.withLink (.establish 5), []) ∧
      Taken.history (turn settings) scripted 2 .starting (session.withLink (.establish 5)) [] =
        ([⟨[], .item (.ok .success)⟩, ⟨[], .ended⟩], .finished,
          session.withLink (.establish 5), []) := by
  intro settings session probe
  have unready : session.link.phase ≠ .ready := nofun
  obtain ⟨course, reopened, anew⟩ := attempts_until_in_reach settings unready bumpyScript
  refine ⟨unready, course.fails _ _ _ rfl rfl 1, ?_, reopened 5 _ rfl _ scripted [] 1⟩
  exact (anew (session.withLink .giveUp) rfl [.alive 5 .null]).succeeds _ _ _ rfl rfl 1

end LightningGateway.Lifecycle
