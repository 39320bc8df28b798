import LightningGateway.Proofs.Braids

/-!
# What polls come to

A poll can be computed from the answers that are there. What every step of a braid keeps, all its
polls keep. A strand that asks nothing has ended after its first poll, and a strand that asks one
question ends in the poll in which the answer has come.
-/

namespace LightningGateway

/-! ### Polls that are computed -/

/-- The answers that are there in a poll. -/
abbrev Hearing := (query : Query) → Option query.Reply

section Hearing

variable {σ ε : Type} (hears : Hearing)

/-- Goes on as far as the answers that are there take a dialogue. -/
def Dialogue.hear {α : Type} : Dialogue σ α → σ → List Event × Halt σ α × σ
  | .done value, state => ([], .ended value, state)
  | .read next, state => (next state).hear state
  | .write state next, _ => next.hear state
  | .ask query next, state =>
      match hears query with
      | none => ([.put query], .asking query next, state)
      | some reply =>
          let (events, after) := (next reply).hear state
          (.put query :: .heard ⟨query, reply⟩ :: events, after)

namespace Braid

/-- A poll, with the answers that are there. -/
def poll {α : Type} : Braid σ ε α → σ → List Event × Reached σ ε α × σ
  | strand dialogue, state =>
      let (events, halt, after) := dialogue.hear hears state
      (events, .ofHalt halt, after)
  | waiting query next, state =>
      match hears query with
      | none => ([], .going (.waiting query next), state)
      | some reply =>
          let (events, halt, after) := (next reply).hear hears state
          (.heard ⟨query, reply⟩ :: events, .ofHalt halt, after)
  | both first second combine, state =>
      let (early, reached, between) := first.poll state
      match reached.failure? with
      | some error => (early ++ second.inFlight.map .dropped, .ended (.error error), between)
      | none =>
          let (late, other, after) := second.poll between
          match other.failure? with
          | some error =>
              (early ++ late ++ reached.rest.inFlight.map .dropped, .ended (.error error), after)
          | none => (early ++ late, .both combine reached other, after)
  | andThen first next, state =>
      match first.poll state with
      | (early, .ended (.error error), after) => (early, .ended (.error error), after)
      | (early, .going rest, after) => (early, .going (.andThen rest next), after)
      | (early, .ended (.ok value), between) =>
          let (late, reached, after) := (next value).poll between
          (early ++ late, reached, after)

/-- Polls until the braid has ended, as long as there are any. -/
def polled {α : Type} : List Hearing → Braid σ ε α → σ → List Event × Reached σ ε α × σ
  | [], braid, state => ([], .going braid, state)
  | hears :: others, braid, state =>
      match braid.poll hears state with
      | (events, .ended result, after) => (events, .ended result, after)
      | (early, .going rest, between) =>
          let (late, reached, after) := rest.polled others between
          (early ++ late, reached, after)

end Braid

/-- What is heard is there. -/
def Hearing.Tells (events : List Event) : Prop :=
  ∀ answered ∈ Event.answers events, hears answered.query = some answered.reply

variable {hears : Hearing}

theorem Hearing.Tells.append {early late : List Event} (first : hears.Tells early)
    (second : hears.Tells late) : hears.Tells (early ++ late) := by
  rw [Hearing.Tells, Event.answers_append]
  exact List.forall_mem_append.mpr ⟨first, second⟩

theorem Hearing.tells_dropped (queries : List Query) : hears.Tells (queries.map .dropped) := by
  rw [Hearing.Tells, Event.answers_dropped]
  exact List.forall_mem_nil _

theorem Dialogue.goes_hear {α : Type} (dialogue : Dialogue σ α) (state : σ) :
    Halt.Goes (dialogue.advance state) (dialogue.hear hears state).1
        (dialogue.hear hears state).2 ∧
      hears.Tells (dialogue.hear hears state).1 := by
  induction dialogue generalizing state with
  | done value => exact ⟨.ended value state, List.forall_mem_nil _⟩
  | read next ih => exact ih state state
  | write changed next ih => exact ih changed
  | ask query next ih =>
      rw [hear, advance]
      cases told : hears query with
      | none => exact ⟨.stays query next state, List.forall_mem_nil _⟩
      | some reply =>
          obtain ⟨goes, tells⟩ := ih reply state
          exact ⟨.hears reply goes, List.forall_mem_cons.mpr ⟨told, tells⟩⟩

namespace Braid

/-- The poll that is computed is one. -/
theorem polls_poll {α : Type} (braid : Braid σ ε α) (state : σ) :
    Polls braid state (braid.poll hears state).1 (braid.poll hears state).2.1
        (braid.poll hears state).2.2 ∧
      hears.Tells (braid.poll hears state).1 := by
  induction braid generalizing state with
  | strand dialogue =>
      obtain ⟨goes, tells⟩ := dialogue.goes_hear state
      exact ⟨.strand goes, tells⟩
  | waiting query next =>
      rw [poll]
      cases told : hears query with
      | none => exact ⟨.waits query next state, List.forall_mem_nil _⟩
      | some reply =>
          obtain ⟨goes, tells⟩ := (next reply).goes_hear state
          exact ⟨.hears reply goes, List.forall_mem_cons.mpr ⟨told, tells⟩⟩
  | both first second combine ih later =>
      obtain ⟨polls, tells⟩ := ih state
      rw [poll]
      generalize first.poll hears state = polled at polls tells
      obtain ⟨early, reached, between⟩ := polled
      dsimp only at polls tells ⊢
      cases failed : reached.failure? with
      | some error =>
          obtain rfl := Reached.eq_of_failure? failed
          exact ⟨.firstFails polls second combine, tells.append (Hearing.tells_dropped _)⟩
      | none =>
          obtain ⟨follows, others⟩ := later between
          generalize second.poll hears between = polled at follows others
          obtain ⟨late, other, after⟩ := polled
          dsimp only at follows others ⊢
          cases also : other.failure? with
          | some error =>
              obtain rfl := Reached.eq_of_failure? also
              exact ⟨.secondFails polls failed follows combine,
                (tells.append others).append (Hearing.tells_dropped _)⟩
          | none => exact ⟨.bothGo polls failed follows also combine, tells.append others⟩
  | andThen first next ih later =>
      obtain ⟨polls, tells⟩ := ih state
      rw [poll]
      generalize first.poll hears state = polled at polls tells
      obtain ⟨early, reached, between⟩ := polled
      cases reached with
      | going rest => exact ⟨.goesOn polls next, tells⟩
      | ended result =>
          cases result with
          | error error => exact ⟨.fails polls next, tells⟩
          | ok value =>
              obtain ⟨follows, others⟩ := later value between
              exact ⟨.continues polls follows, tells.append others⟩

/-- Polls that have come to an end are a run. -/
theorem runs_polled {α : Type} {hearings : List Hearing} {braid : Braid σ ε α} {state after : σ}
    {events : List Event} {result : Except ε α}
    (ends : braid.polled hearings state = (events, .ended result, after)) :
    Runs braid state events result after ∧
      ∀ answered ∈ Event.answers events, ∃ hears ∈ hearings,
        hears answered.query = some answered.reply := by
  induction hearings generalizing braid state events with
  | nil => cases ends
  | cons hears others ih =>
      obtain ⟨polls, tells⟩ := @polls_poll σ ε hears α braid state
      rw [polled] at ends
      generalize braid.poll hears state = reached at polls tells ends
      obtain ⟨early, reached, between⟩ := reached
      cases reached with
      | ended ended =>
          cases ends
          exact ⟨.ends polls, fun answered member =>
            ⟨hears, List.mem_cons_self, tells answered member⟩⟩
      | going rest =>
          dsimp only at polls tells ends
          rcases later : rest.polled others between with ⟨late, reached, last⟩
          rw [later] at ends
          cases ends
          obtain ⟨runs, told⟩ := ih later
          refine ⟨.polled polls runs, ?_⟩
          rw [Event.answers_append]
          refine List.forall_mem_append.mpr ⟨fun answered member =>
            ⟨hears, List.mem_cons_self, tells answered member⟩, fun answered member => ?_⟩
          obtain ⟨heard, among, same⟩ := told answered member
          exact ⟨heard, List.mem_cons_of_mem _ among, same⟩

end Braid

end Hearing

/-! ### What every step keeps -/

section Keeping

variable {σ ε α β : Type} {holds : σ → Prop} {fine : α → Prop} {fails : ε → Prop}

/-- A dialogue keeps a property of its state, which others keep too, and ends with a fine value. -/
def Dialogue.Keeps (holds : σ → Prop) (fine : α → Prop) : Dialogue σ α → Prop
  | .done value => fine value
  | .read next => ∀ state, holds state → (next state).Keeps holds fine
  | .write state next => holds state ∧ next.Keeps holds fine
  | .ask _ next => ∀ reply, (next reply).Keeps holds fine

theorem Dialogue.Keeps.bind {dialogue : Dialogue σ α} {next : α → Dialogue σ β}
    {alsoFine : β → Prop} (first : dialogue.Keeps holds fine)
    (rest : ∀ value, fine value → (next value).Keeps holds alsoFine) :
    (dialogue >>= next).Keeps holds alsoFine := by
  change (dialogue.bind next).Keeps holds alsoFine
  induction dialogue with
  | done value => exact rest value first
  | read more ih => exact fun state held => ih state (first state held)
  | write state more ih => exact ⟨first.1, ih first.2⟩
  | ask query more ih => exact fun reply => ih reply (first reply)

/-- What is kept where a dialogue stands. -/
def Dialogue.Halt.Keeps (holds : σ → Prop) (fine : α → Prop) : Dialogue.Halt σ α → Prop
  | .ended value => fine value
  | .asking _ next => ∀ reply, (next reply).Keeps holds fine

theorem Dialogue.Keeps.advance {dialogue : Dialogue σ α} (keeps : dialogue.Keeps holds fine)
    {state : σ} (held : holds state) :
    (dialogue.advance state).1.Keeps holds fine ∧ holds (dialogue.advance state).2 := by
  induction dialogue generalizing state with
  | done value => exact ⟨keeps, held⟩
  | read next ih => exact ih state (keeps state held) held
  | write changed next ih => exact ih keeps.2 keeps.1
  | ask query next ih => exact ⟨keeps, held⟩

theorem Dialogue.Halt.Goes.keeps {before after : Dialogue.Halt σ α × σ} {events : List Event}
    (goes : Dialogue.Halt.Goes before events after) (keeps : before.1.Keeps holds fine)
    (held : holds before.2) : after.1.Keeps holds fine ∧ holds after.2 := by
  induction goes with
  | ended | stays => exact ⟨keeps, held⟩
  | hears reply rest ih =>
      obtain ⟨further, still⟩ := (keeps reply).advance held
      exact ih further still

/-- The strands of a braid keep a property of their state, and fail only in some ways. -/
def Braid.Keeps (holds : σ → Prop) (fails : ε → Prop) {α : Type} : Braid σ ε α → Prop
  | .strand dialogue =>
      dialogue.Keeps holds fun result => ∀ error, result = .error error → fails error
  | .waiting _ next => ∀ reply,
      (next reply).Keeps holds fun result => ∀ error, result = .error error → fails error
  | .both first second _ => first.Keeps holds fails ∧ second.Keeps holds fails
  | .andThen first next => first.Keeps holds fails ∧ ∀ value, (next value).Keeps holds fails

namespace Braid

/-- What is kept where a poll has come to. -/
def Reached.Keeps (holds : σ → Prop) (fails : ε → Prop) : Reached σ ε α → Prop
  | .ended result => ∀ error, result = .error error → fails error
  | .going braid => braid.Keeps holds fails

theorem Reached.Keeps.ofHalt {halt : Dialogue.Halt σ (Except ε α)}
    (keeps : halt.Keeps holds fun result => ∀ error, result = .error error → fails error) :
    (Reached.ofHalt halt).Keeps holds fails := by
  cases halt with
  | asking query next => exact keeps
  | ended result => exact keeps

theorem Reached.Keeps.rest {reached : Reached σ ε α} (keeps : reached.Keeps holds fails) :
    reached.rest.Keeps holds fails := by
  cases reached with
  | ended result => exact keeps
  | going braid => exact keeps

theorem Reached.Keeps.failed {error : ε}
    (keeps : (Reached.ended (.error error) : Reached σ ε α).Keeps holds fails) :
    (Reached.ended (.error error) : Reached σ ε β).Keeps holds fails := by
  intro other same
  cases same
  exact keeps error rfl

theorem Reached.Keeps.both {γ : Type} {first : Reached σ ε α} {second : Reached σ ε β}
    (keeps : first.Keeps holds fails) (alsoKeeps : second.Keeps holds fails)
    (combine : α → β → γ) (unfailed : first.failure? = none)
    (alsoUnfailed : second.failure? = none) :
    (Reached.both combine first second).Keeps holds fails := by
  rcases both_cases combine unfailed alsoUnfailed with going | ⟨value, other, rfl, rfl⟩
  · rw [going]
    exact ⟨keeps.rest, alsoKeeps.rest⟩
  · exact fun _ same => nomatch same

/-- What every step keeps, a poll keeps. -/
theorem Polls.keeps {α : Type} {braid : Braid σ ε α} {reached : Reached σ ε α}
    {state after : σ} {events : List Event} (polls : Polls braid state events reached after)
    (keeps : braid.Keeps holds fails) (held : holds state) :
    reached.Keeps holds fails ∧ holds after := by
  induction polls with
  | strand goes =>
      obtain ⟨further, still⟩ := Dialogue.Keeps.advance keeps held
      obtain ⟨last, kept⟩ := goes.keeps further still
      exact ⟨.ofHalt last, kept⟩
  | waits => exact ⟨keeps, held⟩
  | hears reply goes =>
      obtain ⟨further, still⟩ := Dialogue.Keeps.advance (keeps reply) held
      obtain ⟨last, kept⟩ := goes.keeps further still
      exact ⟨.ofHalt last, kept⟩
  | firstFails polls second combine ih =>
      exact ⟨(ih keeps.1 held).1.failed, (ih keeps.1 held).2⟩
  | secondFails goes unfailed polls combine ih later =>
      obtain ⟨failed, still⟩ := later keeps.2 (ih keeps.1 held).2
      exact ⟨failed.failed, still⟩
  | bothGo goes unfailed follows alsoUnfailed combine ih later =>
      obtain ⟨first, between⟩ := ih keeps.1 held
      obtain ⟨second, still⟩ := later keeps.2 between
      exact ⟨first.both second combine unfailed alsoUnfailed, still⟩
  | fails polls next ih => exact ⟨(ih keeps.1 held).1.failed, (ih keeps.1 held).2⟩
  | goesOn goes next ih => exact ⟨⟨(ih keeps.1 held).1, keeps.2⟩, (ih keeps.1 held).2⟩
  | continues ends follows ih later => exact later (keeps.2 _) (ih keeps.1 held).2

theorem Runs.keeps {braid : Braid σ ε α} {state after : σ} {events : List Event}
    {result : Except ε α} (runs : Runs braid state events result after)
    (keeps : braid.Keeps holds fails) (held : holds state) : holds after := by
  induction runs with
  | ends polls => exact (polls.keeps keeps held).2
  | polled polls runs ih =>
      obtain ⟨further, still⟩ := polls.keeps keeps held
      exact ih further still

theorem keeps_all {dialogues : List (Dialogue σ (Except ε α))}
    (each : ∀ dialogue ∈ dialogues, dialogue.Keeps holds fun result =>
      ∀ error, result = .error error → fails error) :
    (Braid.all dialogues).Keeps holds fails := by
  induction dialogues with
  | nil => exact fun _ same => nomatch same
  | cons first others ih =>
      obtain ⟨head, tail⟩ := List.forall_mem_cons.mp each
      exact ⟨head, ih tail⟩

end Braid

end Keeping

namespace Gateway

variable {α β : Type} {holds : Session → Prop} {fails : Failure → Prop}

/-- An operation keeps a property of the session and fails only in some ways, whatever is answered
and whatever others do. -/
def Keeps (holds : Session → Prop) (fails : Failure → Prop) (operation : Gateway α) : Prop :=
  ∀ settings, (operation.toDialogue settings).Keeps holds
    fun result => ∀ error, result = .error error → fails error

theorem keeps_pure (value : α) : Keeps holds fails (pure value : Gateway α) :=
  fun _ _ same => nomatch same

theorem Keeps.bind {first : Gateway α} {next : α → Gateway β} (keeps : Keeps holds fails first)
    (rest : ∀ value, Keeps holds fails (next value)) : Keeps holds fails (first >>= next) := by
  intro settings
  refine Dialogue.Keeps.bind (keeps settings) fun result fine => ?_
  cases result with
  | ok value => exact rest value settings
  | error error =>
      intro other same
      cases same
      exact fine error rfl

theorem Keeps.map {operation : Gateway α} (keeps : Keeps holds fails operation)
    (change : α → β) : Keeps holds fails (change <$> operation) := by
  rw [map_eq_pure_bind]
  exact keeps.bind fun value => keeps_pure (change value)

theorem keeps_orClassify (operation : Operation) (found : Except TransportError α) :
    Keeps holds (fun _ => True) (orClassify operation found) := by
  intro settings
  cases found <;> exact fun _ _ => trivial

theorem keeps_command (operation : Operation) (arguments : List String) :
    Keeps holds (fun _ => True) (command operation arguments) :=
  fun settings reply => keeps_orClassify operation reply settings

theorem keeps_call (operation : Operation) (codec : Codec α) (method : String)
    (parameters : Json) :
    Keeps holds (fun _ => True) (call operation codec method parameters) := by
  rw [call_eq]
  have connects : Keeps holds (fun _ => True) handle := by
    have found : Keeps holds (fun _ => True) (get : Gateway Session) :=
      fun settings session held error _ => trivial
    refine found.bind fun session => ?_
    cases session.link.transport <;> exact fun _ _ _ => trivial
  exact connects.bind fun handle settings reply => keeps_orClassify operation _ settings

end Gateway

/-! ### Braids that fail at once -/

namespace Braid

variable {σ ε α β γ : Type} {error : ε} {state : σ}

/-- A braid fails in its first poll, before anything is asked, whatever answers are there. -/
def Refuses (error : ε) (state : σ) (braid : Braid σ ε α) : Prop :=
  ∀ events reached after, Polls braid state events reached after →
    events = [] ∧ reached = .ended (.error error) ∧ after = state

theorem refuses_strand {dialogue : Dialogue σ (Except ε α)}
    (fails : dialogue.advance state = (.ended (.error error), state)) :
    (strand dialogue).Refuses error state := by
  intro events reached after polls
  cases polls with
  | strand goes =>
      rw [fails] at goes
      cases goes
      exact ⟨rfl, rfl, rfl⟩

theorem Refuses.both {first : Braid σ ε α} (refuses : first.Refuses error state)
    {second : Braid σ ε β} (unasked : second.inFlight = []) (combine : α → β → γ) :
    (both first second combine).Refuses error state := by
  intro events reached after polls
  cases polls with
  | firstFails fails second combine =>
      obtain ⟨rfl, same, rfl⟩ := refuses _ _ _ fails
      cases same
      rw [unasked]
      exact ⟨rfl, rfl, rfl⟩
  | secondFails goes unfailed fails combine | bothGo goes unfailed follows also combine =>
      obtain ⟨-, rfl, -⟩ := refuses _ _ _ goes
      cases unfailed

theorem Refuses.andThen {first : Braid σ ε α} (refuses : first.Refuses error state)
    (next : α → Braid σ ε β) : (first.andThen next).Refuses error state := by
  intro events reached after polls
  cases polls with
  | fails fails next =>
      obtain ⟨rfl, same, rfl⟩ := refuses _ _ _ fails
      cases same
      exact ⟨rfl, rfl, rfl⟩
  | goesOn goes next | continues goes follows =>
      obtain ⟨-, same, -⟩ := refuses _ _ _ goes
      cases same

theorem Refuses.of_runs {braid : Braid σ ε α} (refuses : braid.Refuses error state)
    {events : List Event} {result : Except ε α} {after : σ}
    (runs : Runs braid state events result after) : result = .error error := by
  cases runs with
  | ends polls =>
      obtain ⟨-, same, -⟩ := refuses _ _ _ polls
      cases same
      rfl
  | polled polls runs =>
      obtain ⟨-, same, -⟩ := refuses _ _ _ polls
      cases same

theorem eq_of_runs_strand {dialogue : Dialogue σ (Except ε α)} {brings : Except ε α}
    (ends : dialogue.advance state = (.ended brings, state)) {events : List Event}
    {result : Except ε α} {after : σ} (runs : Runs (.strand dialogue) state events result after) :
    result = brings := by
  have ended {events : List Event} {reached : Reached σ ε α} {after : σ}
      (polls : Polls (.strand dialogue) state events reached after) :
      reached = .ended brings := by
    cases polls with
    | strand goes =>
        rw [ends] at goes
        cases goes
        rfl
  cases runs with
  | ends polls =>
      cases ended polls
      rfl
  | polled polls runs => cases ended polls

/-! ### Dialogues with one question -/

section OneQuestion

variable {dialogue : Dialogue σ (Except ε α)} {query : Query}
  {next : query.Reply → Dialogue σ (Except ε α)} {brings : query.Reply → Except ε α}
  {events : List Event} {reached : Reached σ ε α} {after : σ}

theorem polls_waiting_once
    (ends : ∀ reply, (next reply).advance state = (.ended (brings reply), state))
    (polls : Polls (.waiting query next) state events reached after) :
    after = state ∧
      (events = [] ∧ reached = .going (.waiting query next) ∨
        ∃ reply, events = [.heard ⟨query, reply⟩] ∧ reached = .ended (brings reply)) := by
  cases polls with
  | waits => exact ⟨rfl, .inl ⟨rfl, rfl⟩⟩
  | hears reply goes =>
      rw [ends] at goes
      cases goes
      exact ⟨rfl, .inr ⟨reply, rfl, rfl⟩⟩

theorem polls_strand_once (asks : dialogue.advance state = (.asking query next, state))
    (ends : ∀ reply, (next reply).advance state = (.ended (brings reply), state))
    (polls : Polls (.strand dialogue) state events reached after) :
    after = state ∧
      (events = [.put query] ∧ reached = .going (.waiting query next) ∨
        ∃ reply, events = [.put query, .heard ⟨query, reply⟩] ∧
          reached = .ended (brings reply)) := by
  cases polls with
  | strand goes =>
      rw [asks] at goes
      cases goes with
      | stays => exact ⟨rfl, .inl ⟨rfl, rfl⟩⟩
      | hears reply goes =>
          rw [ends] at goes
          cases goes
          exact ⟨rfl, .inr ⟨reply, rfl, rfl⟩⟩

/-- What is made of the answer is the result, whenever it comes. -/
theorem exists_reply_of_runs_waiting
    (ends : ∀ reply, (next reply).advance state = (.ended (brings reply), state))
    {result : Except ε α} (runs : Runs (.waiting query next) state events result after) :
    ∃ reply, Event.answers events = [⟨query, reply⟩] ∧ result = brings reply := by
  generalize waits : Braid.waiting query next = braid at runs
  induction runs with
  | ends polls =>
      subst waits
      obtain ⟨-, ⟨-, same⟩ | ⟨reply, rfl, same⟩⟩ := polls_waiting_once ends polls
      · cases same
      · cases same
        exact ⟨reply, rfl, rfl⟩
  | polled polls runs ih =>
      subst waits
      obtain ⟨rfl, ⟨rfl, same⟩ | ⟨reply, rfl, same⟩⟩ := polls_waiting_once ends polls
      · cases same
        exact ih ends rfl
      · cases same

theorem exists_reply_of_runs (asks : dialogue.advance state = (.asking query next, state))
    (ends : ∀ reply, (next reply).advance state = (.ended (brings reply), state))
    {result : Except ε α} (runs : Runs (.strand dialogue) state events result after) :
    ∃ reply, Event.answers events = [⟨query, reply⟩] ∧ result = brings reply := by
  cases runs with
  | ends polls =>
      obtain ⟨-, ⟨-, same⟩ | ⟨reply, rfl, same⟩⟩ := polls_strand_once asks ends polls
      · cases same
      · cases same
        exact ⟨reply, rfl, rfl⟩
  | polled polls runs =>
      obtain ⟨rfl, ⟨rfl, same⟩ | ⟨reply, rfl, same⟩⟩ := polls_strand_once asks ends polls
      · cases same
        obtain ⟨reply, heard, made⟩ := exists_reply_of_runs_waiting ends runs
        exact ⟨reply, heard, made⟩
      · cases same

end OneQuestion

end Braid

end LightningGateway
