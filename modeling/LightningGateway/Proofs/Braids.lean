import LightningGateway.Gateway.Request
import LightningGateway.Proofs.Courses

/-!
# Polls of braids

A poll tells of each question that is put, of each answer that has come, and of each question that
is dropped while it is on its way. Which answers are there in which poll is left open, so what
holds of all runs holds in whatever order the answers come, and however many of them come at once.
Whatever was put by the end of a run was heard or dropped. The strands in turn are one of the runs:
a single poll, in which every answer is there as soon as its question is put.
-/

namespace LightningGateway

/-- What happens in a poll. -/
inductive Event where
  | put (query : Query)
  /-- The answer to a question has come. -/
  | heard (answered : Answered)
  /-- A question is dropped while it is on its way. -/
  | dropped (query : Query)

namespace Event

def put? : Event → Option Query
  | put query => some query
  | _ => none

def heard? : Event → Option Answered
  | heard answered => some answered
  | _ => none

def dropped? : Event → Option Query
  | dropped query => some query
  | _ => none

variable {first second : List Event}

def puts (events : List Event) : List Query := events.filterMap put?

def answers (events : List Event) : List Answered := events.filterMap heard?

def drops (events : List Event) : List Query := events.filterMap dropped?

@[simp]
theorem puts_append : puts (first ++ second) = puts first ++ puts second :=
  List.filterMap_append

@[simp]
theorem answers_append : answers (first ++ second) = answers first ++ answers second :=
  List.filterMap_append

@[simp]
theorem drops_append : drops (first ++ second) = drops first ++ drops second :=
  List.filterMap_append

@[simp]
theorem puts_dropped (queries : List Query) : puts (queries.map dropped) = [] := by
  simp [puts, List.filterMap_map, Function.comp_def, put?]

@[simp]
theorem answers_dropped (queries : List Query) : answers (queries.map dropped) = [] := by
  simp [answers, List.filterMap_map, Function.comp_def, heard?]

@[simp]
theorem drops_dropped (queries : List Query) : drops (queries.map dropped) = queries := by
  simp [drops, List.filterMap_map, Function.comp_def, dropped?]

theorem mem_answers {events : List Event} {answered : Answered} :
    answered ∈ answers events ↔ heard answered ∈ events := by
  simp only [answers, List.mem_filterMap]
  constructor
  · rintro ⟨event, member, same⟩
    cases event with
    | heard other =>
        cases same
        exact member
    | put | dropped => cases same
  · exact fun member => ⟨_, member, rfl⟩

end Event

namespace Dialogue

variable {σ α ω : Type}

/-- A dialogue puts the question at which it stands. It stays there, or it goes on with the answer
if that is there at once. -/
inductive Halt.Goes : Halt σ α × σ → List Event → Halt σ α × σ → Prop where
  | ended (value : α) (state : σ) : Goes (.ended value, state) [] (.ended value, state)
  | stays (query : Query) (next : query.Reply → Dialogue σ α) (state : σ) :
      Goes (.asking query next, state) [.put query] (.asking query next, state)
  | hears {query : Query} {next : query.Reply → Dialogue σ α} {state : σ} {events : List Event}
      {after : Halt σ α × σ} (reply : query.Reply)
      (rest : Goes ((next reply).advance state) events after) :
      Goes (.asking query next, state) (.put query :: .heard ⟨query, reply⟩ :: events) after

/-- A dialogue that has every answer at once goes on to its end. -/
theorem exists_goes_at_once (answer : Surroundings ω) (dialogue : Dialogue σ α) (state : σ)
    (world : ω) :
    ∃ events,
      Halt.Goes (dialogue.advance state) events
        (.ended (dialogue.run answer state world).1, (dialogue.run answer state world).2.1) ∧
      ∀ answered ∈ Event.answers events, ∃ moment,
        answered.reply = (answer answered.query moment).1 := by
  induction dialogue generalizing state world with
  | done value => exact ⟨[], .ended value state, List.forall_mem_nil _⟩
  | read next ih => exact ih state state world
  | write changed next ih => exact ih changed world
  | ask query next ih =>
      obtain ⟨events, goes, answers⟩ :=
        ih (answer query world).1 state (answer query world).2
      exact ⟨_, .hears (answer query world).1 goes,
        List.forall_mem_cons.mpr ⟨⟨world, rfl⟩, answers⟩⟩

end Dialogue

namespace Braid

variable {σ ε ω : Type}

/-- The questions that a braid has on their way. -/
def inFlight {α : Type} : Braid σ ε α → List Query
  | strand _ => []
  | waiting query _ => [query]
  | both first second _ => first.inFlight ++ second.inFlight
  | andThen first _ => first.inFlight

/-- What comes after something else has nothing on its way before. -/
def Orderly {α : Type} : Braid σ ε α → Prop
  | strand _ | waiting _ _ => True
  | both first second _ => first.Orderly ∧ second.Orderly
  | andThen first next =>
      first.Orderly ∧ ∀ value, (next value).Orderly ∧ (next value).inFlight = []

/-- A braid that was not polled yet. -/
def Unasked {α : Type} (braid : Braid σ ε α) : Prop := braid.Orderly ∧ braid.inFlight = []

theorem unasked_all {α : Type} (dialogues : List (Dialogue σ (Except ε α))) :
    (all dialogues).Unasked := by
  induction dialogues with
  | nil => exact ⟨trivial, rfl⟩
  | cons first others ih => exact ⟨⟨trivial, ih.1⟩, ih.2⟩

/-- What a poll comes to. -/
inductive Reached (σ ε α : Type) : Type 1 where
  | ended (result : Except ε α)
  | going (braid : Braid σ ε α)

namespace Reached

variable {α β γ : Type}

def ofHalt : Dialogue.Halt σ (Except ε α) → Reached σ ε α
  | .ended result => ended result
  | .asking query next => going (.waiting query next)

def failure? : Reached σ ε α → Option ε
  | ended (.error error) => some error
  | ended (.ok _) | going _ => none

/-- What is polled the next time. -/
def rest : Reached σ ε α → Braid σ ε α
  | ended result => .strand (.done result)
  | going braid => braid

theorem eq_of_failure? {reached : Reached σ ε α} {error : ε}
    (failed : reached.failure? = some error) : reached = ended (.error error) := by
  cases reached with
  | going braid => cases failed
  | ended result =>
      cases result with
      | ok value => cases failed
      | error other =>
          cases failed
          rfl

/-- What two braids come to of which none has failed. -/
def both (combine : α → β → γ) : Reached σ ε α → Reached σ ε β → Reached σ ε γ
  | ended (.ok value), ended (.ok other) => ended (.ok (combine value other))
  | first, second => going (.both first.rest second.rest combine)

/-- Two braids of which none has failed go on together, or both have ended. -/
theorem both_cases (combine : α → β → γ) {first : Reached σ ε α} {second : Reached σ ε β}
    (unfailed : first.failure? = none) (alsoUnfailed : second.failure? = none) :
    both combine first second = going (.both first.rest second.rest combine) ∨
      ∃ value other, first = ended (.ok value) ∧ second = ended (.ok other) := by
  cases first with
  | going braid => exact .inl rfl
  | ended result =>
      cases result with
      | error error => cases unfailed
      | ok value =>
          cases second with
          | going braid => exact .inl rfl
          | ended result =>
              cases result with
              | error error => cases alsoUnfailed
              | ok other => exact .inr ⟨value, other, rfl, rfl⟩

theorem failure?_both (combine : α → β → γ) {first : Reached σ ε α} {second : Reached σ ε β}
    (unfailed : first.failure? = none) (alsoUnfailed : second.failure? = none) :
    (both combine first second).failure? = none := by
  rcases both_cases combine unfailed alsoUnfailed with going | ⟨value, other, rfl, rfl⟩
  · rw [going]
    rfl
  · rfl

end Reached

/-- A poll of a braid: the strands are polled in their order until one of them has failed. -/
inductive Polls : {α : Type} → Braid σ ε α → σ → List Event → Reached σ ε α → σ → Prop where
  | strand {α : Type} {dialogue : Dialogue σ (Except ε α)} {state after : σ}
      {events : List Event} {halt : Dialogue.Halt σ (Except ε α)}
      (goes : Dialogue.Halt.Goes (dialogue.advance state) events (halt, after)) :
      Polls (.strand dialogue) state events (.ofHalt halt) after
  | waits {α : Type} (query : Query) (next : query.Reply → Dialogue σ (Except ε α)) (state : σ) :
      Polls (.waiting query next) state [] (.going (.waiting query next)) state
  | hears {α : Type} {query : Query} {next : query.Reply → Dialogue σ (Except ε α)}
      {state after : σ} {events : List Event} {halt : Dialogue.Halt σ (Except ε α)}
      (reply : query.Reply)
      (goes : Dialogue.Halt.Goes ((next reply).advance state) events (halt, after)) :
      Polls (.waiting query next) state (.heard ⟨query, reply⟩ :: events) (.ofHalt halt) after
  | firstFails {α β γ : Type} {first : Braid σ ε α} {state after : σ} {events : List Event}
      {error : ε} (fails : Polls first state events (.ended (.error error)) after)
      (second : Braid σ ε β) (combine : α → β → γ) :
      Polls (.both first second combine) state (events ++ second.inFlight.map .dropped)
        (.ended (.error error)) after
  | secondFails {α β γ : Type} {first : Braid σ ε α} {second : Braid σ ε β}
      {state between after : σ} {early late : List Event} {reached : Reached σ ε α} {error : ε}
      (goes : Polls first state early reached between) (unfailed : reached.failure? = none)
      (fails : Polls second between late (.ended (.error error)) after) (combine : α → β → γ) :
      Polls (.both first second combine) state
        (early ++ late ++ reached.rest.inFlight.map .dropped) (.ended (.error error)) after
  | bothGo {α β γ : Type} {first : Braid σ ε α} {second : Braid σ ε β}
      {state between after : σ} {early late : List Event} {reached : Reached σ ε α}
      {other : Reached σ ε β} (goes : Polls first state early reached between)
      (unfailed : reached.failure? = none) (follows : Polls second between late other after)
      (alsoUnfailed : other.failure? = none) (combine : α → β → γ) :
      Polls (.both first second combine) state (early ++ late) (.both combine reached other) after
  | fails {α β : Type} {first : Braid σ ε α} {state after : σ} {events : List Event} {error : ε}
      (fails : Polls first state events (.ended (.error error)) after)
      (next : α → Braid σ ε β) :
      Polls (.andThen first next) state events (.ended (.error error)) after
  | goesOn {α β : Type} {first rest : Braid σ ε α} {state after : σ} {events : List Event}
      (goes : Polls first state events (.going rest) after) (next : α → Braid σ ε β) :
      Polls (.andThen first next) state events (.going (.andThen rest next)) after
  | continues {α β : Type} {first : Braid σ ε α} {next : α → Braid σ ε β}
      {state between after : σ} {early late : List Event} {value : α} {reached : Reached σ ε β}
      (ends : Polls first state early (.ended (.ok value)) between)
      (follows : Polls (next value) between late reached after) :
      Polls (.andThen first next) state (early ++ late) reached after

/-- Polls of a braid until it has ended. -/
inductive Runs {α : Type} : Braid σ ε α → σ → List Event → Except ε α → σ → Prop where
  | ends {braid : Braid σ ε α} {state after : σ} {events : List Event} {result : Except ε α}
      (polls : Polls braid state events (.ended result) after) :
      Runs braid state events result after
  | polled {braid rest : Braid σ ε α} {state between after : σ} {early late : List Event}
      {result : Except ε α} (polls : Polls braid state early (.going rest) between)
      (runs : Runs rest between late result after) :
      Runs braid state (early ++ late) result after

/-! ### What becomes of questions -/

section Questions

open Event (puts answers drops)

variable {α : Type} {braid : Braid σ ε α} {reached : Reached σ ε α} {state after : σ}
  {events : List Event} {result : Except ε α}

/-- The questions of a kind that are put, or were on their way before, are heard or dropped, or
are on their way in the end. -/
def Balanced (kind : Query → Bool) (before : List Query) (events : List Event)
    (after : List Query) : Prop :=
  (puts events).countP kind + before.countP kind =
    ((answers events).map Answered.query).countP kind + (drops events).countP kind +
      after.countP kind

variable {kind : Query → Bool} {before between later : List Query} {early late : List Event}

theorem balanced_nil (queries : List Query) : Balanced kind queries [] queries := rfl

theorem Balanced.append (first : Balanced kind before early between)
    (second : Balanced kind between late later) : Balanced kind before (early ++ late) later := by
  simp only [Balanced, Event.puts_append, Event.answers_append, Event.drops_append,
    List.map_append, List.countP_append] at first second ⊢
  omega

theorem Balanced.beside (balanced : Balanced kind before events later) (others : List Query) :
    Balanced kind (before ++ others) events (later ++ others) := by
  simp only [Balanced, List.countP_append] at balanced ⊢
  omega

theorem Balanced.behind (balanced : Balanced kind before events later) (others : List Query) :
    Balanced kind (others ++ before) events (others ++ later) := by
  simp only [Balanced, List.countP_append] at balanced ⊢
  omega

theorem balanced_dropped (queries : List Query) :
    Balanced kind queries (queries.map .dropped) [] := by
  simp [Balanced]

theorem balanced_put (query : Query) : Balanced kind [] [.put query] [query] := by
  simp [Balanced, puts, answers, drops, Event.put?, Event.heard?, Event.dropped?]

theorem balanced_heard (answered : Answered) :
    Balanced kind [answered.query] [.heard answered] [] := by
  simp [Balanced, puts, answers, drops, List.filterMap, Event.put?, Event.heard?,
    Event.dropped?]

theorem balanced_goes {before later : Dialogue.Halt σ (Except ε α) × σ}
    (goes : Dialogue.Halt.Goes before events later) :
    Balanced kind [] events (Reached.ofHalt later.1).rest.inFlight := by
  induction goes with
  | ended value state => exact balanced_nil []
  | stays query next state => exact balanced_put query
  | hears reply rest ih => exact (balanced_put _).append ((balanced_heard _).append ih)

theorem orderly_rest_ofHalt (halt : Dialogue.Halt σ (Except ε α)) :
    (Reached.ofHalt halt).rest.Orderly := by
  cases halt <;> trivial

/-- Nothing that was put is lost in a poll. -/
theorem Polls.balanced {α : Type} {braid : Braid σ ε α} {reached : Reached σ ε α}
    (polls : Polls braid state events reached after) (orderly : braid.Orderly) :
    Balanced kind braid.inFlight events reached.rest.inFlight ∧ reached.rest.Orderly := by
  induction polls with
  | strand goes => exact ⟨balanced_goes goes, orderly_rest_ofHalt _⟩
  | waits query next state => exact ⟨balanced_nil [query], trivial⟩
  | hears reply goes =>
      exact ⟨(balanced_heard _).append (balanced_goes goes), orderly_rest_ofHalt _⟩
  | firstFails fails second combine ih =>
      exact ⟨((ih orderly.1).1.beside _).append (balanced_dropped _), trivial⟩
  | secondFails goes unfailed fails combine ih follows =>
      have both := ((ih orderly.1).1.beside _).append ((follows orderly.2).1.behind _)
      rw [Reached.rest, inFlight, List.append_nil] at both
      exact ⟨both.append (balanced_dropped _), trivial⟩
  | bothGo goes unfailed follows alsoUnfailed combine ih later =>
      have early := ih orderly.1
      have late := later orderly.2
      have balanced := (early.1.beside _).append (late.1.behind _)
      rcases Reached.both_cases combine unfailed alsoUnfailed with going | ⟨value, other, rfl, rfl⟩
      · rw [going]
        exact ⟨balanced, early.2, late.2⟩
      · exact ⟨balanced, trivial⟩
  | fails fails next ih => exact ⟨(ih orderly.1).1, trivial⟩
  | goesOn goes next ih => exact ⟨(ih orderly.1).1, (ih orderly.1).2, orderly.2⟩
  | continues ends follows ih later =>
      obtain ⟨first, rest⟩ := orderly
      obtain ⟨starts, nothing⟩ := rest _
      have late := later starts
      rw [nothing] at late
      exact ⟨(ih first).1.append late.1, late.2⟩

theorem drops_goes {before later : Dialogue.Halt σ α × σ}
    (goes : Dialogue.Halt.Goes before events later) : drops events = [] := by
  induction goes with
  | ended | stays => rfl
  | hears reply rest ih => exact ih

/-- Questions are dropped only because a strand has failed. -/
theorem Polls.drops_eq_nil {α : Type} {braid : Braid σ ε α} {reached : Reached σ ε α}
    (polls : Polls braid state events reached after) (unfailed : reached.failure? = none) :
    drops events = [] := by
  induction polls with
  | strand goes => exact drops_goes goes
  | waits => rfl
  | hears reply goes =>
      have none := drops_goes goes
      exact none
  | firstFails | secondFails | fails => cases unfailed
  | bothGo goes first follows second combine ih later =>
      rw [Event.drops_append, ih first, later second, List.append_nil]
  | goesOn goes next ih => exact ih rfl
  | continues ends follows ih later =>
      rw [Event.drops_append, ih rfl, later unfailed, List.append_nil]

/-- A braid of one strand. -/
def Single {α : Type} : Braid σ ε α → Prop
  | strand _ | waiting _ _ => True
  | both _ _ _ | andThen _ _ => False

/-- One strand has no other one to drop. -/
theorem Polls.drops_of_single (polls : Polls braid state events reached after)
    (single : braid.Single) : drops events = [] ∧ reached.rest.Single := by
  have halted (halt : Dialogue.Halt σ (Except ε α)) : (Reached.ofHalt halt).rest.Single := by
    cases halt <;> trivial
  cases polls with
  | strand goes => exact ⟨drops_goes goes, halted _⟩
  | waits => exact ⟨rfl, trivial⟩
  | hears reply goes =>
      have none := drops_goes goes
      exact ⟨none, halted _⟩
  | firstFails | secondFails | bothGo | fails | goesOn | continues => cases single

theorem Runs.drops_of_single (runs : Runs braid state events result after)
    (single : braid.Single) : drops events = [] := by
  induction runs with
  | ends polls => exact (polls.drops_of_single single).1
  | polled polls runs ih =>
      obtain ⟨none, still⟩ := polls.drops_of_single single
      rw [Event.drops_append, none, ih still, List.append_nil]

/-- Whatever is put in a run is heard or dropped. -/
theorem Runs.balanced (runs : Runs braid state events result after) (orderly : braid.Orderly) :
    Balanced kind braid.inFlight events [] := by
  induction runs with
  | ends polls => exact (polls.balanced orderly).1
  | polled polls runs ih =>
      obtain ⟨balanced, rest⟩ := polls.balanced orderly
      exact balanced.append (ih rest)

theorem Runs.drops_eq_nil {value : α} (runs : Runs braid state events (.ok value) after) :
    drops events = [] := by
  generalize ended : (Except.ok value : Except ε α) = result at runs
  induction runs with
  | ends polls =>
      subst ended
      exact polls.drops_eq_nil rfl
  | polled polls runs ih =>
      rw [Event.drops_append, polls.drops_eq_nil rfl, ih ended, List.append_nil]

end Questions

/-! ### Strands in turn -/

section InTurn

variable {α β : Type} (answer : Surroundings ω)

theorem run_bind_of_error {first : ExceptT ε (Dialogue σ) α} {next : α → ExceptT ε (Dialogue σ) β}
    {state after : σ} {world later : ω} {error : ε}
    (fails : first.run.run answer state world = (.error error, after, later)) :
    (first >>= next).run.run answer state world = (.error error, after, later) := by
  change (first.run >>= ExceptT.bindCont next).run answer state world = _
  rw [Dialogue.run_bind, fails]
  rfl

theorem run_bind_of_ok {first : ExceptT ε (Dialogue σ) α} {next : α → ExceptT ε (Dialogue σ) β}
    {state after : σ} {world later : ω} {value : α}
    (ends : first.run.run answer state world = (.ok value, after, later)) :
    (first >>= next).run.run answer state world = (next value).run.run answer after later := by
  change (first.run >>= ExceptT.bindCont next).run answer state world = _
  rw [Dialogue.run_bind, ends]
  rfl

/-- The strands in turn are polled once, and hear every answer in that poll. -/
theorem exists_polls_inTurn {α : Type} (braid : Braid σ ε α) (state : σ) (world : ω) :
    ∃ events,
      Polls braid state events (.ended (braid.inTurn.run.run answer state world).1)
        (braid.inTurn.run.run answer state world).2.1 ∧
      ∀ answered ∈ Event.answers events, ∃ moment,
        answered.reply = (answer answered.query moment).1 := by
  induction braid generalizing state world with
  | strand dialogue =>
      obtain ⟨events, goes, answers⟩ := dialogue.exists_goes_at_once answer state world
      exact ⟨events, .strand goes, answers⟩
  | waiting query next =>
      obtain ⟨events, goes, answers⟩ := (next (answer query world).1).exists_goes_at_once answer
        state (answer query world).2
      exact ⟨_, .hears _ goes, List.forall_mem_cons.mpr ⟨⟨world, rfl⟩, answers⟩⟩
  | both first second combine ih later =>
      obtain ⟨early, polls, answers⟩ := ih state world
      rw [inTurn]
      rcases ran : first.inTurn.run.run answer state world with ⟨error | value, between, moment⟩
      · rw [run_bind_of_error answer ran]
        rw [ran] at polls
        refine ⟨_, .firstFails polls second combine, fun answered member => answers answered ?_⟩
        simpa using member
      · obtain ⟨late, follows, others⟩ := later between moment
        rw [run_bind_of_ok answer ran]
        rw [ran] at polls
        have told : ∀ answered ∈ Event.answers (early ++ late), ∃ moment,
            answered.reply = (answer answered.query moment).1 := by
          rw [Event.answers_append]
          exact List.forall_mem_append.mpr ⟨answers, others⟩
        rcases second_ran : second.inTurn.run.run answer between moment with ⟨error | other, last⟩
        · rw [run_bind_of_error answer second_ran]
          rw [second_ran] at follows
          refine ⟨_, .secondFails polls rfl follows combine, ?_⟩
          simpa using told
        · rw [run_bind_of_ok answer second_ran]
          rw [second_ran] at follows
          exact ⟨_, .bothGo polls rfl follows rfl combine, told⟩
  | andThen first next ih later =>
      obtain ⟨early, polls, answers⟩ := ih state world
      rw [inTurn]
      rcases ran : first.inTurn.run.run answer state world with ⟨error | value, between, moment⟩
      · rw [run_bind_of_error answer ran]
        rw [ran] at polls
        exact ⟨early, .fails polls next, answers⟩
      · obtain ⟨late, follows, others⟩ := later value between moment
        rw [run_bind_of_ok answer ran]
        rw [ran] at polls
        refine ⟨_, .continues polls follows, ?_⟩
        rw [Event.answers_append]
        exact List.forall_mem_append.mpr ⟨answers, others⟩

end InTurn

end Braid

/-! ### Requests -/

namespace Request

theorem inTurn_joined (request : Request) : Gateway.inTurn request.joined = request.perform := by
  cases request <;> rfl

theorem unasked_joined (settings : Settings) (request : Request) :
    (request.joined settings).Unasked := by
  have fetching (operation : Operation) :
      (Gateway.fetchingOnChain operation settings).Unasked := by
    refine ⟨⟨⟨⟨trivial, trivial⟩, fun _ => ⟨trivial, rfl⟩⟩, fun transactions => ?_⟩, rfl⟩
    unfold Gateway.datingByBlocks
    split
    · exact Braid.unasked_all _
    · exact ⟨trivial, rfl⟩
  cases request with
  | listAll successfulOnly page =>
      exact ⟨⟨⟨trivial, (fetching .listAll).1, trivial, trivial⟩, fun _ => ⟨trivial, rfl⟩⟩, rfl⟩
  | listOnChain =>
      exact ⟨⟨⟨(fetching .listOnChain).1, trivial⟩, fun _ => ⟨trivial, rfl⟩⟩, rfl⟩
  | listChannels =>
      exact ⟨⟨⟨trivial, fun funds => Braid.unasked_all _⟩, fun _ => ⟨trivial, rfl⟩⟩, rfl⟩
  | _ => exact ⟨trivial, rfl⟩

/-- A request for which every answer is there at once is served in one of the ways in which it
may be served. -/
theorem exists_runs_perform {ω : Type} (answer : Surroundings ω) (settings : Settings)
    (request : Request) (session : Session) (world : ω) :
    ∃ events,
      Braid.Runs (request.joined settings) session events
        (Gateway.outcome answer settings request.perform session world).1
        (Gateway.outcome answer settings request.perform session world).2.1 ∧
      ∀ answered ∈ Event.answers events, ∃ moment,
        answered.reply = (answer answered.query moment).1 := by
  obtain ⟨events, polls, answers⟩ :=
    Braid.exists_polls_inTurn answer (request.joined settings) session world
  have performed : (request.joined settings).inTurn.run = request.perform.toDialogue settings :=
    congrFun request.inTurn_joined settings
  rw [performed] at polls
  exact ⟨events, .ends polls, answers⟩

end Request

end LightningGateway
