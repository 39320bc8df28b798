import LightningGateway.Gateway.Session
import LightningGateway.Proofs.Outcome

/-!
# Courses of dialogues

A dialogue may share its state with others, who may have worked on it each time it is read. A
course lists the questions that a dialogue asks on its way to a value, with the answers it gets.
What holds of all courses holds whatever the answers are and whatever the others do. The run of
a dialogue alone is one of its courses.
-/

namespace LightningGateway

/-- A question that was asked, with the answer to it. -/
structure Answered where
  query : Query
  reply : query.Reply

/-- The same surroundings, which also write down what they are asked and what they answer. -/
def Surroundings.recording {ω : Type} (answer : Surroundings ω) :
    Surroundings (ω × List Answered) :=
  fun query (world, said) =>
    ((answer query world).1, (answer query world).2,
      said ++ [⟨query, (answer query world).1⟩])

namespace Dialogue

variable {σ τ α β κ ω : Type}

/-- A dialogue may go through some questions and answers to a value. -/
inductive Goes : Dialogue σ α → List Answered → α → Prop where
  | done (value : α) : Goes (.done value) [] value
  /-- Any state may be found. -/
  | read {next : σ → Dialogue σ α} {said : List Answered} {value : α} (state : σ)
      (rest : Goes (next state) said value) : Goes (.read next) said value
  | write {next : Dialogue σ α} {said : List Answered} {value : α} (state : σ)
      (rest : Goes next said value) : Goes (.write state next) said value
  | ask {query : Query} {next : query.Reply → Dialogue σ α} {said : List Answered} {value : α}
      (reply : query.Reply) (rest : Goes (next reply) said value) :
      Goes (.ask query next) (⟨query, reply⟩ :: said) value

/-- A dialogue asks nothing but questions of a kind. -/
def AsksOnly (kind : Query → Prop) (dialogue : Dialogue σ α) : Prop :=
  ∀ said value, dialogue.Goes said value → ∀ answered ∈ said, kind answered.query

/-! ### How dialogues go -/

@[simp]
theorem goes_pure {said : List Answered} {value result : α} :
    (pure value : Dialogue σ α).Goes said result ↔ said = [] ∧ result = value := by
  constructor
  · intro goes
    cases goes
    exact ⟨rfl, rfl⟩
  · rintro ⟨rfl, rfl⟩
    exact .done result

@[simp]
theorem goes_query {query : Query} {said : List Answered} {reply : query.Reply} :
    (Dialogue.query query : Dialogue σ query.Reply).Goes said reply ↔
      said = [⟨query, reply⟩] := by
  constructor
  · intro goes
    cases goes with
    | ask reply rest =>
        cases rest
        rfl
  · rintro rfl
    exact .ask reply (.done reply)

@[simp]
theorem goes_modifyGet {change : σ → α × σ} {said : List Answered} {value : α} :
    (modifyGet change : Dialogue σ α).Goes said value ↔
      said = [] ∧ ∃ state, value = (change state).1 := by
  constructor
  · intro goes
    cases goes with
    | read state rest =>
        cases rest with
        | write _ rest =>
            cases rest
            exact ⟨rfl, state, rfl⟩
  · rintro ⟨rfl, state, rfl⟩
    exact .read state (.write _ (.done _))

@[simp]
theorem goes_get {said : List Answered} {value : σ} :
    (get : Dialogue σ σ).Goes said value ↔ said = [] := by
  constructor
  · intro goes
    cases goes with
    | read state rest =>
        cases rest
        rfl
  · rintro rfl
    exact .read value (.done value)

theorem goes_bind {dialogue : Dialogue σ α} {next : α → Dialogue σ β} {said : List Answered}
    {result : β} :
    (dialogue >>= next).Goes said result ↔
      ∃ first second value, said = first ++ second ∧ dialogue.Goes first value ∧
        (next value).Goes second result := by
  change (dialogue.bind next).Goes said result ↔ _
  constructor
  · intro goes
    induction dialogue generalizing said with
    | done value => exact ⟨[], said, value, rfl, .done value, goes⟩
    | read more ih =>
        cases goes with
        | read state rest =>
            obtain ⟨first, second, value, rfl, begins, continues⟩ := ih state rest
            exact ⟨first, second, value, rfl, .read state begins, continues⟩
    | write state more ih =>
        cases goes with
        | write _ rest =>
            obtain ⟨first, second, value, rfl, begins, continues⟩ := ih rest
            exact ⟨first, second, value, rfl, .write state begins, continues⟩
    | ask query more ih =>
        cases goes with
        | ask reply rest =>
            obtain ⟨first, second, value, rfl, begins, continues⟩ := ih reply rest
            exact ⟨⟨query, reply⟩ :: first, second, value, rfl, .ask reply begins, continues⟩
  · rintro ⟨first, second, value, rfl, begins, continues⟩
    induction begins with
    | done value => exact continues
    | read state _ ih => exact .read state (ih continues)
    | write state _ ih => exact .write state (ih continues)
    | ask reply _ ih => exact .ask reply (ih continues)

/-- What a dialogue on a part may say does not depend on the whole. -/
theorem Goes.of_focus {part : σ → τ} {replace : τ → σ → σ} {dialogue : Dialogue τ α}
    {said : List Answered} {value : α} (goes : (dialogue.focus part replace).Goes said value) :
    dialogue.Goes said value := by
  induction dialogue generalizing said with
  | done value =>
      cases goes
      exact .done value
  | read next ih =>
      cases goes with
      | read state rest => exact .read (part state) (ih (part state) rest)
  | write inner next ih =>
      cases goes with
      | read state rest =>
          cases rest with
          | write _ rest => exact .write inner (ih rest)
  | ask query next ih =>
      cases goes with
      | ask reply rest => exact .ask reply (ih reply rest)

/-- A dialogue that runs alone goes through the questions that are noted. -/
theorem exists_goes_run (answer : Surroundings ω) (dialogue : Dialogue σ α) (state : σ)
    (world : ω) (asked : List Query) :
    ∃ said, dialogue.Goes said (dialogue.run answer.noting state (world, asked)).1 ∧
      (dialogue.run answer.noting state (world, asked)).2.2.2 =
        asked ++ said.map Answered.query := by
  induction dialogue generalizing state world asked with
  | done value => exact ⟨[], .done value, (List.append_nil asked).symm⟩
  | read next ih =>
      obtain ⟨said, goes, noted⟩ := ih state state world asked
      exact ⟨said, .read state goes, noted⟩
  | write changed next ih =>
      obtain ⟨said, goes, noted⟩ := ih changed world asked
      exact ⟨said, .write changed goes, noted⟩
  | ask query next ih =>
      obtain ⟨said, goes, noted⟩ :=
        ih (answer query world).1 state (answer query world).2 (asked ++ [query])
      refine ⟨⟨query, (answer query world).1⟩ :: said, .ask _ goes, ?_⟩
      rw [List.map_cons, List.append_cons]
      exact noted

/-! ### Kinds of questions -/

variable {kind : Query → Prop}

theorem asksOnly_pure (value : α) : (pure value : Dialogue σ α).AsksOnly kind := by
  intro said result goes answered member
  rw [(goes_pure.mp goes).1] at member
  cases member

theorem asksOnly_query {query : Query} (allowed : kind query) :
    (Dialogue.query query : Dialogue σ query.Reply).AsksOnly kind := by
  intro said reply goes answered member
  rw [goes_query.mp goes, List.mem_singleton] at member
  rw [member]
  exact allowed

theorem asksOnly_get : (get : Dialogue σ σ).AsksOnly kind := by
  intro said value goes answered member
  rw [goes_get.mp goes] at member
  cases member

theorem asksOnly_modifyGet (change : σ → α × σ) :
    (modifyGet change : Dialogue σ α).AsksOnly kind := by
  intro said value goes answered member
  rw [(goes_modifyGet.mp goes).1] at member
  cases member

theorem AsksOnly.bind {dialogue : Dialogue σ α} {next : α → Dialogue σ β}
    (first : dialogue.AsksOnly kind) (rest : ∀ value, (next value).AsksOnly kind) :
    (dialogue >>= next).AsksOnly kind := by
  intro said result goes answered member
  obtain ⟨before, after, value, rfl, begins, continues⟩ := goes_bind.mp goes
  rcases List.mem_append.mp member with early | late
  · exact first before value begins answered early
  · exact rest value after result continues answered late

/-- A dialogue that asks nothing but questions of a kind begins with one and goes on so. -/
theorem AsksOnly.of_ask {query : Query} {next : query.Reply → Dialogue σ α}
    (asks : (Dialogue.ask query next).AsksOnly kind) (state : σ) :
    kind query ∧ ∀ reply, (next reply).AsksOnly kind := by
  -- The question counts only if the dialogue goes on to an end after some answer.
  let replies : Replies := .answering (.ok 0) (fun _ => .ok .null) fun _ => .ok ""
  obtain ⟨said, goes, -⟩ :=
    exists_goes_run replies.surroundings (next (replies query)) state () []
  exact ⟨asks _ _ (.ask _ goes) _ List.mem_cons_self, fun reply said value goes answered member =>
    asks _ _ (.ask reply goes) answered (List.mem_cons_of_mem _ member)⟩

theorem AsksOnly.focus {dialogue : Dialogue τ α} (asks : dialogue.AsksOnly kind)
    (part : σ → τ) (replace : τ → σ → σ) : (dialogue.focus part replace).AsksOnly kind :=
  fun said value goes => asks said value goes.of_focus

end Dialogue

section Lookups

open Dialogue (AsksOnly asksOnly_pure asksOnly_query asksOnly_modifyGet)

variable {σ κ ν ε α : Type} {kind : Query → Prop}

theorem Cache.asksOnly_remember [DecidableEq κ] {key : κ}
    {fetch : Dialogue (Cache κ ν) (Except ε ν)} (asks : fetch.AsksOnly kind) :
    (Cache.remember key fetch).AsksOnly kind := by
  refine (asksOnly_modifyGet _).bind fun found => ?_
  cases found with
  | some value => exact asksOnly_pure _
  | none =>
      refine asks.bind fun fetched => ?_
      cases fetched with
      | error error => exact asksOnly_pure _
      | ok value => exact (asksOnly_modifyGet _).bind fun _ => asksOnly_pure _

theorem Chain.asksOnly_call (codec : Codec α) {method : String} {parameter : Json}
    (allowed : kind (.chainCall method (.array [parameter]))) :
    (Chain.call codec method parameter : Dialogue σ _).AsksOnly kind := by
  refine (asksOnly_query allowed).bind fun reply => ?_
  cases reply with
  | error error => exact asksOnly_pure _
  | ok value =>
      dsimp only
      cases codec.decode value <;> exact asksOnly_pure _

theorem Chain.asksOnly_blockTime
    (allowed : ∀ method parameters, kind (.chainCall method parameters)) (height : UInt32) :
    (Chain.blockTime height).AsksOnly kind := by
  refine Cache.asksOnly_remember ((Chain.asksOnly_call _ (allowed _ _)).bind fun found => ?_)
  cases found with
  | error error => exact asksOnly_pure _
  | ok hash => exact Chain.asksOnly_call _ (allowed _ _)

end Lookups

/-! ### Operations of the gateway -/

theorem Link.eq_notReady_of_transport (link : Link) {failure : Failure}
    (failed : link.transport = .error failure) : failure = notReady := by
  obtain ⟨phase, handle⟩ := link
  cases phase <;> cases handle <;> cases failed <;> rfl

namespace Gateway

variable {α β : Type} {settings : Settings} {said : List Answered}

/-- An operation may go through some questions and answers to a result. -/
def Goes (settings : Settings) (operation : Gateway α) (said : List Answered)
    (result : Except Failure α) : Prop :=
  (operation.toDialogue settings).Goes said result

theorem goes_pure {value : α} {result : Except Failure α} :
    Goes settings (pure value) said result ↔ said = [] ∧ result = .ok value :=
  Dialogue.goes_pure

theorem goes_throw {failure : Failure} {result : Except Failure α} :
    Goes settings (throw failure) said result ↔ said = [] ∧ result = .error failure :=
  Dialogue.goes_pure

/-- An operation that has failed goes no further. -/
theorem goes_bind {operation : Gateway α} {next : α → Gateway β} {result : Except Failure β} :
    Goes settings (operation >>= next) said result ↔
      (∃ failure, Goes settings operation said (.error failure) ∧ result = .error failure) ∨
      ∃ first second value, said = first ++ second ∧
        Goes settings operation first (.ok value) ∧ Goes settings (next value) second result := by
  change Dialogue.Goes
    (operation.toDialogue settings >>= ExceptT.bindCont fun value => next value settings)
    said result ↔ _
  rw [Dialogue.goes_bind]
  constructor
  · rintro ⟨first, second, value, rfl, begins, continues⟩
    cases value with
    | error failure =>
        obtain ⟨rfl, rfl⟩ := Dialogue.goes_pure.mp continues
        rw [List.append_nil]
        exact Or.inl ⟨failure, begins, rfl⟩
    | ok value => exact Or.inr ⟨first, second, value, rfl, begins, continues⟩
  · rintro (⟨failure, begins, rfl⟩ | ⟨first, second, value, rfl, begins, continues⟩)
    · exact ⟨said, [], _, (List.append_nil said).symm, begins, .done _⟩
    · exact ⟨first, second, _, rfl, begins, continues⟩

theorem goes_lift {dialogue : Dialogue Session α} {result : Except Failure α} :
    Goes settings (lift dialogue) said result ↔
      ∃ value, dialogue.Goes said value ∧ result = .ok value := by
  change (dialogue >>= fun value => pure (.ok value)).Goes said result ↔ _
  rw [Dialogue.goes_bind]
  constructor
  · rintro ⟨first, second, value, rfl, begins, continues⟩
    obtain ⟨rfl, rfl⟩ := Dialogue.goes_pure.mp continues
    rw [List.append_nil]
    exact ⟨value, begins, rfl⟩
  · rintro ⟨value, goes, rfl⟩
    exact ⟨said, [], value, (List.append_nil said).symm, goes, .done _⟩

theorem goes_ask {query : Query} {result : Except Failure query.Reply} :
    Goes settings (ask query) said result ↔
      ∃ reply, said = [⟨query, reply⟩] ∧ result = .ok reply := by
  simp only [ask, goes_lift, Dialogue.goes_query]

theorem goes_ask_bind {query : Query} {next : query.Reply → Gateway α} {result : Except Failure α} :
    Goes settings (ask query >>= next) said result ↔
      ∃ reply later, said = ⟨query, reply⟩ :: later ∧ Goes settings (next reply) later result := by
  rw [goes_bind]
  constructor
  · rintro (⟨failure, asked, -⟩ | ⟨first, later, reply, rfl, asked, goes⟩)
    · obtain ⟨_, -, never⟩ := goes_ask.mp asked
      cases never
    · obtain ⟨_, rfl, same⟩ := goes_ask.mp asked
      cases same
      exact ⟨reply, later, rfl, goes⟩
  · rintro ⟨reply, later, rfl, goes⟩
    exact Or.inr ⟨[_], later, reply, rfl, goes_ask.mpr ⟨reply, rfl, rfl⟩, goes⟩

theorem goes_orClassify {operation : Operation} {found : Except TransportError α}
    {result : Except Failure α} :
    Goes settings (orClassify operation found) said result ↔
      said = [] ∧ result = classified operation found := by
  cases found with
  | error error => exact goes_throw
  | ok value => exact goes_pure

theorem goes_handle {result : Except Failure Handle} :
    Goes settings handle said result ↔ said = [] ∧ ∃ link : Link, result = link.transport := by
  have goes_get {said : List Answered} {result : Except Failure Session} :
      Goes settings get said result ↔ said = [] ∧ ∃ session, result = .ok session := by
    change Goes settings (lift get) said result ↔ _
    simp only [goes_lift, Dialogue.goes_get, exists_and_left]
  rw [handle, goes_bind]
  constructor
  · rintro (⟨failure, begins, rfl⟩ | ⟨first, second, session, rfl, begins, continues⟩)
    · obtain ⟨-, session, failed⟩ := goes_get.mp begins
      cases failed
    · obtain ⟨rfl, -⟩ := goes_get.mp begins
      cases connected : session.link.transport with
      | error failure =>
          rw [connected] at continues
          obtain ⟨rfl, rfl⟩ := goes_throw.mp continues
          exact ⟨rfl, session.link, connected.symm⟩
      | ok handle =>
          rw [connected] at continues
          obtain ⟨rfl, rfl⟩ := goes_pure.mp continues
          exact ⟨rfl, session.link, connected.symm⟩
  · rintro ⟨rfl, link, rfl⟩
    refine Or.inr ⟨[], [], { Session.fresh 1 1 with link }, rfl, goes_get.mpr ⟨rfl, _, rfl⟩, ?_⟩
    cases link.transport with
    | error failure => exact goes_throw.mpr ⟨rfl, rfl⟩
    | ok handle => exact goes_pure.mpr ⟨rfl, rfl⟩

theorem call_eq (operation : Operation) (codec : Codec α) (method : String)
    (parameters : Json) :
    call operation codec method parameters =
      handle >>= fun handle => ask (.call handle method parameters) >>= fun reply =>
        orClassify operation (reading codec reply) := by
  have read (reply : Except TransportError Json) :
      (do
        let value ← orClassify operation reply
        orClassify operation ((codec.decode value).mapError .ofDecodeError)) =
      orClassify operation (reading codec reply) := by
    cases reply <;> rfl
  simp only [call, read]

/-- A call is made over a connection, or it fails before anything is asked. -/
theorem goes_call {operation : Operation} {codec : Codec α} {method : String}
    {parameters : Json} {result : Except Failure α} :
    Goes settings (call operation codec method parameters) said result ↔
      said = [] ∧ result = .error Link.notReady ∨
      ∃ handle reply, said = [⟨.call handle method parameters, reply⟩] ∧
        result = classified operation (reading codec reply) := by
  rw [call_eq, goes_bind]
  constructor
  · rintro (⟨failure, begins, rfl⟩ | ⟨first, second, handle, rfl, begins, continues⟩)
    · obtain ⟨rfl, link, failed⟩ := goes_handle.mp begins
      exact Or.inl ⟨rfl, congrArg _ (link.eq_notReady_of_transport failed.symm)⟩
    · obtain ⟨rfl, -⟩ := goes_handle.mp begins
      rcases goes_bind.mp continues with ⟨failure, asked, -⟩ | ⟨_, _, reply, rfl, asked, rest⟩
      · obtain ⟨_, -, never⟩ := goes_ask.mp asked
        cases never
      · obtain ⟨_, rfl, same⟩ := goes_ask.mp asked
        cases same
        obtain ⟨rfl, rfl⟩ := goes_orClassify.mp rest
        exact Or.inr ⟨handle, reply, rfl, rfl⟩
  · rintro (⟨rfl, rfl⟩ | ⟨handle, reply, rfl, rfl⟩)
    · exact Or.inl ⟨_, goes_handle.mpr ⟨rfl, .fresh, rfl⟩, rfl⟩
    · refine Or.inr ⟨[], _, handle, rfl, goes_handle.mpr ⟨rfl, .establish handle, rfl⟩, ?_⟩
      exact goes_bind.mpr (Or.inr
        ⟨_, [], reply, rfl, goes_ask.mpr ⟨reply, rfl, rfl⟩, goes_orClassify.mpr ⟨rfl, rfl⟩⟩)

theorem decoding_eq {σ : Type} (operation : Operation) (request : String) :
    (decoding operation request : Dialogue σ _) =
      .ask (.command ["decodepay", request]) fun reply =>
        .done (classified operation (reply.bind Daemon.DecodedRequest.parse)) := by
  refine congrArg (Dialogue.ask _) (funext fun reply => ?_)
  cases reply <;> rfl

/-- A call stands at its question, or it has failed without a connection. -/
theorem advance_call (settings : Settings) (session : Session)
    (operation : Operation) (codec : Codec α) (method : String) (parameters : Json) :
    ((call operation codec method parameters).toDialogue settings).advance session =
      match session.link.transport with
      | .ok handle =>
          (.asking (.call handle method parameters) fun reply =>
            .done (classified operation (reading codec reply)), session)
      | .error failure => (.ended (.error failure), session) := by
  have classify (reply : Except TransportError Json) :
      (orClassify operation (reading codec reply)).toDialogue settings =
        .done (classified operation (reading codec reply)) := by
    cases reading codec reply <;> rfl
  simp only [call_eq]
  obtain ⟨⟨phase, held⟩, requests, blocks⟩ := session
  cases phase with
  | ready =>
      cases held with
      | none => rfl
      | some handle =>
          change (Dialogue.Halt.asking (.call handle method parameters) fun reply =>
            (orClassify operation (reading codec reply)).toDialogue settings, _) = _
          simp only [classify]
          rfl
  | _ => rfl

/-- An operation that begins with a call fails with it, or goes on with what it says. -/
theorem goes_call_bind {operation : Operation} {codec : Codec α} {method : String}
    {parameters : Json} {next : α → Gateway β} {result : Except Failure β} :
    Goes settings (call operation codec method parameters >>= next) said result ↔
      said = [] ∧ result = .error Link.notReady ∨
      ∃ handle reply later, said = ⟨.call handle method parameters, reply⟩ :: later ∧
        match reading codec reply with
        | .error error => later = [] ∧ result = .error (.ofError operation error)
        | .ok value => Goes settings (next value) later result := by
  rw [goes_bind]
  constructor
  · rintro (⟨failure, called, rfl⟩ | ⟨first, later, value, rfl, called, goes⟩)
    · rcases goes_call.mp called with ⟨rfl, same⟩ | ⟨handle, reply, rfl, same⟩
      · cases same
        exact Or.inl ⟨rfl, rfl⟩
      · refine Or.inr ⟨handle, reply, [], rfl, ?_⟩
        cases read : reading codec reply with
        | error error =>
            rw [read] at same
            cases same
            exact ⟨rfl, rfl⟩
        | ok value =>
            rw [read] at same
            cases same
    · rcases goes_call.mp called with ⟨-, same⟩ | ⟨handle, reply, rfl, same⟩
      · cases same
      · refine Or.inr ⟨handle, reply, later, rfl, ?_⟩
        cases read : reading codec reply with
        | error error =>
            rw [read] at same
            cases same
        | ok told =>
            rw [read] at same
            cases same
            exact goes
  · rintro (⟨rfl, rfl⟩ | ⟨handle, reply, later, rfl, goes⟩)
    · exact Or.inl ⟨_, goes_call.mpr (Or.inl ⟨rfl, rfl⟩), rfl⟩
    · have called : Goes settings (call operation codec method parameters)
          [⟨.call handle method parameters, reply⟩] (classified operation (reading codec reply)) :=
        goes_call.mpr (Or.inr ⟨handle, reply, rfl, rfl⟩)
      cases read : reading codec reply with
      | error error =>
          rw [read] at goes called
          obtain ⟨rfl, rfl⟩ := goes
          exact Or.inl ⟨_, called, rfl⟩
      | ok value =>
          rw [read] at goes called
          exact Or.inr ⟨_, later, value, rfl, called, goes⟩

/-- After its call was answered an operation goes on with what the answer says. -/
theorem goes_call_bind_of_reading {operation : Operation} {codec : Codec α} {method : String}
    {parameters : Json} {next : α → Gateway β} {handle : Handle}
    {reply : Except TransportError Json} {value : α} {result : Except Failure β}
    (read : reading codec reply = .ok value) :
    Goes settings (call operation codec method parameters >>= next)
        (⟨.call handle method parameters, reply⟩ :: said) result ↔
      Goes settings (next value) said result := by
  constructor
  · intro goes
    rcases goes_call_bind.mp goes with ⟨nothing, -⟩ | ⟨_, _, _, same, rest⟩
    · cases nothing
    · cases same
      rwa [read] at rest
  · intro goes
    refine goes_call_bind.mpr (Or.inr ⟨handle, reply, said, rfl, ?_⟩)
    rwa [read]

/-! ### Kinds of questions of operations -/

/-- An operation asks nothing but questions of a kind. -/
def AsksOnly (kind : Query → Prop) (operation : Gateway α) : Prop :=
  ∀ settings, (operation.toDialogue settings).AsksOnly kind

variable {kind : Query → Prop}

theorem asksOnly_pure (value : α) : AsksOnly kind (pure value : Gateway α) :=
  fun _ => Dialogue.asksOnly_pure _

theorem asksOnly_read : AsksOnly kind (read : Gateway Settings) :=
  fun _ => Dialogue.asksOnly_pure _

theorem asksOnly_throw (failure : Failure) : AsksOnly kind (throw failure : Gateway α) :=
  fun _ => Dialogue.asksOnly_pure _

theorem asksOnly_orClassify (operation : Operation) (found : Except TransportError α) :
    AsksOnly kind (orClassify operation found) := by
  cases found with
  | error error => exact asksOnly_throw _
  | ok value => exact asksOnly_pure value

theorem AsksOnly.bind {operation : Gateway α} {next : α → Gateway β}
    (first : AsksOnly kind operation) (rest : ∀ value, AsksOnly kind (next value)) :
    AsksOnly kind (operation >>= next) := by
  intro settings said result goes answered member
  rcases goes_bind.mp goes with ⟨failure, begins, -⟩ | ⟨before, after, value, rfl, begins, later⟩
  · exact first settings said _ begins answered member
  · rcases List.mem_append.mp member with early | late
    · exact first settings before _ begins answered early
    · exact rest value settings after _ later answered late

theorem AsksOnly.map {operation : Gateway α} (asks : AsksOnly kind operation)
    (change : α → β) : AsksOnly kind (change <$> operation) := by
  rw [map_eq_pure_bind]
  exact asks.bind fun value => asksOnly_pure (change value)

theorem AsksOnly.mapM {operation : α → Gateway β}
    (asks : ∀ value, AsksOnly kind (operation value)) (values : List α) :
    AsksOnly kind (values.mapM operation) := by
  induction values with
  | nil => exact asksOnly_pure []
  | cons value rest ih =>
      rw [List.mapM_cons]
      exact (asks value).bind fun _ => ih.bind fun _ => asksOnly_pure _

theorem asksOnly_lift {dialogue : Dialogue Session α} (asks : dialogue.AsksOnly kind) :
    AsksOnly kind (lift dialogue) := by
  intro settings said result goes
  obtain ⟨value, spoken, -⟩ := goes_lift.mp goes
  exact asks said value spoken

theorem asksOnly_ask {query : Query} (allowed : kind query) : AsksOnly kind (ask query) :=
  asksOnly_lift (Dialogue.asksOnly_query allowed)

theorem AsksOnly.attempt {operation : Gateway α} (asks : AsksOnly kind operation) :
    AsksOnly kind (attempt operation) :=
  fun settings => asksOnly_lift (asks settings) settings

theorem asksOnly_call {operation : Operation} {codec : Codec α} {method : String}
    {parameters : Json} (allowed : ∀ handle, kind (.call handle method parameters)) :
    AsksOnly kind (call operation codec method parameters) := by
  intro settings said result goes answered member
  rcases goes_call.mp goes with ⟨rfl, -⟩ | ⟨handle, reply, rfl, -⟩
  · cases member
  · rw [List.mem_singleton.mp member]
    exact allowed handle

theorem asksOnly_command {operation : Operation} {arguments : List String}
    (allowed : kind (.command arguments)) : AsksOnly kind (command operation arguments) :=
  (asksOnly_ask allowed).bind (asksOnly_orClassify operation)

end Gateway

end LightningGateway
