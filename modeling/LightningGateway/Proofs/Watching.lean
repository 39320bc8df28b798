import Mathlib.Data.List.Infix
import Mathlib.Logic.Relation
import LightningGateway.Proofs.Courses
import LightningGateway.Subscription

/-!
# Subscriptions among others

While a subscription stands at a question, or nobody polls it, time passes: the daemon goes on,
and others use the session. A watch is a subscription with all that is around it. A step lets
time pass, polls the subscription for its next turn, or brings the answer to its question. What
every step preserves holds in the whole course of the subscription, in whatever order settlements,
calls, answers and polls come.
-/

namespace LightningGateway

/-! ### Turns that make a call -/

/-- What is made of the result of an operation may as well be made of it afterwards. -/
theorem Gateway.toDialogue_map_bind {α β γ : Type} (change : α → β) (operation : Gateway α)
    (settings : Settings) (next : Except Failure β → Dialogue Session γ) :
    (operation >>= fun value => pure (change value)).toDialogue settings >>= next =
      operation.toDialogue settings >>= fun result => next (result.map change) := by
  change (operation.toDialogue settings >>= ExceptT.bindCont fun value =>
    (pure (change value) : Gateway β) settings) >>= next = _
  rw [bind_assoc]
  congr
  funext result
  cases result <;> rfl

/-- A turn that makes a call and goes by its result. -/
theorem Gateway.advance_map_call {α β : Type} (brings : Except Failure α → β)
    (settings : Settings) (session : Session) (operation : Operation) (codec : Codec α)
    (method : String) (parameters : Json) :
    (brings <$> (call operation codec method parameters).toDialogue settings).advance session =
      match session.link.transport with
      | .ok handle =>
          (.asking (.call handle method parameters) fun reply =>
            .done (brings (classified operation (reading codec reply))), session)
      | .error failure => (.ended (brings (.error failure)), session) := by
  rw [Dialogue.advance_map, advance_call]
  cases session.link.transport <;> rfl

/-! ### Watches -/

/-- Sessions with a connection, and if faults are possible also sessions without one. -/
def Session.Usable (faults : Prop) (session : Session) : Prop :=
  faults ∨ ∃ handle, session.link.transport = .ok handle

theorem Session.Usable.faults_of_lost {faults : Prop} {session : Session} {failure : Failure}
    (usable : session.Usable faults) (lost : session.link.transport = .error failure) : faults := by
  rcases usable with faulty | ⟨handle, connected⟩
  · exact faulty
  · rw [lost] at connected
    cases connected

/-- What is around a subscription: which sessions it may find, how things may change as time
passes, and which answers may come as things are. -/
structure Milieu (ω : Type) where
  finds : Session → Prop
  changes : ω → ω → Prop
  answers : Answered → ω → Prop

/-- An open subscription, with what is around it and what has come of it so far. -/
structure Watch (α κ ω : Type) where
  /-- A question, or the end of the last turn. -/
  halt : Dialogue.Halt Session (Turn α × κ)
  session : Session
  world : ω
  /-- What was handed out. -/
  items : List α
  /-- The questions that were answered, and how things were then. -/
  heard : List (Answered × ω)

namespace Watch

variable {α β κ ω ε : Type}

/-- A subscription that was not polled yet. -/
def opened (stage : κ) (session : Session) (world : ω) : Watch α κ ω :=
  ⟨.ended (.quiet, stage), session, world, [], []⟩

/-- What is handed out when a turn ends. -/
def handed : Dialogue.Halt Session (Turn α × κ) → List α
  | .ended (.item value, _) => [value]
  | .ended (.quiet, _) | .ended (.ended, _) | .asking _ _ => []

/-- Goes on up to the next question or the end of the turn. -/
def resume (watch : Watch α κ ω) (dialogue : Dialogue Session (Turn α × κ)) : Watch α κ ω :=
  { watch with
    halt := (dialogue.advance watch.session).1
    session := (dialogue.advance watch.session).2
    items := watch.items ++ handed (dialogue.advance watch.session).1 }

/-- Takes note of an answer. -/
def hear (watch : Watch α κ ω) (answered : Answered) : Watch α κ ω :=
  { watch with heard := watch.heard ++ [(answered, watch.world)] }

variable (milieu : Milieu ω) (turn : κ → Dialogue Session (Turn α × κ))

/-- What may happen next. -/
inductive Step : Watch α κ ω → Watch α κ ω → Prop where
  | passes {watch : Watch α κ ω} {session : Session} {world : ω} (found : milieu.finds session)
      (changed : milieu.changes watch.world world) : Step watch { watch with session, world }
  | polled {watch : Watch α κ ω} {brought : Turn α} {stage : κ}
      (idle : watch.halt = .ended (brought, stage)) : Step watch (watch.resume (turn stage))
  | answered {watch : Watch α κ ω} {query : Query}
      {next : query.Reply → Dialogue Session (Turn α × κ)} {reply : query.Reply}
      (stands : watch.halt = .asking query next)
      (answer : milieu.answers ⟨query, reply⟩ watch.world) :
      Step watch ((watch.hear ⟨query, reply⟩).resume (next reply))

/-- What may happen in a number of steps. -/
abbrev Reaches : Watch α κ ω → Watch α κ ω → Prop := Relation.ReflTransGen (Step milieu turn)

variable {milieu turn}

/-- What every step preserves holds as long as a subscription is open. -/
theorem Reaches.preserves {first last : Watch α κ ω} (reached : Reaches milieu turn first last)
    (holds : Watch α κ ω → Prop) (initially : holds first)
    (step : ∀ before after, holds before → Step milieu turn before after → holds after) :
    holds last := by
  induction reached with
  | refl => exact initially
  | tail _ stepped ih => exact step _ _ ih stepped

/-- What holds at first, while time passes, after each poll and after each answer holds wherever a
subscription comes to. A turn leaves its session as usable as it was. -/
theorem Reaches.stands {first last : Watch α κ ω} {faults : Prop}
    (reached : Reaches milieu turn first last) (holds : Watch α κ ω → Prop)
    (finds : ∀ session, milieu.finds session → session.Usable faults)
    (initially : holds first) (usable : first.session.Usable faults)
    (passes : ∀ watch session world, holds watch → milieu.changes watch.world world →
      holds { watch with session, world })
    (polled : ∀ watch brought stage, holds watch → watch.session.Usable faults →
      watch.halt = .ended (brought, stage) →
        holds (watch.resume (turn stage)) ∧
          (watch.resume (turn stage)).session = watch.session)
    (answered : ∀ watch query (next : query.Reply → _) reply, holds watch →
      watch.session.Usable faults → watch.halt = .asking query next →
      milieu.answers ⟨query, reply⟩ watch.world →
        holds ((watch.hear ⟨query, reply⟩).resume (next reply)) ∧
          ((watch.hear ⟨query, reply⟩).resume (next reply)).session = watch.session) :
    holds last ∧ last.session.Usable faults := by
  refine reached.preserves (fun watch => holds watch ∧ watch.session.Usable faults)
    ⟨initially, usable⟩ ?_
  rintro before after ⟨stands, usable⟩ stepped
  cases stepped with
  | passes found changed => exact ⟨passes _ _ _ stands changed, finds _ found⟩
  | polled idle =>
      obtain ⟨stands, same⟩ := polled _ _ _ stands usable idle
      exact ⟨stands, same ▸ usable⟩
  | answered asks answer =>
      obtain ⟨stands, same⟩ := answered _ _ _ _ stands usable asks answer
      exact ⟨stands, same ▸ usable⟩

/-- What was heard is not forgotten. -/
theorem Reaches.heard_prefix {first last : Watch α κ ω} (reached : Reaches milieu turn first last) :
    first.heard <+: last.heard := by
  refine reached.preserves (fun watch => first.heard <+: watch.heard) List.prefix_rfl
    fun before after kept stepped => ?_
  cases stepped with
  | passes found changed => exact kept
  | polled idle => exact kept
  | answered stands answer => exact kept.trans (List.prefix_append _ _)

/-- A log that only grows has grown between the opening of a subscription and what it hears, and
since then. -/
theorem Reaches.log_grows {stage : κ} {session : Session} {world : ω} {watch : Watch α κ ω}
    (reached : Reaches milieu turn (opened stage session world) watch) (log : ω → List ε)
    (grows : ∀ before after, milieu.changes before after → log before <+: log after) :
    log world <+: log watch.world ∧
      ∀ look ∈ watch.heard, log world <+: log look.2 ∧ log look.2 <+: log watch.world := by
  refine reached.preserves (fun watch => log world <+: log watch.world ∧
      ∀ look ∈ watch.heard, log world <+: log look.2 ∧ log look.2 <+: log watch.world)
    ⟨List.prefix_rfl, fun look heard => nomatch heard⟩ ?_
  rintro before after ⟨since, looks⟩ stepped
  cases stepped with
  | passes found changed =>
      have grown := grows _ _ changed
      exact ⟨since.trans grown, fun look heard =>
        ⟨(looks look heard).1, (looks look heard).2.trans grown⟩⟩
  | polled idle => exact ⟨since, looks⟩
  | answered stands answer =>
      refine ⟨since, fun look heard => ?_⟩
      rcases List.mem_append.mp heard with earlier | now
      · exact looks look earlier
      · rw [List.mem_singleton.mp now]
        exact ⟨since, List.prefix_rfl⟩

theorem resume_of_advance {watch : Watch α κ ω} {dialogue : Dialogue Session (Turn α × κ)}
    {halt : Dialogue.Halt Session (Turn α × κ)} {session : Session}
    (advanced : dialogue.advance watch.session = (halt, session)) :
    watch.resume dialogue =
      { watch with halt, session, items := watch.items ++ handed halt } := by
  simp only [resume, advanced]

/-- A turn that stands at a question or brings nothing hands nothing out. -/
theorem resume_silently {watch : Watch α κ ω} {dialogue : Dialogue Session (Turn α × κ)}
    {halt : Dialogue.Halt Session (Turn α × κ)} {session : Session}
    (advanced : dialogue.advance watch.session = (halt, session)) (silent : handed halt = []) :
    watch.resume dialogue = { watch with halt, session } := by
  rw [resume_of_advance advanced, silent, List.append_nil]

theorem resume_item (watch : Watch α κ ω) (value : α) (stage : κ) :
    watch.resume (.done (.item value, stage)) =
      { watch with halt := .ended (.item value, stage), items := watch.items ++ [value] } :=
  rfl

theorem resume_quiet (watch : Watch α κ ω) (stage : κ) :
    watch.resume (.done (.quiet, stage)) = { watch with halt := .ended (.quiet, stage) } :=
  resume_silently rfl rfl

theorem resume_congr {watch : Watch α κ ω} {first second : Dialogue Session (Turn α × κ)}
    (same : first.advance watch.session = second.advance watch.session) :
    watch.resume first = watch.resume second := by
  simp only [resume, same]

/-! ### Logs -/

/-- A watch hands out the entries of a log that only grows: what follows the entries that were
known at its first look, up to some entry, and after that at most a failure. -/
structure Follows (log : ω → List ε) (view : ε → β) (watch : Watch (Except Failure β) κ ω)
    (known seen : List ε) (failure : Option Failure) : Prop where
  first : ∀ look ∈ watch.heard.head?, log look.2 = known
  begins : known <+: seen
  happened : seen <+: log watch.world
  items : watch.items =
    (seen.drop known.length).map (fun entry => .ok (view entry)) ++ failure.toList.map .error

namespace Follows

variable {log : ω → List ε} {view : ε → β} {watch : Watch (Except Failure β) κ ω}
  {known seen : List ε} {failure : Option Failure}

/-- Nothing was handed out yet, and nothing is known. -/
theorem opened (log : ω → List ε) (view : ε → β) (unheard : watch.heard = [])
    (empty : watch.items = []) : Follows log view watch [] [] none where
  first look heard := by simp [unheard] at heard
  begins := List.prefix_rfl
  happened := List.nil_prefix
  items := empty

/-- Time passes. -/
theorem passes (follows : Follows log view watch known seen failure) (session : Session)
    {world : ω} (grown : log watch.world <+: log world) :
    Follows log view { watch with session, world } known seen failure where
  first := follows.first
  begins := follows.begins
  happened := follows.happened.trans grown
  items := follows.items

/-- The watch goes on without handing anything out. -/
theorem goes_on (follows : Follows log view watch known seen failure)
    (halt : Dialogue.Halt Session (Turn (Except Failure β) × κ)) (session : Session) :
    Follows log view { watch with halt, session } known seen failure :=
  ⟨follows.first, follows.begins, follows.happened, follows.items⟩

/-- An answer that is not the first one. -/
theorem hear (follows : Follows log view watch known seen failure) (heard : watch.heard ≠ [])
    (answered : Answered) : Follows log view (watch.hear answered) known seen failure where
  first look found := by
    obtain ⟨earliest, others, listed⟩ := List.exists_cons_of_ne_nil heard
    exact follows.first look (by simpa [Watch.hear, listed] using found)
  begins := follows.begins
  happened := follows.happened
  items := follows.items

/-- The first answer. -/
theorem look (log : ω → List ε) (view : ε → β) (unheard : watch.heard = [])
    (empty : watch.items = []) (answered : Answered) :
    Follows log view (watch.hear answered) (log watch.world) (log watch.world) none where
  first look found := by
    rw [Watch.hear, unheard] at found
    cases found
    rfl
  begins := List.prefix_rfl
  happened := List.prefix_rfl
  items := by simp [Watch.hear, empty]

/-- The next entry is handed out. -/
theorem hand (follows : Follows log view watch known seen none) {entry : ε}
    (next : seen ++ [entry] <+: log watch.world)
    (halt : Dialogue.Halt Session (Turn (Except Failure β) × κ)) (session : Session) :
    Follows log view { watch with halt, session, items := watch.items ++ [.ok (view entry)] } known
      (seen ++ [entry]) none where
  first := follows.first
  begins := follows.begins.trans (List.prefix_append seen [entry])
  happened := next
  items := by
    rw [follows.items, List.drop_append_of_le_length follows.begins.length_le]
    simp

/-- A failure is handed out. -/
theorem fail (follows : Follows log view watch known seen none) (failure : Failure)
    (halt : Dialogue.Halt Session (Turn (Except Failure β) × κ)) (session : Session) :
    Follows log view { watch with halt, session, items := watch.items ++ [.error failure] } known
      seen (some failure) where
  first := follows.first
  begins := follows.begins
  happened := follows.happened
  items := by simp [follows.items]

/-- Without a failure, the items are the next entries of the log, as many as there are items. -/
theorem items_eq_take (follows : Follows log view watch known seen none) :
    watch.items.length ≤ ((log watch.world).drop known.length).length ∧
      watch.items = (((log watch.world).drop known.length).take watch.items.length).map
        fun entry => .ok (view entry) := by
  have part : seen.drop known.length <+: (log watch.world).drop known.length :=
    follows.happened.drop known.length
  have items : watch.items = (seen.drop known.length).map fun entry => .ok (view entry) := by
    simpa using follows.items
  have counted : watch.items.length = (seen.drop known.length).length := by
    rw [items, List.length_map]
  rw [counted, ← List.prefix_iff_eq_take.mp part]
  exact ⟨part.length_le, items⟩

end Follows

end Watch

end LightningGateway
