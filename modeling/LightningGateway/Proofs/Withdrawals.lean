import LightningGateway.Proofs.Balances
import LightningGateway.Proofs.Changes
import LightningGateway.Proofs.Spellings

/-!
# Withdrawals

Coins are sent with one call of the daemon, after it has told the funds. Either something stands in
the way, and then nothing is called or published, or the daemon is asked for exactly the amount
that was asked for, or for all. What has been sent is published, and nothing else.
-/

namespace LightningGateway

open Daemon (Funds Output Withdrawal)

namespace Query

/-- The parameters of a call that sends coins. -/
def withdrawal? : Query → Option Json
  | call _ method parameters => if method = "withdraw" then some parameters else none
  | _ => none

def published? : Query → Option NodeEvent
  | publish event => some event
  | _ => none

end Query

/-- The calls that send coins among what was said, by their parameters. -/
def withdrawals (said : List Answered) : List Json :=
  said.filterMap fun answered => answered.query.withdrawal?

/-- The events among what was said. -/
def published (said : List Answered) : List NodeEvent :=
  said.filterMap fun answered => answered.query.published?

namespace SendCoinsInput

/-- The wallet has no outputs, or they are worth no more than the amount. -/
def Short (input : SendCoinsInput) (funds : Funds) : Prop :=
  funds.outputs = [] ∨
    input.sendAll = false ∧ Amount.sum Output.amount funds.outputs ≤ input.amount.toNat

/-- The amount is not one of whole satoshis. -/
def Fractional (input : SendCoinsInput) : Prop :=
  input.sendAll = false ∧ ¬ Amount.msatPerSat ∣ input.amount.toNat

instance (input : SendCoinsInput) (funds : Funds) : Decidable (input.Short funds) :=
  inferInstanceAs (Decidable (_ ∨ _))

instance (input : SendCoinsInput) : Decidable input.Fractional :=
  inferInstanceAs (Decidable (_ ∧ _))

/-- What stands in the way of sending coins, as the kind of the failure. -/
def obstacle? (input : SendCoinsInput) (funds : Funds) : Option FailureKind :=
  if input.Short funds then some .preconditionFailed
  else if input.Fractional then some .invalidArgument
  else none

/-- A text tells the daemon to send what the input asks for. -/
def AsksFor (input : SendCoinsInput) (satoshi : String) : Prop :=
  if input.sendAll then satoshi = "all" else Amount.parse satoshi = .ok input.amount

/-- What is returned when the daemon has sent the coins. -/
def response (input : SendCoinsInput) (answer : Withdrawal) : SendCoinsResponse where
  txid := answer.txid
  address := input.address
  amount := if input.sendAll then 0 else input.amount
  label := input.label
  sendAll := input.sendAll

/-- The daemon was called once to send coins, and the result is what it has answered. -/
def Withdraws (input : SendCoinsInput) (parameters : Json) (said : List Answered)
    (result : Except Failure SendCoinsResponse) : Prop :=
  withdrawals said = [parameters] ∧
    ∃ handle reply, ⟨.call handle "withdraw" parameters, reply⟩ ∈ said ∧
      result = Gateway.classified .sendCoins
        ((Gateway.reading Withdrawal.codec reply).map input.response)

/-- How a request to send coins has to go when some funds were told: it fails if something stands
in the way, and otherwise calls the daemon once to send what was asked for. -/
def Followed (input : SendCoinsInput) (funds : Funds) (said : List Answered)
    (result : Except Failure SendCoinsResponse) : Prop :=
  match input.obstacle? funds with
  | some kind =>
      withdrawals said = [] ∧ published said = [] ∧ ∃ detail, result = .error ⟨kind, detail⟩
  | none =>
      ∃ parameters satoshi, input.Withdraws parameters said result ∧
        parameters.field? "satoshi" = some (.string satoshi) ∧ input.AsksFor satoshi

end SendCoinsInput

namespace Gateway

variable {input : SendCoinsInput} {funds : Funds}

/-! ### The amount for the daemon -/

/-- The text for the daemon is read as the amount, if that is one of whole satoshis. -/
theorem exists_satoshiText (whole : ¬ input.Fractional) :
    ∃ satoshi, satoshiText input = .ok satoshi ∧ input.AsksFor satoshi := by
  cases all : input.sendAll with
  | true =>
      have written : satoshiText input = .ok "all" := by rw [satoshiText, if_pos all]
      have asks : input.AsksFor "all" := by rw [SendCoinsInput.AsksFor, if_pos all]
      exact ⟨"all", written, asks⟩
  | false =>
      have divides : Amount.msatPerSat ∣ input.amount.toNat := by
        by_contra other
        exact whole ⟨all, other⟩
      have kept : (Amount.toSat input.amount).toNat = input.amount.toNat / Amount.msatPerSat :=
        UInt64.toNat_ofNat_of_lt' ((Nat.div_le_self _ _).trans_lt input.amount.toNat_lt)
      have value : input.amount.toNat = (Amount.toSat input.amount).toNat * Amount.msatPerSat := by
        rw [kept, Nat.div_mul_cancel divides]
      refine ⟨Text.numeral (Amount.toSat input.amount).toNat ++ "sat", ?_, ?_⟩
      · rw [satoshiText, all, Amount.toWholeSat, if_pos (Nat.mod_eq_zero_of_dvd divides)]
        rfl
      · rw [SendCoinsInput.AsksFor, all]
        exact Amount.parse_of_spelling (.sat value)

theorem exists_error_of_fractional (fractional : input.Fractional) :
    ∃ error, satoshiText input = .error error := by
  obtain ⟨part, fraction⟩ := fractional
  have rest := fun zero => fraction (Nat.dvd_of_mod_eq_zero zero)
  rw [satoshiText, part, Amount.toWholeSat, if_neg rest]
  exact ⟨_, rfl⟩

/-! ### After the funds were told -/

/-- Has the daemon send coins, and publishes that. -/
def withdraw (input : SendCoinsInput) (satoshi : String) (outputs : List Output) :
    Gateway SendCoinsResponse := do
  let answer ← call .sendCoins Withdrawal.codec "withdraw" (withdrawal input satoshi outputs)
  ask (.publish (.onchainPaymentStatus (input.response answer)))
  return input.response answer

/-- Sends coins of a wallet with known funds. -/
def sendFrom (input : SendCoinsInput) (funds : Funds) : Gateway SendCoinsResponse := do
  if funds.outputs.isEmpty then
    shortage input "No UTXOs available at all"
  let available := Funds.total (funds.outputs.map Output.amount)
  if !input.sendAll && available ≤ input.amount then
    shortage input "Not enough funds available"
  match satoshiText input with
  | .error error => fail .invalidArgument error.message
  | .ok satoshi => withdraw input satoshi funds.outputs

theorem sendCoins_eq (input : SendCoinsInput) :
    sendCoins input = fetchFunds .sendCoins >>= sendFrom input := rfl

theorem total_le_iff (fits : Amount.sum Output.amount funds.outputs < Bound.word64)
    (amount : Msat) :
    Funds.total (funds.outputs.map Output.amount) ≤ amount ↔
      Amount.sum Output.amount funds.outputs ≤ amount.toNat := by
  rw [UInt64.le_iff_toNat_le, Funds.total, Amount.toNat_foldl_map _ fits]

theorem sendFrom_of_short (fits : Amount.sum Output.amount funds.outputs < Bound.word64)
    (short : input.Short funds) :
    ∃ detail, sendFrom input funds = throw ⟨.preconditionFailed, detail⟩ := by
  unfold sendFrom
  dsimp only
  split
  · exact ⟨_, rfl⟩
  next filled =>
    obtain ⟨part, few⟩ := short.resolve_left (by simpa using filled)
    rw [if_pos (by simp [part, (total_le_iff fits input.amount).mpr few])]
    exact ⟨_, rfl⟩

theorem sendFrom_of_enough (fits : Amount.sum Output.amount funds.outputs < Bound.word64)
    (enough : ¬ input.Short funds) :
    sendFrom input funds =
      match satoshiText input with
      | .error error => throw ⟨.invalidArgument, error.message⟩
      | .ok satoshi => withdraw input satoshi funds.outputs := by
  obtain ⟨filled, more⟩ := not_or.mp enough
  have present : funds.outputs.isEmpty = false := by simpa using filled
  have covered : (!input.sendAll &&
      decide (Funds.total (funds.outputs.map Output.amount) ≤ input.amount)) = false := by
    cases all : input.sendAll with
    | true => rfl
    | false =>
        have few := fun small => more ⟨all, (total_le_iff fits input.amount).mp small⟩
        simpa using few
  unfold sendFrom
  simp only [present, covered, Bool.false_eq_true, if_false]
  rfl

theorem sendFrom_of_obstacle (fits : Amount.sum Output.amount funds.outputs < Bound.word64)
    {kind : FailureKind} (obstacle : input.obstacle? funds = some kind) :
    ∃ detail, sendFrom input funds = throw ⟨kind, detail⟩ := by
  unfold SendCoinsInput.obstacle? at obstacle
  split at obstacle
  next short =>
    cases obstacle
    exact sendFrom_of_short fits short
  next enough =>
    split at obstacle
    next fractional =>
      cases obstacle
      obtain ⟨error, refused⟩ := exists_error_of_fractional fractional
      exact ⟨error.message, by rw [sendFrom_of_enough fits enough, refused]⟩
    next => cases obstacle

theorem exists_sendFrom_eq (fits : Amount.sum Output.amount funds.outputs < Bound.word64)
    (clear : input.obstacle? funds = none) :
    ∃ satoshi, sendFrom input funds = withdraw input satoshi funds.outputs ∧
      input.AsksFor satoshi := by
  unfold SendCoinsInput.obstacle? at clear
  split at clear
  next => cases clear
  next enough =>
    split at clear
    next => cases clear
    next whole =>
      obtain ⟨satoshi, written, asks⟩ := exists_satoshiText whole
      exact ⟨satoshi, by rw [sendFrom_of_enough fits enough, written], asks⟩

/-- Whatever the funds are, the checks fail or they end in a withdrawal. -/
theorem sendFrom_cases (input : SendCoinsInput) (funds : Funds) :
    (∃ failure, sendFrom input funds = throw failure) ∨
      ∃ satoshi, sendFrom input funds = withdraw input satoshi funds.outputs := by
  unfold sendFrom
  dsimp only
  split
  · exact .inl ⟨_, rfl⟩
  · split
    · exact .inl ⟨_, rfl⟩
    · cases satoshiText input with
      | error error => exact .inl ⟨_, rfl⟩
      | ok satoshi => exact .inr ⟨satoshi, rfl⟩

/-! ### How it goes -/

/-- The question for the funds. -/
abbrev fundsQuestion (handle : Handle) : Query := .call handle "listfunds" (.object [])

/-- What is published when coins were sent, or not. -/
def announced : Except Failure SendCoinsResponse → List NodeEvent
  | .ok response => [.onchainPaymentStatus response]
  | .error _ => []

/-- How a withdrawal may go: the connection is lost, the daemon refuses to send the coins, or it
sends them. -/
inductive Withdrawn (input : SendCoinsInput) (satoshi : String) (outputs : List Output) :
    List Answered → Except Failure SendCoinsResponse → Prop where
  | unconnected : Withdrawn input satoshi outputs [] (.error Link.notReady)
  | refused (handle : Handle) {reply : Except TransportError Json} {error : TransportError}
      (refusal : reading Withdrawal.codec reply = .error error) :
      Withdrawn input satoshi outputs
        [⟨.call handle "withdraw" (withdrawal input satoshi outputs), reply⟩]
        (.error (.ofError .sendCoins error))
  | sent (handle : Handle) {reply : Except TransportError Json} {answer : Withdrawal}
      (read : reading Withdrawal.codec reply = .ok answer) :
      Withdrawn input satoshi outputs
        [⟨.call handle "withdraw" (withdrawal input satoshi outputs), reply⟩,
          ⟨.publish (.onchainPaymentStatus (input.response answer)), ()⟩]
        (.ok (input.response answer))

variable {settings : Settings} {said : List Answered} {result : Except Failure SendCoinsResponse}
  {satoshi : String} {outputs : List Output}

theorem goes_withdraw :
    Goes settings (withdraw input satoshi outputs) said result ↔
      Withdrawn input satoshi outputs said result := by
  constructor
  · intro goes
    rcases goes_call_bind.mp goes with ⟨rfl, rfl⟩ | ⟨handle, reply, later, rfl, rest⟩
    · exact .unconnected
    · cases read : reading Withdrawal.codec reply with
      | error error =>
          rw [read] at rest
          obtain ⟨rfl, rfl⟩ := rest
          exact .refused handle read
      | ok answer =>
          rw [read] at rest
          obtain ⟨_, _, rfl, last⟩ := goes_ask_bind.mp rest
          obtain ⟨rfl, rfl⟩ := goes_pure.mp last
          exact .sent handle read
  · intro withdrawn
    cases withdrawn with
    | unconnected => exact goes_call_bind.mpr (.inl ⟨rfl, rfl⟩)
    | refused handle refusal =>
        refine goes_call_bind.mpr (.inr ⟨handle, _, [], rfl, ?_⟩)
        rw [refusal]
        exact ⟨rfl, rfl⟩
    | @sent handle _ answer read =>
        refine goes_call_bind.mpr (.inr ⟨handle, _, [_], rfl, ?_⟩)
        rw [read]
        exact goes_ask_bind.mpr ⟨(), [], rfl, goes_pure.mpr ⟨rfl, rfl⟩⟩

theorem Withdrawn.published_eq (withdrawn : Withdrawn input satoshi outputs said result) :
    published said = announced result := by
  cases withdrawn <;> rfl

/-- Unless the connection is lost, the daemon is called once. -/
theorem Withdrawn.withdraws (withdrawn : Withdrawn input satoshi outputs said result) :
    input.Withdraws (withdrawal input satoshi outputs) said result ∨
      said = [] ∧ result = .error Link.notReady := by
  cases withdrawn with
  | unconnected => exact .inr ⟨rfl, rfl⟩
  | refused handle refusal =>
      refine .inl ⟨rfl, handle, _, List.mem_cons_self, ?_⟩
      rw [refusal]
      rfl
  | sent handle read =>
      refine .inl ⟨rfl, handle, _, List.mem_cons_self, ?_⟩
      rw [read]
      rfl

theorem published_of_goes_sendFrom (goes : Goes settings (sendFrom input funds) said result) :
    published said = announced result := by
  rcases sendFrom_cases input funds with ⟨failure, checked⟩ | ⟨satoshi, checked⟩
  · rw [checked] at goes
    obtain ⟨rfl, rfl⟩ := goes_throw.mp goes
    rfl
  · rw [checked] at goes
    exact (goes_withdraw.mp goes).published_eq

/-- Coins are sent after the funds were told. -/
theorem goes_sendCoins_told {handle : Handle} {reply : Except TransportError Json}
    (told : reading Funds.codec reply = .ok funds) :
    Goes settings (sendCoins input) (⟨fundsQuestion handle, reply⟩ :: said) result ↔
      Goes settings (sendFrom input funds) said result :=
  goes_call_bind_of_reading told

/-- What is returned is published, and nothing else. -/
theorem published_of_goes (goes : Goes settings (sendCoins input) said result) :
    published said = announced result := by
  rcases goes_call_bind.mp goes with ⟨rfl, rfl⟩ | ⟨handle, reply, later, rfl, rest⟩
  · rfl
  · change published later = _
    cases found : reading Funds.codec reply with
    | error error =>
        rw [found] at rest
        obtain ⟨rfl, rfl⟩ := rest
        rfl
    | ok funds =>
        rw [found] at rest
        exact published_of_goes_sendFrom rest

/-- A withdrawal calls the daemon as was asked for, or the connection was lost before. -/
theorem followed_of_goes (fits : Amount.sum Output.amount funds.outputs < Bound.word64)
    (goes : Goes settings (sendFrom input funds) said result) (handle : Handle)
    (reply : Except TransportError Json) :
    input.Followed funds (⟨fundsQuestion handle, reply⟩ :: said) result ∨
      input.obstacle? funds = none ∧ said = [] ∧ result = .error Link.notReady := by
  unfold SendCoinsInput.Followed
  cases stands : input.obstacle? funds with
  | some kind =>
      obtain ⟨detail, refused⟩ := sendFrom_of_obstacle fits stands
      rw [refused] at goes
      obtain ⟨rfl, rfl⟩ := goes_throw.mp goes
      exact .inl ⟨rfl, rfl, detail, rfl⟩
  | none =>
      obtain ⟨satoshi, checked, asks⟩ := exists_sendFrom_eq fits stands
      rw [checked] at goes
      rcases (goes_withdraw.mp goes).withdraws with ⟨once, handle, reply, called, same⟩ | lost
      · exact .inl ⟨_, satoshi,
          ⟨once, handle, reply, List.mem_cons_of_mem _ called, same⟩, rfl, asks⟩
      · exact .inr ⟨rfl, lost⟩

/-! ### Alone on a connection -/

variable {ω : Type} {session : Session} {handle : Handle}

/-- On a connection the daemon is called. -/
theorem withdraws_recorded (answer : Surroundings ω) (world : ω)
    (connected : session.link.transport = .ok handle) :
    ∃ later, (outcome answer.recording settings (withdraw input satoshi outputs) session
        (world, said)).2.2.2 = said ++ later ∧
      input.Withdraws (withdrawal input satoshi outputs) later
        (outcome answer.recording settings (withdraw input satoshi outputs) session
          (world, said)).1 := by
  rw [withdraw, outcome_bind, outcome_call_connected _ _ _ _ _ _ _ _ connected]
  cases read : reading Withdrawal.codec (answer.recording
      (.call handle "withdraw" (withdrawal input satoshi outputs)) (world, said)).1 with
  | error error =>
      refine ⟨_, rfl, rfl, handle, _, List.mem_cons_self, ?_⟩
      exact congrArg (fun found => classified .sendCoins (found.map input.response)) read.symm
  | ok answered =>
      refine ⟨_, List.append_assoc _ _ _, rfl, handle, _, List.mem_cons_self, ?_⟩
      exact congrArg (fun found => classified .sendCoins (found.map input.response)) read.symm

theorem followed_recorded (fits : Amount.sum Output.amount funds.outputs < Bound.word64)
    (answer : Surroundings ω) (world : ω) (connected : session.link.transport = .ok handle)
    (told : Tells answer handle world funds) :
    input.Followed funds
      (outcome answer.recording settings (sendCoins input) session (world, [])).2.2.2
      (outcome answer.recording settings (sendCoins input) session (world, [])).1 := by
  have asked : Tells answer.recording handle (world, []) funds := told
  rw [sendCoins_eq, outcome_bind, outcome_fetchFunds _ _ _ _ connected asked,
    Outcome.continue_ok]
  unfold SendCoinsInput.Followed
  cases stands : input.obstacle? funds with
  | some kind =>
      obtain ⟨detail, refused⟩ := sendFrom_of_obstacle fits stands
      rw [refused]
      exact ⟨rfl, rfl, detail, rfl⟩
  | none =>
      obtain ⟨satoshi, checked, asks⟩ := exists_sendFrom_eq fits stands
      rw [checked]
      obtain ⟨later, recorded, once, handle, reply, called, same⟩ := withdraws_recorded answer
        (answer (fundsQuestion handle) world).2 connected
      refine ⟨withdrawal input satoshi funds.outputs, satoshi,
        ⟨(congrArg withdrawals recorded).trans once, handle, reply, ?_, same⟩, rfl, asks⟩
      exact recorded ▸ List.mem_cons_of_mem _ called

/-! ### Sending all -/

/-- An operation that only tells the kinds of its failures. -/
def plain {α : Type} (settings : Settings) (operation : Gateway α) :
    Dialogue Session (Except FailureKind α) :=
  Except.mapError Failure.kind <$> operation.toDialogue settings

theorem plain_bind {α β : Type} (operation : Gateway α) {first second : α → Gateway β}
    (same : ∀ value, plain settings (first value) = plain settings (second value)) :
    plain settings (operation >>= first) = plain settings (operation >>= second) := by
  have rest (found : Except Failure α) :
      Except.mapError Failure.kind <$>
          ExceptT.bindCont (fun value => first value settings) found =
        Except.mapError Failure.kind <$>
          ExceptT.bindCont (fun value => second value settings) found := by
    cases found with
    | error failure => rfl
    | ok value => exact same value
  change Except.mapError Failure.kind <$>
      (operation.toDialogue settings >>= ExceptT.bindCont fun value => first value settings) =
    Except.mapError Failure.kind <$>
      (operation.toDialogue settings >>= ExceptT.bindCont fun value => second value settings)
  rw [map_bind, map_bind]
  exact congrArg _ (funext rest)

theorem sendFrom_of_sendAll (all : input.sendAll = true) (filled : funds.outputs ≠ []) :
    sendFrom input funds = withdraw input "all" funds.outputs := by
  have present : funds.outputs.isEmpty = false := by simpa using filled
  unfold sendFrom
  simp only [present, all, Bool.not_true, Bool.false_and, Bool.false_eq_true, if_false]
  rw [satoshiText, if_pos all]

theorem withdraw_of_sendAll (all : input.sendAll = true) (amount : Msat) (satoshi : String)
    (outputs : List Output) :
    withdraw { input with amount } satoshi outputs = withdraw input satoshi outputs := by
  obtain ⟨address, named, target, rate, confirmations, label, sendAll⟩ := input
  obtain rfl : sendAll = true := all
  rfl

/-- Who sends all may name any amount. -/
theorem plain_sendCoins_of_sendAll (all : input.sendAll = true) (amount : Msat) :
    plain settings (sendCoins input) = plain settings (sendCoins { input with amount }) := by
  rw [sendCoins_eq, sendCoins_eq]
  refine plain_bind _ fun funds => ?_
  by_cases filled : funds.outputs = []
  · have fits : Amount.sum Output.amount funds.outputs < Bound.word64 := by
      rw [filled]
      decide
    obtain ⟨detail, failed⟩ := @sendFrom_of_short input funds fits (.inl filled)
    obtain ⟨other, fails⟩ := @sendFrom_of_short { input with amount } funds fits (.inl filled)
    rw [failed, fails]
    rfl
  · have renamed := @sendFrom_of_sendAll { input with amount } funds all filled
    rw [sendFrom_of_sendAll all filled, renamed, withdraw_of_sendAll all amount]

/-! ### The whole -/

/-- Coins are sent as asked for, if the amounts of the outputs fit into a sum: if something stands
in the way it fails, nothing is sent and nothing published, and otherwise the daemon is called once
with a text that means the amount, or all, and what it answers is the result. What is returned is
published, and only that. Who sends all may name any amount. -/
theorem coins_sent_as_asked (fits : Amount.sum Output.amount funds.outputs < Bound.word64)
    (input : SendCoinsInput) (settings : Settings) :
    -- Alone on a connection.
    (∀ {ω : Type} (answer : Surroundings ω) (session : Session) (handle : Handle) (world : ω),
      session.link.transport = .ok handle → Tells answer handle world funds →
        input.Followed funds
          (outcome answer.recording settings (sendCoins input) session (world, [])).2.2.2
          (outcome answer.recording settings (sendCoins input) session (world, [])).1) ∧
    -- Whatever happens to the connection after the funds were told.
    (∀ handle reply later result, reading Funds.codec reply = .ok funds →
      Goes settings (sendCoins input) (⟨fundsQuestion handle, reply⟩ :: later) result →
        input.Followed funds (⟨fundsQuestion handle, reply⟩ :: later) result ∨
          input.obstacle? funds = none ∧ later = [] ∧ result = .error Link.notReady) ∧
    (∀ said result, Goes settings (sendCoins input) said result →
      published said = announced result) ∧
    (input.sendAll = true → ∀ amount,
      plain settings (sendCoins input) = plain settings (sendCoins { input with amount })) := by
  refine ⟨fun answer session handle world => followed_recorded fits answer world,
    fun handle reply later result told goes => ?_, fun said result => published_of_goes,
    plain_sendCoins_of_sendAll⟩
  exact followed_of_goes fits ((goes_sendCoins_told told).mp goes) handle reply

/-- A wallet with one output. -/
def purse : Funds := ⟨[⟨"aa", 1, 3000000, .confirmed, false⟩], []⟩

theorem coins_sent_for_rent :
    Amount.sum Output.amount purse.outputs < Bound.word64 ∧
    Tells payingDaemon.surroundings 0 () purse ∧
    ∃ parameters satoshi,
      withdrawals (outcome payingDaemon.surroundings.recording (Plan.settingsOf .standard)
        (sendCoins rent) { Session.fresh 1 1 with link := .establish 0 } ((), [])).2.2.2 =
          [parameters] ∧
      parameters.field? "satoshi" = some (.string satoshi) ∧
      Amount.parse satoshi = .ok 2000000 := by
  have fits : Amount.sum Output.amount purse.outputs < Bound.word64 := by decide
  have told : Tells payingDaemon.surroundings 0 () purse := by
    unfold Tells
    decide +kernel
  have clear : rent.obstacle? purse = none := by decide
  have followed := (coins_sent_as_asked fits rent (Plan.settingsOf .standard)).1
    payingDaemon.surroundings { Session.fresh 1 1 with link := .establish 0 } 0 () rfl told
  rw [SendCoinsInput.Followed, clear] at followed
  obtain ⟨parameters, satoshi, ⟨once, -⟩, named, means⟩ := followed
  exact ⟨fits, told, parameters, satoshi, once, named, means⟩

end Gateway

end LightningGateway
