import LightningGateway.Proofs.Outcome
import LightningGateway.Proofs.Sums

/-!
# Balances

The balances and the list of channels come from the same report of funds. As long as the sums of
amounts fit, the balances are exact: each output and each channel counts once or not at all, and
the channels count with the balances and states that the list of channels shows.
-/

namespace LightningGateway

/-- The channels in a state. -/
def Channel.within (state : ChannelState) (channels : List Channel) : List Channel :=
  channels.filter fun channel => channel.state = state

namespace ChannelState

theorem beq_eq_decide (first second : ChannelState) :
    (first == second) = decide (first = second) := by
  cases first <;> cases second <;> rfl

/-- The states in which a channel counts for the balances. -/
def Counts (state : ChannelState) : Prop := state = .active ∨ state = .pending

instance : DecidablePred Counts :=
  fun state => inferInstanceAs (Decidable (state = .active ∨ state = .pending))

end ChannelState

namespace WalletBalance

/-- The own balance in the channels in a state. -/
def localIn (balance : WalletBalance) : ChannelState → Msat
  | .active => balance.channelLocal
  | .pending => balance.pendingOpenLocal
  | .closing | .closed => 0

/-- The balance of the peers in the channels in a state. -/
def remoteIn (balance : WalletBalance) : ChannelState → Msat
  | .active => balance.channelRemote
  | .pending => balance.pendingOpenRemote
  | .closing | .closed => 0

end WalletBalance

namespace Daemon

theorem OutputStatus.beq_eq_decide (first second : OutputStatus) :
    (first == second) = decide (first = second) := by
  cases first <;> cases second <;> rfl

namespace Output

/-- A confirmed output that is free. -/
def Confirmed (output : Output) : Prop := output.status = .confirmed ∧ output.reserved = false

def Unconfirmed (output : Output) : Prop := output.status = .unconfirmed

instance : DecidablePred Confirmed :=
  fun output => inferInstanceAs (Decidable (output.status = .confirmed ∧ output.reserved = false))

instance : DecidablePred Unconfirmed :=
  fun output => inferInstanceAs (Decidable (output.status = .unconfirmed))

end Output

/-- A channel of the list shows a channel of the report, with some alias. -/
def FundedChannel.Shows (funded : FundedChannel) (channel : Channel) : Prop :=
  ∃ peerAlias, channel = funded.toChannel peerAlias

namespace Funds

/-- The sum of the amounts of the outputs of a kind. -/
def outputSum (kind : Output → Prop) [DecidablePred kind] (funds : Funds) : Nat :=
  Amount.sum Output.amount (funds.outputs.filter kind)

/-- The sum of some amount over the channels in a state. -/
def channelSum (amount : FundedChannel → Msat) (state : ChannelState) (funds : Funds) : Nat :=
  Amount.sum amount (funds.channelsIn state)

/-- The sums of amounts that balances are made of fit into an amount. -/
structure Fits (funds : Funds) : Prop where
  onchain : funds.outputSum Output.Confirmed + funds.outputSum Output.Unconfirmed < Bound.word64
  ours : ∀ state : ChannelState, state.Counts →
    funds.channelSum FundedChannel.ourAmount state < Bound.word64
  theirs : ∀ state : ChannelState, state.Counts →
    funds.channelSum FundedChannel.theirAmount state < Bound.word64

/-- The funds without the outputs and channels that do not count. -/
def counted (funds : Funds) : Funds where
  outputs := funds.outputs.filter fun output => output.Confirmed ∨ output.Unconfirmed
  channels := funds.channels.filter fun channel => channel.state.Counts

variable {funds : Funds}

/-! ### Outputs -/

theorem outputTotal_confirmed (funds : Funds) :
    (funds.outputTotal fun output => output.status == .confirmed && !output.reserved) =
      funds.outputTotal fun output => output.Confirmed := by
  have same (output : Output) : (output.status == .confirmed && !output.reserved) =
      decide output.Confirmed := by
    rw [OutputStatus.beq_eq_decide, Bool.eq_iff_iff, decide_eq_true_iff, Bool.and_eq_true,
      decide_eq_true_iff, Bool.not_eq_true']
    rfl
  simp only [same]

theorem outputTotal_unconfirmed (funds : Funds) :
    (funds.outputTotal fun output => output.status == .unconfirmed) =
      funds.outputTotal fun output => output.Unconfirmed := by
  have same (output : Output) : (output.status == .unconfirmed) = decide output.Unconfirmed :=
    OutputStatus.beq_eq_decide output.status .unconfirmed
  simp only [same]

theorem toNat_outputTotal {kind : Output → Prop} [DecidablePred kind]
    (fits : funds.outputSum kind < Bound.word64) :
    (funds.outputTotal fun output => kind output).toNat = funds.outputSum kind :=
  Amount.toNat_foldl_map Output.amount fits

theorem toNat_onchainConfirmed (fits : funds.Fits) :
    funds.balance.onchainConfirmed.toNat = funds.outputSum Output.Confirmed := by
  have bounded := fits.onchain
  change (funds.outputTotal fun output => output.status == .confirmed && !output.reserved).toNat = _
  rw [outputTotal_confirmed]
  exact toNat_outputTotal (by omega)

theorem toNat_onchainUnconfirmed (fits : funds.Fits) :
    funds.balance.onchainUnconfirmed.toNat = funds.outputSum Output.Unconfirmed := by
  have bounded := fits.onchain
  change (funds.outputTotal fun output => output.status == .unconfirmed).toNat = _
  rw [outputTotal_unconfirmed]
  exact toNat_outputTotal (by omega)

theorem toNat_onchainTotal (fits : funds.Fits) :
    funds.balance.onchainTotal.toNat =
      funds.balance.onchainConfirmed.toNat + funds.balance.onchainUnconfirmed.toNat := by
  apply Word.toNat_plus
  change funds.balance.onchainConfirmed.toNat + funds.balance.onchainUnconfirmed.toNat < _
  rw [toNat_onchainConfirmed fits, toNat_onchainUnconfirmed fits]
  exact fits.onchain

/-! ### Channels -/

theorem toNat_localIn (fits : funds.Fits) {state : ChannelState} (counts : state.Counts) :
    (funds.balance.localIn state).toNat = funds.channelSum FundedChannel.ourAmount state := by
  have summed := Amount.toNat_foldl_map FundedChannel.ourAmount (fits.ours state counts)
  rcases counts with rfl | rfl
  · exact summed
  · exact summed

theorem toNat_remoteIn (fits : funds.Fits) {state : ChannelState} (counts : state.Counts) :
    (funds.balance.remoteIn state).toNat = funds.channelSum FundedChannel.theirAmount state := by
  have summed := Amount.toNat_foldl_map FundedChannel.theirAmount (fits.theirs state counts)
  rcases counts with rfl | rfl
  · exact summed
  · exact summed

/-- Whatever the aliases are, the list of channels shows the same amounts. -/
theorem sum_within_of_shows {balance : Channel → Msat} {amount : FundedChannel → Msat}
    (shown : ∀ (funded : FundedChannel) (peerAlias : String),
      balance (funded.toChannel peerAlias) = amount funded)
    (state : ChannelState) {channels : List Channel}
    (listed : List.Forall₂ FundedChannel.Shows funds.channels channels) :
    Amount.sum balance (Channel.within state channels) = funds.channelSum amount state := by
  unfold channelSum channelsIn Channel.within
  generalize funds.channels = reported at listed ⊢
  induction listed with
  | nil => rfl
  | @cons funded _ _ _ first _ ih =>
      obtain ⟨peerAlias, rfl⟩ := first
      rw [List.filter_cons, List.filter_cons, ChannelState.beq_eq_decide]
      by_cases same : funded.state = state
      · have seen : (funded.toChannel peerAlias).state = state := same
        rw [if_pos (decide_eq_true seen), if_pos (decide_eq_true same), Amount.sum_cons,
          Amount.sum_cons, ih, shown]
      · have unseen : (funded.toChannel peerAlias).state ≠ state := same
        rw [if_neg (by simpa using unseen), if_neg (by simpa using same), ih]

/-- One channel more adds its amount to the sum for its state, and to no other. -/
theorem channelSum_insert (amount : FundedChannel → Msat) (state : ChannelState)
    (outputs : List Output) (before : List FundedChannel) (channel : FundedChannel)
    (after : List FundedChannel) :
    channelSum amount state ⟨outputs, before ++ channel :: after⟩ =
      channelSum amount state ⟨outputs, before ++ after⟩ +
        if channel.state = state then (amount channel).toNat else 0 := by
  unfold channelSum channelsIn
  rw [List.filter_append, List.filter_append, List.filter_cons, ChannelState.beq_eq_decide]
  split
  next same =>
    rw [if_pos (of_decide_eq_true same), Amount.sum_append, Amount.sum_append, Amount.sum_cons]
    omega
  next other =>
    rw [if_neg (fun same => other (decide_eq_true same)), Nat.add_zero]

/-! ### What does not matter -/

/-- Only four sums and the two lists of channels decide about the balances. -/
theorem balance_congr {first second : Funds}
    (confirmed : first.outputTotal (fun output => output.Confirmed) =
      second.outputTotal fun output => output.Confirmed)
    (unconfirmed : first.outputTotal (fun output => output.Unconfirmed) =
      second.outputTotal fun output => output.Unconfirmed)
    (held : ∀ (amount : FundedChannel → Msat) (state : ChannelState), state.Counts →
      total ((first.channelsIn state).map amount) =
        total ((second.channelsIn state).map amount)) :
    first.balance = second.balance := by
  unfold balance
  simp only [outputTotal_confirmed, outputTotal_unconfirmed, confirmed, unconfirmed,
    held _ .active (Or.inl rfl), held _ .pending (Or.inr rfl)]

/-- Filtering twice, the second time for less, is filtering once. -/
theorem filter_filter_of_imp {α : Type} {wide narrow : α → Prop} [DecidablePred wide]
    [DecidablePred narrow] (implies : ∀ value, narrow value → wide value) (values : List α) :
    (values.filter wide).filter narrow = values.filter narrow := by
  rw [List.filter_filter]
  apply List.filter_congr
  intro value _
  by_cases kept : narrow value
  · simp [kept, implies value kept]
  · simp [kept]

theorem balance_counted (funds : Funds) : funds.counted.balance = funds.balance := by
  have confirmed : ∀ output : Output, output.Confirmed →
      output.Confirmed ∨ output.Unconfirmed := fun _ => Or.inl
  have unconfirmed : ∀ output : Output, output.Unconfirmed →
      output.Confirmed ∨ output.Unconfirmed := fun _ => Or.inr
  apply balance_congr
  · exact congrArg (fun outputs => total (outputs.map Output.amount))
      (filter_filter_of_imp confirmed funds.outputs)
  · exact congrArg (fun outputs => total (outputs.map Output.amount))
      (filter_filter_of_imp unconfirmed funds.outputs)
  · intro amount state counts
    have implies : ∀ channel : FundedChannel, channel.state = state → channel.state.Counts := by
      rintro channel rfl
      exact counts
    have kept : funds.counted.channelsIn state = funds.channelsIn state := by
      unfold channelsIn
      simp only [ChannelState.beq_eq_decide]
      exact filter_filter_of_imp implies funds.channels
    rw [kept]

theorem total_perm {first second : List Msat} (reordered : first.Perm second) :
    total first = total second :=
  reordered.foldl_eq 0

theorem balance_perm {first second : Funds} (outputs : first.outputs.Perm second.outputs)
    (channels : first.channels.Perm second.channels) : first.balance = second.balance := by
  apply balance_congr
  · exact total_perm ((outputs.filter _).map _)
  · exact total_perm ((outputs.filter _).map _)
  · intro amount state _
    exact total_perm ((channels.filter _).map _)

/-! ### One channel -/

theorem toNat_theirAmount {channel : FundedChannel} (held : channel.ourAmount ≤ channel.amount) :
    channel.ourAmount.toNat + channel.theirAmount.toNat = channel.amount.toNat := by
  rw [FundedChannel.theirAmount, Word.toNat_minus]
  exact Nat.add_sub_cancel' (UInt64.le_iff_toNat_le.mp held)

theorem Fits.of_insert {outputs : List Output} {before after : List FundedChannel}
    {channel : FundedChannel} (fits : Fits ⟨outputs, before ++ channel :: after⟩) :
    Fits ⟨outputs, before ++ after⟩ where
  onchain := fits.onchain
  ours state counts := by
    have bounded := fits.ours state counts
    rw [channelSum_insert] at bounded
    omega
  theirs state counts := by
    have bounded := fits.theirs state counts
    rw [channelSum_insert] at bounded
    omega

/-- A channel that counts adds its capacity, unless more than that is said to be the node's. -/
theorem balance_insert {outputs : List Output} {before after : List FundedChannel}
    {channel : FundedChannel} (fits : Fits ⟨outputs, before ++ channel :: after⟩)
    (held : channel.ourAmount ≤ channel.amount) (counts : channel.state.Counts) :
    ((balance ⟨outputs, before ++ channel :: after⟩).localIn channel.state).toNat +
        ((balance ⟨outputs, before ++ channel :: after⟩).remoteIn channel.state).toNat =
      ((balance ⟨outputs, before ++ after⟩).localIn channel.state).toNat +
        ((balance ⟨outputs, before ++ after⟩).remoteIn channel.state).toNat +
        channel.amount.toNat := by
  rw [toNat_localIn fits counts, toNat_remoteIn fits counts, toNat_localIn fits.of_insert counts,
    toNat_remoteIn fits.of_insert counts, channelSum_insert, channelSum_insert, if_pos rfl,
    if_pos rfl, ← toNat_theirAmount held]
  omega

end Funds

end Daemon

namespace Gateway

open Daemon (Funds FundedChannel Output)

variable {ω : Type} {session : Session} {handle : Handle} {funds : Funds}

/-- The answer to the question for the funds tells the given ones. -/
def Tells (answer : Surroundings ω) (handle : Handle) (world : ω) (funds : Funds) : Prop :=
  reading Funds.codec (answer (.call handle "listfunds" (.object [])) world).1 = .ok funds

theorem outcome_fetchFunds (answer : Surroundings ω) (settings : Settings) (world : ω)
    (operation : Operation) (connected : session.link.transport = .ok handle)
    (told : Tells answer handle world funds) :
    outcome answer settings (fetchFunds operation) session world =
      (.ok funds, session, (answer (.call handle "listfunds" (.object [])) world).2) := by
  rw [fetchFunds, outcome_call_connected _ _ _ _ _ _ _ _ connected, told]
  rfl

theorem result_walletBalance (answer : Surroundings ω) (settings : Settings) (world : ω)
    (connected : session.link.transport = .ok handle) (told : Tells answer handle world funds) :
    (outcome answer settings walletBalance session world).1 = .ok funds.balance := by
  rw [walletBalance, outcome_bind, outcome_fetchFunds answer settings world _ connected told]
  rfl

/-- The list shows each channel of the report, whatever is answered about aliases. -/
theorem exists_result_listChannels (answer : Surroundings ω) (settings : Settings) (world : ω)
    (connected : session.link.transport = .ok handle) (told : Tells answer handle world funds) :
    ∃ channels, (outcome answer settings listChannels session world).1 = .ok channels ∧
      List.Forall₂ FundedChannel.Shows funds.channels channels := by
  rw [listChannels_eq, outcome_bind, outcome_fetchFunds answer settings world _ connected told]
  apply exists_outcome_mapM
  intro channel session world
  rw [nameChannel, outcome_bind, outcome_attempt, Outcome.continue_ok]
  cases (outcome answer settings (resolveAlias channel.peerId) session world).1 with
  | ok peerAlias => exact ⟨channel.toChannel peerAlias, rfl, peerAlias, rfl⟩
  | error _ => exact ⟨channel.toChannel "", rfl, "", rfl⟩

/-- The balances are exact sums: on chain of the outputs that are confirmed and free and of those
that are unconfirmed, and in channels of what the list of channels shows for those that are active
and those that are being opened. Nothing else counts, and no order matters. A channel that counts
adds its capacity, if no more than that belongs to the node. -/
theorem balance_agrees_with_channels (fits : funds.Fits) :
    -- The outputs.
    (funds.balance.onchainConfirmed.toNat =
        Amount.sum Output.amount (funds.outputs.filter Output.Confirmed) ∧
      funds.balance.onchainUnconfirmed.toNat =
        Amount.sum Output.amount (funds.outputs.filter Output.Unconfirmed) ∧
      funds.balance.onchainTotal.toNat =
        funds.balance.onchainConfirmed.toNat + funds.balance.onchainUnconfirmed.toNat) ∧
    -- What the operations return.
    (∀ {ω : Type} (answer : Surroundings ω) (settings : Settings) (session : Session)
      (handle : Handle) (world : ω), session.link.transport = .ok handle →
      Tells answer handle world funds →
      (outcome answer settings walletBalance session world).1 = .ok funds.balance ∧
      ∃ channels, (outcome answer settings listChannels session world).1 = .ok channels ∧
        ∀ state : ChannelState, state.Counts →
          (funds.balance.localIn state).toNat =
            Amount.sum Channel.balanceLocal (Channel.within state channels) ∧
          (funds.balance.remoteIn state).toNat =
            Amount.sum Channel.balanceRemote (Channel.within state channels)) ∧
    -- Other reports.
    funds.counted.balance = funds.balance ∧
    (∀ others : Funds, funds.outputs.Perm others.outputs → funds.channels.Perm others.channels →
      others.balance = funds.balance) ∧
    (∀ before channel after, funds.channels = before ++ channel :: after →
      channel.ourAmount ≤ channel.amount → channel.state.Counts →
      (funds.balance.localIn channel.state).toNat + (funds.balance.remoteIn channel.state).toNat =
        ((Funds.balance ⟨funds.outputs, before ++ after⟩).localIn channel.state).toNat +
          ((Funds.balance ⟨funds.outputs, before ++ after⟩).remoteIn channel.state).toNat +
          channel.amount.toNat) := by
  refine ⟨⟨Funds.toNat_onchainConfirmed fits, Funds.toNat_onchainUnconfirmed fits,
    Funds.toNat_onchainTotal fits⟩, ?_, Funds.balance_counted funds, ?_, ?_⟩
  · intro ω answer settings session handle world connected told
    obtain ⟨channels, listed, shown⟩ :=
      exists_result_listChannels answer settings world connected told
    refine ⟨result_walletBalance answer settings world connected told, channels, listed, ?_⟩
    intro state counts
    rw [Funds.toNat_localIn fits counts, Funds.toNat_remoteIn fits counts]
    constructor
    · exact (Funds.sum_within_of_shows (fun _ _ => rfl) state shown).symm
    · exact (Funds.sum_within_of_shows (fun _ _ => rfl) state shown).symm
  · intro others outputs channels
    exact (Funds.balance_perm outputs channels).symm
  · intro before channel after whole held counts
    obtain ⟨outputs, reported⟩ := funds
    obtain rfl : reported = before ++ channel :: after := whole
    exact Funds.balance_insert fits held counts

/-- Funds with outputs of four kinds and channels in three states. -/
def variedFunds : Funds where
  outputs :=
    [⟨"a", 0, 1000, .unconfirmed, false⟩, ⟨"b", 0, 2000, .confirmed, false⟩,
      ⟨"c", 0, 4000, .confirmed, true⟩, ⟨"d", 0, 8000, .spent, false⟩]
  channels :=
    [⟨"02aa", true, "CHANNELD_NORMAL", none, none, none, 300, 1000⟩,
      ⟨"02bb", false, "CHANNELD_AWAITING_LOCKIN", none, none, none, 50, 50⟩,
      ⟨"02cc", false, "ONCHAIN", none, none, none, 70, 100⟩]

/-- A daemon with these funds that knows no aliases. -/
def fundedDaemon : Replies :=
  .answering (.ok 0)
    (fun method =>
      if method = "listfunds" then .ok (Funds.codec.write variedFunds)
      else .error (.rpc none "unknown node"))
    fun _ => .ok ""

theorem balance_agrees_with_variedFunds :
    variedFunds.balance.onchainTotal.toNat = 3000 ∧
    (outcome fundedDaemon.surroundings ⟨.coreLightning, "getinfo", 5000, 1000, false⟩
      walletBalance { Session.fresh 10 10 with link := .establish 0 } ()).1 =
        .ok variedFunds.balance ∧
    (variedFunds.balance.localIn .active).toNat + (variedFunds.balance.remoteIn .active).toNat =
      1000 := by
  have fits : variedFunds.Fits :=
    ⟨by decide, by rintro state (rfl | rfl) <;> decide, by rintro state (rfl | rfl) <;> decide⟩
  have told : Tells fundedDaemon.surroundings 0 () variedFunds := by
    unfold Tells
    decide +kernel
  obtain ⟨⟨confirmed, unconfirmed, total⟩, operations, -, -, inserted⟩ :=
    balance_agrees_with_channels fits
  refine ⟨?_, (operations fundedDaemon.surroundings _ _ 0 () rfl told).1, ?_⟩
  · rw [total, confirmed, unconfirmed]
    rfl
  · exact inserted [] _ _ rfl (by decide) (Or.inl (by decide +kernel))

end Gateway

end LightningGateway
