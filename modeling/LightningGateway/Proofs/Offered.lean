import LightningGateway.Proofs.Withdrawals

/-!
# Outputs that are offered

Coins are sent from all outputs that the daemon has told. Outputs that are reserved, spent or
immature are offered like the others, and their amounts are taken for funds, although the balance
leaves them out. Only of a wallet without such outputs is nothing asked that it cannot do.
-/

namespace LightningGateway

namespace Daemon

namespace Output

/-- An output that is there to be spent, and that no other transaction uses. -/
def Usable (output : Output) : Prop :=
  output.reserved = false ∧ output.status ≠ .spent ∧ output.status ≠ .immature

instance : DecidablePred Usable :=
  fun output => inferInstanceAs
    (Decidable (output.reserved = false ∧ output.status ≠ .spent ∧ output.status ≠ .immature))

theorem Usable.counts {output : Output} (usable : output.Usable) :
    output.Confirmed ∨ output.Unconfirmed := by
  obtain ⟨free, unspent, mature⟩ := usable
  cases status : output.status with
  | unconfirmed => exact .inr status
  | confirmed => exact .inl ⟨status, free⟩
  | spent => exact absurd status unspent
  | immature => exact absurd status mature

end Output

namespace Funds

variable {funds : Funds}

/-- Each output that counts is confirmed or unconfirmed, and not both. -/
theorem sum_counted (funds : Funds) :
    Amount.sum Output.amount funds.counted.outputs =
      funds.outputSum Output.Confirmed + funds.outputSum Output.Unconfirmed := by
  have confirmed : funds.counted.outputs.filter Output.Confirmed =
      funds.outputs.filter Output.Confirmed :=
    filter_filter_of_imp (fun _ => .inl) funds.outputs
  have others : (funds.counted.outputs.filter fun output => ¬ output.Confirmed) =
      funds.outputs.filter Output.Unconfirmed := by
    rw [counted, List.filter_filter]
    apply List.filter_congr
    intro output _
    by_cases free : output.Confirmed
    · have known : ¬ output.Unconfirmed := fun unknown => by
        rw [Output.Unconfirmed, free.1] at unknown
        cases unknown
      simp [free, known]
    · simp [free]
  have parted := List.sum_map_filter_add_sum_map_filter_not Output.Confirmed
    (fun output => output.amount.toNat) funds.counted.outputs
  rw [confirmed, others] at parted
  exact parted.symm

/-- The total on chain is what the outputs that count are worth. -/
theorem toNat_onchainTotal_eq_counted
    (fits : Amount.sum Output.amount funds.outputs < Bound.word64) :
    funds.balance.onchainTotal.toNat = Amount.sum Output.amount funds.counted.outputs := by
  have part : Amount.sum Output.amount funds.counted.outputs < Bound.word64 :=
    (Amount.sum_sublist _ List.filter_sublist).trans_lt fits
  rw [sum_counted] at part ⊢
  -- The channels do not matter here.
  have positive : 0 < Bound.word64 := by decide
  have bounded : Fits ⟨funds.outputs, []⟩ := ⟨part, fun _ _ => positive, fun _ _ => positive⟩
  have total := toNat_onchainTotal bounded
  rw [toNat_onchainConfirmed bounded, toNat_onchainUnconfirmed bounded] at total
  exact total

theorem toNat_onchainTotal_of_usable
    (fits : Amount.sum Output.amount funds.outputs < Bound.word64)
    (usable : ∀ output ∈ funds.outputs, output.Usable) :
    funds.balance.onchainTotal.toNat = Amount.sum Output.amount funds.outputs := by
  have all : funds.counted.outputs = funds.outputs :=
    List.filter_eq_self.mpr fun output member => decide_eq_true (usable output member).counts
  rw [toNat_onchainTotal_eq_counted fits, all]

end Funds

end Daemon

namespace Gateway

open Daemon (Funds Output)

/-- The parameters of a call offer an output to be spent. -/
def Offers (parameters : Json) (output : Output) : Prop :=
  ∃ texts, parameters.field? "utxos" = some (.ofTexts texts) ∧ outpoint output ∈ texts

/-- A wallet can do what a withdrawal asks for. -/
structure Feasible (input : SendCoinsInput) (funds : Funds) (parameters : Json) : Prop where
  usable : ∀ output ∈ funds.outputs, Offers parameters output → output.Usable
  covered : input.sendAll = false → input.amount < funds.balance.onchainTotal

/-- Whatever is asked for after a reply has told the funds, the wallet can do it. -/
def AlwaysFeasible (reply : Except TransportError Json) (funds : Funds) : Prop :=
  ∀ settings input handle later result,
    Goes settings (sendCoins input) (⟨fundsQuestion handle, reply⟩ :: later) result →
      ∀ parameters ∈ withdrawals later, Feasible input funds parameters

variable {settings : Settings} {input : SendCoinsInput} {funds : Funds} {handle : Handle}
  {reply : Except TransportError Json} {later : List Answered}
  {result : Except Failure SendCoinsResponse} {parameters : Json}

/-- All outputs are offered, whatever their state is, and must be worth more than the amount. -/
theorem exists_of_mem_withdrawals
    (fits : Amount.sum Output.amount funds.outputs < Bound.word64)
    (goes : Goes settings (sendFrom input funds) later result)
    (called : parameters ∈ withdrawals later) :
    (∃ satoshi, parameters = withdrawal input satoshi funds.outputs) ∧
      (input.sendAll = false → input.amount.toNat < Amount.sum Output.amount funds.outputs) := by
  cases stands : input.obstacle? funds with
  | some kind =>
      obtain ⟨detail, refused⟩ := sendFrom_of_obstacle fits stands
      rw [refused] at goes
      obtain ⟨rfl, rfl⟩ := goes_throw.mp goes
      cases called
  | none =>
      obtain ⟨satoshi, checked, -⟩ := exists_sendFrom_eq fits stands
      rw [checked] at goes
      have enough : ¬ input.Short funds := by
        intro short
        rw [SendCoinsInput.obstacle?, if_pos short] at stands
        cases stands
      refine ⟨⟨satoshi, ?_⟩, fun part => ?_⟩
      · rcases (goes_withdraw.mp goes).withdraws with ⟨once, -⟩ | ⟨rfl, -⟩
        · rwa [once, List.mem_singleton] at called
        · cases called
      · by_contra few
        exact enough (.inr ⟨part, Nat.not_lt.mp few⟩)

/-- Whatever the daemon may answer to a withdrawal, it is called. -/
theorem exists_goes_withdrawal (settings : Settings) (handle : Handle) {satoshi : String}
    (told : reading Daemon.Funds.codec reply = .ok funds)
    (checked : sendFrom input funds = withdraw input satoshi funds.outputs) :
    ∃ later result,
      Goes settings (sendCoins input) (⟨fundsQuestion handle, reply⟩ :: later) result ∧
        withdrawals later = [withdrawal input satoshi funds.outputs] := by
  refine ⟨[⟨.call handle "withdraw" (withdrawal input satoshi funds.outputs),
    .error .missingResult⟩], .error (.ofError .sendCoins .missingResult),
    (goes_sendCoins_told told).mpr ?_, rfl⟩
  rw [checked]
  exact goes_withdraw.mpr (.refused handle rfl)

/-- A request for all coins. -/
def everything : SendCoinsInput := ⟨"bc1q", 0, none, none, none, "", true⟩

/-- A withdrawal offers all outputs that were told, and the amount is less than all of them are
worth. The balance counts only some of them, so the wallet can do whatever it is asked for exactly
if none of the outputs is reserved, spent or immature. -/
theorem always_feasible_iff_usable
    (fits : Amount.sum Output.amount funds.outputs < Bound.word64)
    (told : reading Daemon.Funds.codec reply = .ok funds) :
    (∀ settings input handle later result,
      Goes settings (sendCoins input) (⟨fundsQuestion handle, reply⟩ :: later) result →
        ∀ parameters ∈ withdrawals later,
          parameters.field? "utxos" = some (.ofTexts (funds.outputs.map outpoint)) ∧
          (input.sendAll = false →
            input.amount.toNat < Amount.sum Output.amount funds.outputs)) ∧
    funds.balance.onchainTotal.toNat = Amount.sum Output.amount funds.counted.outputs ∧
    (AlwaysFeasible reply funds ↔ ∀ output ∈ funds.outputs, output.Usable) := by
  refine ⟨fun settings input handle later result goes parameters called => ?_,
    Funds.toNat_onchainTotal_eq_counted fits, fun feasible output member => ?_,
    fun usable settings input handle later result goes parameters called => ?_⟩
  · obtain ⟨⟨satoshi, rfl⟩, covered⟩ :=
      exists_of_mem_withdrawals fits ((goes_sendCoins_told told).mp goes) called
    exact ⟨rfl, covered⟩
  · -- Who asks for all coins offers this output, too.
    have checked : sendFrom everything funds = withdraw everything "all" funds.outputs :=
      sendFrom_of_sendAll rfl (List.ne_nil_of_mem member)
    obtain ⟨later, result, goes, called⟩ :=
      exists_goes_withdrawal (Plan.settingsOf .standard) 0 told checked
    have asked : withdrawal everything "all" funds.outputs ∈ withdrawals later := by
      rw [called]
      exact List.mem_singleton_self _
    exact (feasible _ _ _ _ _ goes _ asked).usable output member
      ⟨_, rfl, List.mem_map_of_mem member⟩
  · have covered :=
      (exists_of_mem_withdrawals fits ((goes_sendCoins_told told).mp goes) called).2
    refine ⟨fun output member _ => usable output member, fun part => ?_⟩
    rw [UInt64.lt_iff_toNat_lt, Funds.toNat_onchainTotal_of_usable fits usable]
    exact covered part

theorem always_feasible_for_purse :
    Amount.sum Output.amount purse.outputs < Bound.word64 ∧
    reading Funds.codec (.ok (Funds.codec.write purse)) = .ok purse ∧
    AlwaysFeasible (.ok (Funds.codec.write purse)) purse := by
  have fits : Amount.sum Output.amount purse.outputs < Bound.word64 := by decide
  have told : reading Funds.codec (.ok (Funds.codec.write purse)) = .ok purse := by
    decide +kernel
  exact ⟨fits, told, (always_feasible_iff_usable fits told).2.2.mpr (by decide)⟩

/-- A wallet with a free output and one that another transaction has reserved. -/
def partlyReserved : Funds :=
  ⟨[⟨"aa", 0, 3000000, .confirmed, false⟩, ⟨"bb", 1, 4000000, .confirmed, true⟩], []⟩

/-- The rent for more rooms. -/
def higherRent : SendCoinsInput := ⟨"bc1q", 5000000, none, none, none, "rent", false⟩

/-- The reserved output is offered, for an amount that is above the balance. -/
theorem reserved_output_offered_for_rent :
    Amount.sum Output.amount partlyReserved.outputs < Bound.word64 ∧
    reading Funds.codec (.ok (Funds.codec.write partlyReserved)) = .ok partlyReserved ∧
    ∃ later result parameters,
      Goes (Plan.settingsOf .standard) (sendCoins higherRent)
        (⟨fundsQuestion 0, .ok (Funds.codec.write partlyReserved)⟩ :: later) result ∧
      withdrawals later = [parameters] ∧
      (∃ output ∈ partlyReserved.outputs, output.reserved = true ∧ Offers parameters output) ∧
      higherRent.sendAll = false ∧
      partlyReserved.balance.onchainTotal ≤ higherRent.amount := by
  have fits : Amount.sum Output.amount partlyReserved.outputs < Bound.word64 := by decide
  have told : reading Funds.codec (.ok (Funds.codec.write partlyReserved)) =
      .ok partlyReserved := by
    decide +kernel
  have clear : higherRent.obstacle? partlyReserved = none := by decide
  obtain ⟨satoshi, checked, -⟩ := exists_sendFrom_eq fits clear
  obtain ⟨later, result, goes, called⟩ :=
    exists_goes_withdrawal (Plan.settingsOf .standard) 0 told checked
  have reserved : ⟨"bb", 1, 4000000, .confirmed, true⟩ ∈ partlyReserved.outputs :=
    List.mem_cons_of_mem _ (List.mem_singleton_self _)
  exact ⟨fits, told, later, result, _, goes, called,
    ⟨_, reserved, rfl, _, rfl, List.mem_map_of_mem reserved⟩, rfl, by decide⟩

end Gateway

end LightningGateway
