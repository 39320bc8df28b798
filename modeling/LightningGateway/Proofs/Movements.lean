import Mathlib.Algebra.Order.BigOperators.Group.List
import Mathlib.Algebra.Order.Group.Nat
import LightningGateway.Proofs.Bookkeeping

/-!
# Movements of the wallet

A line of the income report tells of coins that move into the wallet or out of it. Of several
movements in one transaction the listing shows the last one: an output supersedes the outputs of
the same transaction before it, and the change that comes back supersedes the withdrawal. What is
shown and what is superseded add up to what the report tells.
-/

namespace LightningGateway.Daemon.Bookkeeping

/-! ### Movements -/

/-- The movement that a line of the income report tells of. -/
def movementOf (event : IncomeEvent) : Option OnChainTransaction :=
  match event.tag with
  | "deposit" => movement .receive event
  | "withdrawal" => movement .send event
  | _ => none

/-- The movements of a report, each for itself. -/
def movements (report : IncomeReport) : List OnChainTransaction :=
  (report.events.filter fun event => event.account = walletAccount).filterMap movementOf

/-- The movements that no later one in the same transaction follows. -/
def latest : List OnChainTransaction → List OnChainTransaction
  | [] => []
  | moved :: rest => if moved.txHash ∈ hashes rest then latest rest else moved :: latest rest

/-- The movements that a later one in the same transaction follows. -/
def superseded : List OnChainTransaction → List OnChainTransaction
  | [] => []
  | moved :: rest =>
      if moved.txHash ∈ hashes rest then moved :: superseded rest else superseded rest

def withoutFees (transaction : OnChainTransaction) : OnChainTransaction :=
  { transaction with totalFees := 0 }

/-! ### Entering movements -/

theorem withoutFees_of_movement {direction : Direction} {event : IncomeEvent}
    {moved : OnChainTransaction} (moves : movement direction event = some moved) :
    withoutFees moved = moved := by
  obtain ⟨txHash, -, rfl⟩ := Option.map_eq_some_iff.mp moves
  rfl

theorem map_withoutFees_record (moved : OnChainTransaction)
    (transactions : List OnChainTransaction) :
    (record moved transactions).map withoutFees =
      record (withoutFees moved) (transactions.map withoutFees) := by
  induction transactions with
  | nil => rfl
  | cons other rest ih =>
      by_cases same : other.txHash = moved.txHash
      · simp [record, same, withoutFees]
      · simpa [record, same, withoutFees] using ih

theorem map_withoutFees_setFees (txHash : String) (fees : Msat)
    (transactions : List OnChainTransaction) :
    (setFees txHash fees transactions).map withoutFees = transactions.map withoutFees := by
  rw [setFees, List.map_map]
  refine List.map_congr_left fun transaction _ => ?_
  simp only [Function.comp_apply]
  split <;> rfl

theorem map_withoutFees_enter (transactions : List OnChainTransaction) (event : IncomeEvent) :
    (enter transactions event).map withoutFees =
      match movementOf event with
      | some moved => record moved (transactions.map withoutFees)
      | none => transactions.map withoutFees := by
  unfold enter movementOf
  split
  · next deposit =>
      rw [deposit]
      cases moves : movement .receive event with
      | none => simp [moves]
      | some moved => simp [moves, map_withoutFees_record, withoutFees_of_movement moves]
  · next withdrawal =>
      rw [withdrawal]
      cases moves : movement .send event with
      | none => simp [moves]
      | some moved => simp [moves, map_withoutFees_record, withoutFees_of_movement moves]
  · next fee =>
      rw [fee]
      cases event.txid with
      | none => rfl
      | some txid => exact map_withoutFees_setFees txid event.debit transactions
  · simp

/-- Apart from the fees, the listing is made by entering one movement after another. -/
theorem map_withoutFees_transactions (report : IncomeReport) :
    (transactions report).map withoutFees =
      (movements report).foldl (fun listed moved => record moved listed) [] := by
  have entered : ∀ (events : List IncomeEvent) (listed : List OnChainTransaction),
      (events.foldl enter listed).map withoutFees =
        (events.filterMap movementOf).foldl (fun listed moved => record moved listed)
          (listed.map withoutFees) := by
    intro events
    induction events with
    | nil => exact fun _ => rfl
    | cons event rest ih =>
        intro listed
        rw [List.foldl_cons, ih, map_withoutFees_enter]
        cases moves : movementOf event with
        | none => rw [List.filterMap_cons_none moves]
        | some moved => rw [List.filterMap_cons_some moves, List.foldl_cons]
  exact entered _ []

/-- A movement takes the place of those in the same transaction. -/
theorem record_perm (moved : OnChainTransaction) {transactions : List OnChainTransaction}
    (distinct : (hashes transactions).Nodup) :
    (record moved transactions).Perm
      (transactions.filter (fun other => other.txHash ≠ moved.txHash) ++ [moved]) := by
  induction transactions with
  | nil => rfl
  | cons other rest ih =>
      obtain ⟨fresh, distinct⟩ := List.nodup_cons.mp distinct
      by_cases same : other.txHash = moved.txHash
      · have kept : rest.filter (fun other => other.txHash ≠ moved.txHash) = rest := by
          refine List.filter_eq_self.mpr fun listed member => decide_eq_true fun hash => fresh ?_
          exact List.mem_map.mpr ⟨listed, member, hash.trans same.symm⟩
        rw [record, if_pos same, List.filter_cons_of_neg (by simpa using same), kept]
        exact (List.perm_append_singleton moved rest).symm
      · rw [record, if_neg same, List.filter_cons_of_pos (by simpa using same)]
        exact (ih distinct).cons other

theorem nodup_hashes_record (moved : OnChainTransaction) {transactions : List OnChainTransaction}
    (distinct : (hashes transactions).Nodup) : (hashes (record moved transactions)).Nodup := by
  refine ((record_perm moved distinct).map OnChainTransaction.txHash).nodup_iff.mpr ?_
  rw [List.map_append, List.nodup_append]
  refine ⟨distinct.sublist (List.filter_sublist.map _), by simp, ?_⟩
  rintro txHash member other single rfl
  obtain ⟨listed, kept, rfl⟩ := List.mem_map.mp member
  exact of_decide_eq_true (List.mem_filter.mp kept).2 (by simpa using single)

/-- Movements that are entered one after another leave those before them that are in no
transaction of theirs, and the last one in each transaction of theirs. -/
theorem foldl_record_perm (moved listed : List OnChainTransaction)
    (distinct : (hashes listed).Nodup) :
    (moved.foldl (fun listed moved => record moved listed) listed).Perm
      (listed.filter (fun other => other.txHash ∉ hashes moved) ++ latest moved) := by
  induction moved generalizing listed with
  | nil => simp [latest, hashes]
  | cons first rest ih =>
      -- The first movement stands in the listing now, and stays unless a later one takes its place.
      rw [List.foldl_cons]
      refine (ih _ (nodup_hashes_record first distinct)).trans ?_
      have entered := (record_perm first distinct).filter
        (fun other => other.txHash ∉ hashes rest)
      refine (entered.append_right (latest rest)).trans ?_
      have others : (listed.filter (fun other => other.txHash ≠ first.txHash)).filter
            (fun other => other.txHash ∉ hashes rest) =
          listed.filter (fun other => other.txHash ∉ hashes (first :: rest)) := by
        rw [List.filter_filter]
        refine List.filter_congr fun other _ => ?_
        have first_or_later : other.txHash ∈ hashes (first :: rest) ↔
            other.txHash = first.txHash ∨ other.txHash ∈ hashes rest := List.mem_cons
        simp [first_or_later, Bool.and_comm]
      rw [List.filter_append, others, List.append_assoc]
      refine List.Perm.append_left _ ?_
      by_cases later : first.txHash ∈ hashes rest
      · simp [latest, later]
      · simp [latest, later]

/-- Apart from the fees, the listing shows the last movement in each transaction. -/
theorem transactions_perm_latest (report : IncomeReport) :
    ((transactions report).map withoutFees).Perm (latest (movements report)) := by
  rw [map_withoutFees_transactions]
  have entered := foldl_record_perm (movements report) [] List.nodup_nil
  simpa only [List.filter_nil, List.nil_append] using entered

theorem latest_append_superseded_perm (moved : List OnChainTransaction) :
    (latest moved ++ superseded moved).Perm moved := by
  induction moved with
  | nil => rfl
  | cons first rest ih =>
      by_cases later : first.txHash ∈ hashes rest
      · rw [latest, superseded, if_pos later, if_pos later]
        exact List.perm_middle.trans (ih.cons first)
      · rw [latest, superseded, if_neg later, if_neg later]
        exact ih.cons first

/-! ### Amounts -/

/-- The sum of the amounts that transactions move in a direction. -/
def total (direction : Direction) (transactions : List OnChainTransaction) : Nat :=
  ((transactions.filter fun transaction => transaction.direction = direction).map
    fun transaction => transaction.amount.toNat).sum

theorem total_append (direction : Direction) (first second : List OnChainTransaction) :
    total direction (first ++ second) = total direction first + total direction second := by
  simp [total]

theorem total_eq_of_perm (direction : Direction) {first second : List OnChainTransaction}
    (same : first.Perm second) : total direction first = total direction second :=
  ((same.filter _).map _).sum_eq

theorem total_map_withoutFees (direction : Direction) (transactions : List OnChainTransaction) :
    total direction (transactions.map withoutFees) = total direction transactions := by
  simp only [total, List.filter_map, List.map_map]
  rfl

theorem total_eq_zero_iff {direction : Direction} {transactions : List OnChainTransaction} :
    total direction transactions = 0 ↔
      ∀ transaction ∈ transactions, transaction.direction = direction →
        transaction.amount = 0 := by
  simp only [total, List.sum_eq_zero_iff, List.forall_mem_map, List.mem_filter, decide_eq_true_eq,
    and_imp, ← UInt64.toNat_inj, UInt64.toNat_zero]

/-- The tag of the lines that tell of movements in a direction. -/
def lineTag : Direction → String
  | .receive => "deposit"
  | .send => "withdrawal"

def lineAmount (event : IncomeEvent) : Direction → Msat
  | .receive => event.credit
  | .send => event.debit

/-- The lines about movements of the wallet in a direction that carry an output or a
transaction. -/
def linesAbout (direction : Direction) (report : IncomeReport) : List IncomeEvent :=
  report.events.filter fun event =>
    event.account = walletAccount ∧ event.tag = lineTag direction ∧
      (event.outpoint.isSome ∨ event.txid.isSome)

def reported (direction : Direction) (report : IncomeReport) : Nat :=
  ((linesAbout direction report).map fun event => (lineAmount event direction).toNat).sum

theorem isSome_movement_iff (direction : Direction) {event : IncomeEvent} :
    (movement direction event).isSome ↔ event.outpoint.isSome ∨ event.txid.isSome := by
  unfold movement incomeKey
  rw [Option.isSome_map]
  split <;> simp [*]

theorem movementOf_of_tag {direction : Direction} {event : IncomeEvent}
    (tag : event.tag = lineTag direction) : movementOf event = movement direction event := by
  cases direction <;> simp [movementOf, tag, lineTag]

/-- A movement has the direction that the tag of its line stands for. -/
theorem tag_of_movementOf {event : IncomeEvent} {moved : OnChainTransaction}
    (moves : movementOf event = some moved) :
    event.tag = lineTag moved.direction ∧ moved.amount = lineAmount event moved.direction := by
  have shape (direction : Direction) (tag : event.tag = lineTag direction)
      (moves : movement direction event = some moved) :
      event.tag = lineTag moved.direction ∧
        moved.amount = lineAmount event moved.direction := by
    obtain ⟨txHash, -, rfl⟩ := Option.map_eq_some_iff.mp moves
    exact ⟨tag, by cases direction <;> rfl⟩
  unfold movementOf at moves
  split at moves
  · exact shape .receive ‹_› moves
  · exact shape .send ‹_› moves
  · cases moves

/-- A line tells of a movement in a direction if it has the tag for it and carries an output or a
transaction. -/
theorem exists_movementOf_iff (direction : Direction) (event : IncomeEvent) :
    (∃ moved, movementOf event = some moved ∧ moved.direction = direction) ↔
      event.tag = lineTag direction ∧ (event.outpoint.isSome ∨ event.txid.isSome) := by
  constructor
  · rintro ⟨moved, moves, rfl⟩
    have tag := (tag_of_movementOf moves).1
    refine ⟨tag, (isSome_movement_iff moved.direction).mp ?_⟩
    rw [← movementOf_of_tag tag, moves]
    rfl
  · rintro ⟨tag, carries⟩
    obtain ⟨moved, moves⟩ := Option.isSome_iff_exists.mp
      ((isSome_movement_iff direction).mpr carries)
    refine ⟨moved, (movementOf_of_tag tag).trans moves, ?_⟩
    obtain ⟨txHash, -, rfl⟩ := Option.map_eq_some_iff.mp moves
    rfl

/-- The movements amount to what the lines about them say. -/
theorem total_movements (direction : Direction) (report : IncomeReport) :
    total direction (movements report) = reported direction report := by
  obtain ⟨events⟩ := report
  induction events with
  | nil => rfl
  | cons event rest ih =>
      have about := exists_movementOf_iff direction event
      unfold movements reported linesAbout at ih ⊢
      by_cases wallet : event.account = walletAccount
      · cases moves : movementOf event with
        | none =>
            have silent : ¬ (event.tag = lineTag direction ∧
                (event.outpoint.isSome ∨ event.txid.isSome)) := by
              simp [← about, moves]
            simpa [wallet, moves, silent] using ih
        | some moved =>
            by_cases same : moved.direction = direction
            · have told := about.mp ⟨moved, moves, same⟩
              have amount := (tag_of_movementOf moves).2
              rw [same] at amount
              simpa [wallet, moves, told, total, same, amount] using ih
            · have silent : ¬ (event.tag = lineTag direction ∧
                  (event.outpoint.isSome ∨ event.txid.isSome)) := by
                simp [← about, moves, same]
              simpa [wallet, moves, silent, total, same] using ih
      · simpa [wallet] using ih

theorem total_transactions_add_superseded (direction : Direction) (report : IncomeReport) :
    total direction (transactions report) + total direction (superseded (movements report)) =
      reported direction report := by
  calc
    _ = total direction ((transactions report).map withoutFees) +
        total direction (superseded (movements report)) := by rw [total_map_withoutFees]
    _ = total direction (latest (movements report)) +
        total direction (superseded (movements report)) := by
      rw [total_eq_of_perm direction (transactions_perm_latest report)]
    _ = total direction (movements report) := by
      rw [← total_append, total_eq_of_perm direction (latest_append_superseded_perm _)]
    _ = reported direction report := total_movements direction report

/-- In each direction, what is listed and what is superseded add up to what is reported. So nothing
of what was moved is missing if and only if no movement of some amount is superseded. -/
theorem listed_in_full_unless_superseded {output : String} {report : IncomeReport}
    (read : IncomeReport.codec.decodeText output = .ok report) :
    ∃ listed, parseIncome output = .ok listed ∧
      ∀ direction,
        total direction listed + total direction (superseded (movements report)) =
          reported direction report ∧
        (total direction listed = reported direction report ↔
          ∀ lost ∈ superseded (movements report), lost.direction = direction →
            lost.amount = 0) := by
  refine ⟨transactions report, by rw [parseIncome, read], fun direction => ?_⟩
  have added := total_transactions_add_superseded direction report
  refine ⟨added, ?_⟩
  rw [← total_eq_zero_iff, ← added]
  omega

/-- A deposit and a withdrawal that spends it. -/
def plainReport : IncomeReport :=
  ⟨[⟨"wallet", "deposit", 9000, 0, 20, none, some "d1:0", none⟩,
    ⟨"wallet", "withdrawal", 0, 9000, 30, none, some "d1:0", some "w1"⟩]⟩

theorem plainReport_listed_in_full :
    ∃ listed, parseIncome (IncomeReport.codec.write plainReport).compact = .ok listed ∧
      ∀ direction, total direction listed = reported direction plainReport := by
  obtain ⟨listed, parsed, totals⟩ :=
    listed_in_full_unless_superseded (IncomeReport.decodeText_compact plainReport)
  have single : superseded (movements plainReport) = [] := by decide +kernel
  exact ⟨listed, parsed, fun direction =>
    (totals direction).2.mpr fun lost member => by simp [single] at member⟩

/-- Two outputs of one transaction, and a withdrawal that spends the first one and brings back
change. -/
def changeReport : IncomeReport :=
  ⟨[⟨"wallet", "deposit", 9000, 0, 20, none, some "d1:0", none⟩,
    ⟨"wallet", "deposit", 7000, 0, 20, none, some "d1:1", none⟩,
    ⟨"wallet", "withdrawal", 0, 9000, 30, none, some "d1:0", some "w1"⟩,
    ⟨"wallet", "deposit", 4000, 0, 30, none, some "w1:1", none⟩]⟩

/-- The first output of the deposit and the whole withdrawal are missing. -/
theorem changeReport_not_listed_in_full :
    ∃ listed, parseIncome (IncomeReport.codec.write changeReport).compact = .ok listed ∧
      total .receive listed = 11000 ∧ reported .receive changeReport = 20000 ∧
      total .send listed = 0 ∧ reported .send changeReport = 9000 := by
  refine ⟨transactions changeReport,
    by rw [parseIncome, IncomeReport.decodeText_compact changeReport], ?_⟩
  decide +kernel

end LightningGateway.Daemon.Bookkeeping
