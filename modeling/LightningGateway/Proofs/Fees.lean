import Mathlib.Data.List.Nodup
import LightningGateway.Proofs.Summaries

/-!
# Fees of wallet transactions

A fee is entered into the listing where its transaction stands, if it stands there by then. A fee in
a line before the movement in its transaction is lost. So the fees that are listed depend on the
order of the report: of reports with the same lines those list a fee that have it after the
movement.
-/

namespace LightningGateway.Daemon.Bookkeeping

/-- A line that charges a fee, not of zero, to a transaction stands before a line that moves coins
in it. -/
def ChargedEarly (lines : List IncomeEvent) (txHash : String) : Prop :=
  ∃ fee line, [fee, line].Sublist lines ∧ chargedTo fee = some txHash ∧ fee.debit ≠ 0 ∧
    lineKey line = some txHash

/-! ### The only fee of a transaction -/

/-- Where no key comes twice, no other line has the key of a line. -/
theorem key_notMem_others {keyOf : IncomeEvent → Option String} {before after : List IncomeEvent}
    {line : IncomeEvent} {txHash : String}
    (distinct : ((before ++ line :: after).filterMap keyOf).Nodup)
    (key : keyOf line = some txHash) :
    txHash ∉ before.filterMap keyOf ∧ txHash ∉ after.filterMap keyOf := by
  rw [List.filterMap_append, List.filterMap_cons_some key] at distinct
  exact ⟨fun earlier => List.disjoint_of_nodup_append distinct earlier List.mem_cons_self,
    (List.nodup_cons.mp (List.Nodup.of_append_right distinct)).1⟩

theorem lastFee_append_cons (txHash : String) (before after : List IncomeEvent)
    (line : IncomeEvent) :
    lastFee txHash (before ++ line :: after) =
      if txHash ∈ after.filterMap chargedTo then lastFee txHash after
      else if chargedTo line = some txHash then line.debit
      else lastFee txHash before := by
  rw [List.append_cons, lastFee_append, lastFee_append_singleton]

theorem lastFee_of_mem {lines : List IncomeEvent} (once : (lines.filterMap chargedTo).Nodup)
    {fee : IncomeEvent} {txHash : String} (member : fee ∈ lines)
    (charges : chargedTo fee = some txHash) : lastFee txHash lines = fee.debit := by
  obtain ⟨before, after, rfl⟩ := List.append_of_mem member
  rw [lastFee_append_cons, if_neg (key_notMem_others once charges).2, if_pos charges]

theorem lastFee_perm {lines others : List IncomeEvent} (same : lines.Perm others)
    (once : (lines.filterMap chargedTo).Nodup) (txHash : String) :
    lastFee txHash lines = lastFee txHash others := by
  by_cases charged : txHash ∈ lines.filterMap chargedTo
  · obtain ⟨fee, member, charges⟩ := List.mem_filterMap.mp charged
    have onceToo := (same.filterMap chargedTo).nodup_iff.mp once
    rw [lastFee_of_mem once member charges, lastFee_of_mem onceToo (same.mem_iff.mp member) charges]
  · have unchargedToo := mt (same.filterMap chargedTo).mem_iff.mpr charged
    rw [lastFee_of_notMem charged, lastFee_of_notMem unchargedToo]

/-! ### The only movement in a transaction -/

theorem eraseDups_of_nodup {keys : List String} (distinct : keys.Nodup) :
    keys.eraseDups = keys := by
  induction keys using List.reverseRecOn with
  | nil => rfl
  | append_singleton keys key ih =>
      have fresh : key ∉ keys := fun member =>
        List.disjoint_of_nodup_append distinct member (List.mem_singleton_self key)
      rw [eraseDups_append_singleton, if_neg fresh, ih (List.Nodup.of_append_left distinct)]

theorem pair_sublist_iff {fee line : IncomeEvent} {lines : List IncomeEvent} :
    [fee, line].Sublist lines ↔ ∃ before after, lines = before ++ line :: after ∧ fee ∈ before := by
  constructor
  · intro pair
    obtain ⟨first, second, rfl, member, rest⟩ := List.cons_sublist_iff.mp pair
    obtain ⟨between, after, rfl⟩ := List.append_of_mem (List.singleton_sublist.mp rest)
    exact ⟨first ++ between, after, by simp, List.mem_append_left _ member⟩
  · rintro ⟨before, after, rfl, member⟩
    exact List.Sublist.append (List.singleton_sublist.mpr member)
      (List.singleton_sublist.mpr List.mem_cons_self)

theorem before_eq_of_lineKey {before others after laters : List IncomeEvent}
    {line other : IncomeEvent} {txHash : String}
    (single : ((before ++ line :: after).filterMap lineKey).Nodup)
    (same : before ++ line :: after = others ++ other :: laters)
    (key : lineKey line = some txHash) (keyToo : lineKey other = some txHash) :
    before = others := by
  obtain ⟨notBefore, notAfter⟩ := key_notMem_others single key
  have otherBefore : other ∉ before := fun member =>
    notBefore (List.mem_filterMap.mpr ⟨other, member, keyToo⟩)
  have otherAfter : other ∉ after := fun member =>
    notAfter (List.mem_filterMap.mpr ⟨other, member, keyToo⟩)
  exact ((List.append_cons_inj_of_notMem otherBefore otherAfter).mp same).1

/-! ### Fees and the order of a report -/

namespace ShownBy

variable {before after : List IncomeEvent} {line : IncomeEvent} {shown : OnChainTransaction}

/-- The movement itself charges no fee, so a fee that is reported stands after or before it. -/
theorem lastFee_eq (shownBy : ShownBy line after shown) :
    lastFee shown.txHash (before ++ line :: after) =
      if shown.txHash ∈ after.filterMap chargedTo then lastFee shown.txHash after
      else lastFee shown.txHash before := by
  have silent : chargedTo line ≠ some shown.txHash := by
    intro charges
    have key := shownBy.key
    rw [lineKey_of_chargedTo charges] at key
    cases key
  rw [lastFee_append_cons, if_neg silent]

/-- A fee before the movement is the only one, so that none is shown. -/
theorem fee_lost (shownBy : ShownBy line after shown)
    (single : ((before ++ line :: after).filterMap lineKey).Nodup)
    (once : ((before ++ line :: after).filterMap chargedTo).Nodup)
    (early : ChargedEarly (before ++ line :: after) shown.txHash) :
    shown.totalFees = 0 ∧ lastFee shown.txHash (before ++ line :: after) ≠ 0 := by
  obtain ⟨fee, other, pair, charges, positive, keyToo⟩ := early
  obtain ⟨others, laters, same, member⟩ := pair_sublist_iff.mp pair
  obtain rfl := before_eq_of_lineKey single same shownBy.key keyToo
  have reported := lastFee_of_mem once (List.mem_append_left _ member) charges
  refine ⟨?_, by rwa [reported]⟩
  obtain ⟨first, between, rfl⟩ := List.append_of_mem member
  rw [List.append_assoc, List.cons_append] at once
  have later : after.Sublist (between ++ line :: after) :=
    (List.sublist_cons_self line after).trans (List.sublist_append_right between _)
  have noLater : shown.txHash ∉ after.filterMap chargedTo :=
    mt ((later.filterMap chargedTo).subset ·) (key_notMem_others once charges).2
  rw [shownBy.totalFees, lastFee_of_notMem noLater]

theorem fee_kept (shownBy : ShownBy line after shown)
    (once : ((before ++ line :: after).filterMap chargedTo).Nodup)
    (timely : ¬ ChargedEarly (before ++ line :: after) shown.txHash) :
    shown.totalFees = lastFee shown.txHash (before ++ line :: after) := by
  rw [shownBy.lastFee_eq, shownBy.totalFees]
  split
  · rfl
  · next uncharged =>
      rw [lastFee_of_notMem uncharged]
      by_cases charged : shown.txHash ∈ before.filterMap chargedTo
      · obtain ⟨fee, member, charges⟩ := List.mem_filterMap.mp charged
        rw [List.filterMap_append] at once
        rw [lastFee_of_mem (List.Nodup.of_append_left once) member charges]
        by_contra positive
        exact timely ⟨fee, line, pair_sublist_iff.mpr ⟨before, after, rfl, member⟩, charges,
          Ne.symm positive, shownBy.key⟩
      · rw [lastFee_of_notMem charged]

end ShownBy

/-- Where each transaction has one movement and one fee at most, its fee is listed as it is reported
if and only if no other fee than zero stands before the movement. -/
theorem totalFees_eq_iff {lines : List IncomeEvent} (single : (lines.filterMap lineKey).Nodup)
    (once : (lines.filterMap chargedTo).Nodup) {shown : OnChainTransaction}
    (shows : Shown lines shown) :
    (shown.totalFees = lastFee shown.txHash lines ↔ ¬ ChargedEarly lines shown.txHash) ∧
      (ChargedEarly lines shown.txHash → shown.totalFees = 0) := by
  obtain ⟨before, line, after, rfl, shownBy⟩ := shows
  have lost := shownBy.fee_lost single once
  refine ⟨⟨fun attached early => ?_, shownBy.fee_kept once⟩, fun early => (lost early).1⟩
  exact (lost early).2 (attached.symm.trans (lost early).1)

/-- Of a report in which each transaction has one movement and one fee at most, in whatever order
its lines come, each transaction is listed with its fee if and only if the fee is zero or does not
stand before the movement. Otherwise it is listed without. -/
theorem fee_listed_iff_not_charged_early {report shuffled : IncomeReport} {output : String}
    (single : ((walletLines report).filterMap lineKey).Nodup)
    (once : ((walletLines report).filterMap chargedTo).Nodup)
    (shuffles : shuffled.events.Perm report.events)
    (read : IncomeReport.codec.decodeText output = .ok shuffled) :
    ∃ listing, parseIncome output = .ok listing ∧
      hashes listing = (walletLines shuffled).filterMap lineKey ∧
      ∀ shown ∈ listing,
        (shown.totalFees = lastFee shown.txHash (walletLines report) ↔
          ¬ ChargedEarly (walletLines shuffled) shown.txHash) ∧
        (ChargedEarly (walletLines shuffled) shown.txHash → shown.totalFees = 0) := by
  have same : (walletLines shuffled).Perm (walletLines report) := shuffles.filter _
  have singleToo := (same.filterMap lineKey).nodup_iff.mpr single
  have onceToo := (same.filterMap chargedTo).nodup_iff.mpr once
  refine ⟨transactions shuffled, by rw [parseIncome, read],
    (hashes_foldl_enter _).trans (eraseDups_of_nodup singleToo), fun shown member => ?_⟩
  rw [← lastFee_perm same onceToo]
  exact totalFees_eq_iff singleToo onceToo ((shown_foldl_enter _).2 shown member)

/-- A deposit, a withdrawal that spends it, and the fee of the withdrawal. -/
def chargedReport : IncomeReport :=
  ⟨[⟨"wallet", "deposit", 9000, 0, 20, none, some "d1:0", none⟩,
    ⟨"wallet", "withdrawal", 0, 9000, 30, none, some "d1:0", some "w1"⟩,
    ⟨"wallet", "onchain_fee", 0, 141, 30, none, none, some "w1"⟩]⟩

/-- The fee of the withdrawal is listed. -/
theorem chargedReport_fee_listed :
    ∃ listing, parseIncome (IncomeReport.codec.write chargedReport).compact = .ok listing ∧
      hashes listing = ["d1", "w1"] ∧
      ∀ shown ∈ listing, shown.totalFees = if shown.txHash = "w1" then 141 else 0 := by
  have single : ((walletLines chargedReport).filterMap lineKey).Nodup := by decide +kernel
  have once : ((walletLines chargedReport).filterMap chargedTo).Nodup := by decide +kernel
  obtain ⟨listing, parsed, order, fees⟩ :=
    fee_listed_iff_not_charged_early single once (.refl _)
      (IncomeReport.decodeText_compact chargedReport)
  -- No line that moves coins comes after a fee for its transaction.
  have ordered : (walletLines chargedReport).Pairwise fun fee line =>
      chargedTo fee = none ∨ chargedTo fee ≠ lineKey line := by
    decide +kernel
  have timely (txHash : String) : ¬ ChargedEarly (walletLines chargedReport) txHash := by
    rintro ⟨fee, line, pair, charges, -, key⟩
    rcases List.pairwise_iff_forall_sublist.mp ordered pair with silent | other
    · rw [silent] at charges
      cases charges
    · exact other (charges.trans key.symm)
  have named : (walletLines chargedReport).filterMap lineKey = ["d1", "w1"] := by decide +kernel
  refine ⟨listing, parsed, order.trans named, fun shown member => ?_⟩
  have hash : shown.txHash ∈ ["d1", "w1"] := named ▸ order ▸ List.mem_map_of_mem member
  rw [(fees shown member).1.mpr (timely _)]
  rcases List.mem_pair.mp hash with deposit | withdrawal
  · rw [deposit]
    decide +kernel
  · rw [withdrawal]
    decide +kernel

/-- The same lines with the fee before the withdrawal. -/
def earlyReport : IncomeReport :=
  ⟨[⟨"wallet", "deposit", 9000, 0, 20, none, some "d1:0", none⟩,
    ⟨"wallet", "onchain_fee", 0, 141, 30, none, none, some "w1"⟩,
    ⟨"wallet", "withdrawal", 0, 9000, 30, none, some "d1:0", some "w1"⟩]⟩

/-- The order of the lines takes the fee out of the listing. -/
theorem earlyReport_fee_lost :
    ((walletLines chargedReport).filterMap lineKey).Nodup ∧
      ((walletLines chargedReport).filterMap chargedTo).Nodup ∧
      earlyReport.events.Perm chargedReport.events ∧
      lastFee "w1" (walletLines chargedReport) = 141 ∧
      ∃ deposit withdrawal,
        parseIncome (IncomeReport.codec.write earlyReport).compact = .ok [deposit, withdrawal] ∧
        withdrawal.txHash = "w1" ∧ withdrawal.totalFees = 0 ∧
        parseIncome (IncomeReport.codec.write chargedReport).compact =
          .ok [deposit, { withdrawal with totalFees := 141 }] := by
  have listedEarly : transactions earlyReport =
      [⟨"d1", .receive, 9000, 0, none, 0, 20, ""⟩, ⟨"w1", .send, 9000, 0, none, 0, 30, ""⟩] := by
    decide +kernel
  have listed : transactions chargedReport =
      [⟨"d1", .receive, 9000, 0, none, 0, 20, ""⟩,
        ⟨"w1", .send, 9000, 141, none, 0, 30, ""⟩] := by
    decide +kernel
  refine ⟨by decide +kernel, by decide +kernel, by decide +kernel, by decide +kernel,
    ⟨"d1", .receive, 9000, 0, none, 0, 20, ""⟩, ⟨"w1", .send, 9000, 0, none, 0, 30, ""⟩, ?_, rfl,
    rfl, ?_⟩
  · rw [parseIncome, IncomeReport.decodeText_compact, ← listedEarly]
  · rw [parseIncome, IncomeReport.decodeText_compact, ← listed]

end LightningGateway.Daemon.Bookkeeping
