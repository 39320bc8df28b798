import LightningGateway.Proofs.Settlements
import LightningGateway.Proofs.Turns

/-!
# One wait after another

Nothing is known of the answers that waits get: an invoice may come without a settle index, with one
that has come before or with a smaller one, and any wait may fail. Still each wait begins at the
largest index that is known by then, the baseline included. What a wait brings is handed out before
the next one begins, and the first failure is the last item.
-/

namespace LightningGateway

namespace Settlement

/-- A wait that has ended. -/
structure Wait where
  /-- The index after which the next settlement was waited for. -/
  index : UInt64
  result : Except Failure Invoice

/-- The settle index that a wait has brought. -/
def Wait.settleIndex (wait : Wait) : Option UInt64 :=
  match wait.result with
  | .ok invoice => invoice.settleIndex
  | .error _ => none

/-- The largest index among a baseline and those that some waits have brought. -/
def highest (baseline : UInt64) (waits : List Wait) : UInt64 :=
  (waits.filterMap Wait.settleIndex).foldl max baseline

/-- How waits are answered. An answer may depend on the waits before. -/
abbrev Answerer := List Wait → UInt64 → Except Failure Invoice

/-- Waits for an answer, and writes the wait down. -/
def Answerer.wait (answerer : Answerer) (index : UInt64) :
    StateM (List Wait) (Except Failure Invoice) :=
  modifyGet fun waits => (answerer waits index, waits ++ [⟨index, answerer waits index⟩])

/-- A subscription with what has come of it. -/
structure Course where
  /-- The index to wait after, `none` once a wait has failed. -/
  stage : Option UInt64
  turns : List (Turn (Except Failure Invoice))
  waits : List Wait

/-- Takes a turn. -/
def Course.poll (answerer : Answerer) (course : Course) : Course :=
  match (turn answerer.wait course.stage).run course.waits with
  | ((brought, stage), waits) => ⟨stage, course.turns ++ [brought], waits⟩

/-- A subscription after a number of turns. -/
def course (answerer : Answerer) (baseline : UInt64) : Nat → Course
  | 0 => ⟨some baseline, [], []⟩
  | count + 1 => (course answerer baseline count).poll answerer

variable {answerer : Answerer} {baseline : UInt64}

/-! ### The largest index -/

theorem highest_append (baseline : UInt64) (waits more : List Wait) :
    highest baseline (waits ++ more) = highest (highest baseline waits) more := by
  rw [highest, List.filterMap_append, List.foldl_append]
  rfl

theorem highest_append_ok (waits : List Wait) (index : UInt64) (invoice : Invoice) :
    highest baseline (waits ++ [⟨index, .ok invoice⟩]) =
      advance (highest baseline waits) invoice := by
  rw [highest_append, advance]
  cases settled : invoice.settleIndex with
  | none =>
      have same (index : UInt64) : max index index = index := by
        rw [instMaxUInt64, maxOfLe]
        exact ite_self index
      simp [highest, Wait.settleIndex, settled, same]
  | some settleIndex => simp [highest, Wait.settleIndex, settled]

theorem le_highest (baseline : UInt64) (waits : List Wait) : baseline ≤ highest baseline waits :=
  UInt64.not_lt.mp fun less => UInt64.lt_irrefl _ (Word.foldl_max_lt_iff.mp less).1

theorem highest_mono {first second : List Wait} (begins : first <+: second) :
    highest baseline first ≤ highest baseline second := by
  obtain ⟨more, rfl⟩ := begins
  rw [highest_append]
  exact le_highest _ more

/-! ### One turn -/

/-- The index to wait after, once a wait has ended. -/
def following (last : UInt64) : Except Failure Invoice → Option UInt64
  | .ok invoice => some (advance last invoice)
  | .error _ => none

theorem poll_waiting (last : UInt64) (turns : List (Turn (Except Failure Invoice)))
    (waits : List Wait) :
    Course.poll answerer ⟨some last, turns, waits⟩ =
      ⟨following last (answerer waits last), turns ++ [.item (answerer waits last)],
        waits ++ [⟨last, answerer waits last⟩]⟩ := by
  have run (result : Except Failure Invoice) (waits : List Wait) :
      (match result with
        | .ok invoice => pure (.item (.ok invoice), some (advance last invoice))
        | .error failure => pure (.item (.error failure), none) :
        StateM (List Wait) (Turn (Except Failure Invoice) × Option UInt64)).run waits =
        ((.item result, following last result), waits) := by
    cases result <;> rfl
  have turned : (turn answerer.wait (some last)).run waits =
      ((.item (answerer waits last), following last (answerer waits last)),
        waits ++ [⟨last, answerer waits last⟩]) := run _ _
  rw [Course.poll, turned]

theorem poll_ended (turns : List (Turn (Except Failure Invoice))) (waits : List Wait) :
    Course.poll answerer ⟨none, turns, waits⟩ = ⟨none, turns ++ [.ended], waits⟩ := rfl

/-! ### Any number of turns -/

/-- Each wait began at the largest index that was known by then, and got the answer of that time. -/
def Climbs (answerer : Answerer) (baseline : UInt64) (waits : List Wait) : Prop :=
  ∀ before wait after, waits = before ++ wait :: after →
    wait.index = highest baseline before ∧ wait.result = answerer before wait.index

theorem eq_or_exists_of_concat {α : Type} {list before after : List α} {last value : α}
    (split : list ++ [last] = before ++ value :: after) :
    list = before ∧ last = value ∧ after = [] ∨ ∃ rest, list = before ++ value :: rest := by
  rcases List.eq_nil_or_concat after with rfl | ⟨rest, final, rfl⟩
  · obtain ⟨rfl, same⟩ := List.append_inj' split rfl
    exact .inl ⟨rfl, List.singleton_inj.mp same, rfl⟩
  · rw [List.concat_eq_append, ← List.cons_append, ← List.append_assoc] at split
    exact .inr ⟨rest, (List.append_inj' split rfl).1⟩

theorem Climbs.concat {waits : List Wait} (climbs : Climbs answerer baseline waits) :
    Climbs answerer baseline (waits ++
      [⟨highest baseline waits, answerer waits (highest baseline waits)⟩]) := by
  intro before wait after split
  rcases eq_or_exists_of_concat split with ⟨rfl, rfl, -⟩ | ⟨rest, earlier⟩
  · exact ⟨rfl, rfl⟩
  · exact climbs before wait rest earlier

theorem Climbs.of_concat {waits : List Wait} {last : Wait}
    (climbs : Climbs answerer baseline (waits ++ [last])) : Climbs answerer baseline waits :=
  fun before wait after split => climbs before wait (after ++ [last]) (by simp [split])

theorem Climbs.pairwise {waits : List Wait} (climbs : Climbs answerer baseline waits) :
    (waits.map Wait.index).Pairwise (· ≤ ·) := by
  induction waits using List.reverseRecOn with
  | nil => exact .nil
  | append_singleton waits last ih =>
      rw [List.map_append, List.pairwise_append]
      refine ⟨ih climbs.of_concat, List.pairwise_singleton .., ?_⟩
      intro index earlier final itself
      obtain ⟨wait, member, rfl⟩ := List.mem_map.mp earlier
      obtain ⟨before, after, split⟩ := List.append_of_mem member
      have first := (climbs before wait (after ++ [last]) (by simp [split])).1
      have second := (climbs waits last [] rfl).1
      rw [List.mem_singleton.mp itself, first, second, split]
      exact highest_mono (List.prefix_append before _)

/-- Where a subscription stands after a number of turns: it waits as long as all waits have brought
an invoice, and after a failure its turns are over. -/
inductive Stands (baseline : UInt64) (count : Nat) : Course → Prop where
  | waiting {waits : List Wait} (successful : ∀ wait ∈ waits, ∃ invoice, wait.result = .ok invoice)
      (counted : waits.length = count) :
      Stands baseline count
        ⟨some (highest baseline waits), waits.map fun wait => .item wait.result, waits⟩
  | failed {waits : List Wait} {last : Wait} {failure : Failure} {idle : Nat}
      (successful : ∀ wait ∈ waits, ∃ invoice, wait.result = .ok invoice)
      (failing : last.result = .error failure) (counted : waits.length + 1 + idle = count) :
      Stands baseline count
        ⟨none, (waits ++ [last]).map (fun wait => .item wait.result) ++ List.replicate idle .ended,
          waits ++ [last]⟩

theorem Stands.poll {count : Nat} {course : Course} (stands : Stands baseline count course) :
    Stands baseline (count + 1) (course.poll answerer) := by
  cases stands with
  | @waiting waits successful counted =>
      rw [poll_waiting]
      cases result : answerer waits (highest baseline waits) with
      | ok invoice =>
          have stillSuccessful : ∀ wait ∈ waits ++ [⟨highest baseline waits, .ok invoice⟩],
              ∃ invoice, wait.result = .ok invoice := by
            intro wait member
            rcases List.mem_append.mp member with earlier | itself
            · exact successful wait earlier
            · exact ⟨invoice, congrArg Wait.result (List.mem_singleton.mp itself)⟩
          have stands : Stands baseline (count + 1) _ :=
            .waiting stillSuccessful (by rw [List.length_append, counted, List.length_singleton])
          rwa [List.map_append, highest_append_ok] at stands
      | error failure =>
          have stands : Stands baseline (count + 1) _ :=
            @Stands.failed baseline (count + 1) waits ⟨highest baseline waits, .error failure⟩
              failure 0 successful rfl (congrArg (· + 1) counted)
          rwa [List.map_append, List.replicate_zero, List.append_nil] at stands
  | @failed waits last failure idle successful failing counted =>
      have stands : Stands baseline (count + 1) _ :=
        @Stands.failed baseline (count + 1) waits last failure (idle + 1) successful failing
          (congrArg (· + 1) counted)
      rw [List.replicate_succ', ← List.append_assoc] at stands
      rw [poll_ended]
      exact stands

theorem Climbs.poll {count : Nat} {course : Course} (climbs : Climbs answerer baseline course.waits)
    (stands : Stands baseline count course) :
    Climbs answerer baseline (course.poll answerer).waits := by
  cases stands with
  | waiting successful counted =>
      rw [poll_waiting]
      exact climbs.concat
  | failed successful failing counted => exact climbs

theorem stands_course (answerer : Answerer) (baseline : UInt64) (count : Nat) :
    Stands baseline count (course answerer baseline count) ∧
      Climbs answerer baseline (course answerer baseline count).waits := by
  induction count with
  | zero =>
      refine ⟨@Stands.waiting baseline 0 [] nofun rfl, ?_⟩
      intro before wait after split
      cases (List.append_eq_nil_iff.mp split.symm).2
  | succ count ih => exact ⟨ih.1.poll, ih.2.poll ih.1⟩

/-- A wait that has failed is the last one. -/
theorem Stands.ends {count : Nat} {course : Course} (stands : Stands baseline count course)
    {before after : List Wait} {wait : Wait} {failure : Failure}
    (split : course.waits = before ++ wait :: after) (failed : wait.result = .error failure) :
    after = [] := by
  have unlisted {waits : List Wait}
      (successful : ∀ wait ∈ waits, ∃ invoice, wait.result = .ok invoice) : wait ∉ waits := by
    intro member
    obtain ⟨invoice, brought⟩ := successful wait member
    cases failed.symm.trans brought
  cases stands with
  | @waiting waits successful counted =>
      have listed : waits = before ++ wait :: after := split
      refine absurd ?_ (unlisted successful)
      rw [listed]
      exact List.mem_append_right before List.mem_cons_self
  | failed successful failing counted =>
      rcases eq_or_exists_of_concat split with ⟨-, -, ended⟩ | ⟨rest, earlier⟩
      · exact ended
      · refine absurd ?_ (unlisted successful)
        rw [earlier]
        exact List.mem_append_right before List.mem_cons_self

/-- Each turn makes a wait and hands out what it has brought, until a wait fails. -/
theorem Stands.turns_eq {count : Nat} {course : Course} (stands : Stands baseline count course) :
    course.waits.length ≤ count ∧
      course.turns = course.waits.map (fun wait => .item wait.result) ++
        List.replicate (count - course.waits.length) .ended ∧
      (course.waits.length < count → ∃ wait failure,
        course.waits.getLast? = some wait ∧ wait.result = .error failure) := by
  cases stands with
  | waiting successful counted =>
      refine ⟨Nat.le_of_eq counted, ?_, fun fewer => absurd counted (Nat.ne_of_lt fewer)⟩
      rw [counted, Nat.sub_self, List.replicate_zero, List.append_nil]
  | @failed waits last failure idle successful failing counted =>
      have length : (waits ++ [last]).length = waits.length + 1 := List.length_append
      have left : count - (waits ++ [last]).length = idle := by omega
      refine ⟨?_, ?_, fun _ => ⟨last, failure, List.getLast?_concat, failing⟩⟩
      · change (waits ++ [last]).length ≤ count
        omega
      · rw [left]

/-- However waits are answered, each one begins at the largest index among the baseline and those
that were handed out before, so that no wait goes back. Each turn hands out what its wait has
brought, until a wait fails; after that no more waits are made and nothing more is handed out. -/
theorem waits_after_highest (answerer : Answerer) (baseline : UInt64) (count : Nat) :
    let course := course answerer baseline count
    (∀ before wait after, course.waits = before ++ wait :: after →
        wait.index = highest baseline before ∧ wait.result = answerer before wait.index ∧
          ∀ failure, wait.result = .error failure → after = []) ∧
      (course.waits.map Wait.index).Pairwise (· ≤ ·) ∧
      course.waits.length ≤ count ∧
      course.turns = course.waits.map (fun wait => .item wait.result) ++
        List.replicate (count - course.waits.length) .ended ∧
      (course.waits.length < count → ∃ wait failure,
        course.waits.getLast? = some wait ∧ wait.result = .error failure) := by
  intro course
  obtain ⟨stands, climbs⟩ := stands_course answerer baseline count
  refine ⟨?_, climbs.pairwise, stands.turns_eq⟩
  intro before wait after split
  obtain ⟨index, result⟩ := climbs before wait after split
  exact ⟨index, result, fun failure failed => stands.ends split failed⟩

/-- An invoice that was settled. -/
def settledInvoice (settleIndex : Option UInt64) : Invoice :=
  { paymentRequest := none, paymentHash := "00", memo := "", label := "tea", value := some 1000,
    amountPaid := 1000, expiryDate := 60, settleDate := some 30, addIndex := 1, settleIndex,
    isKeysend := false, state := .settled }

/-- The second invoice has no index, the third has the index of the first, the fourth a smaller one.
After the fifth the connection is lost. -/
def bumpyAnswers : Answerer := fun waits _ =>
  match [some 8, none, some 8, some 5, some 9][waits.length]? with
  | some settleIndex => .ok (settledInvoice settleIndex)
  | none => .error ⟨.unavailable, "gone"⟩

theorem waits_after_highest_bumpy :
    let course := course bumpyAnswers 7 8
    course.waits.map Wait.index = [7, 8, 8, 8, 8, 9] ∧
      highest 7 (course.waits.take 5) = 9 ∧
      (course.waits.map Wait.index).Pairwise (· ≤ ·) ∧
      course.turns = course.waits.map (fun wait => .item wait.result) ++ [.ended, .ended] ∧
      (∃ wait failure, course.waits.getLast? = some wait ∧ wait.result = .error failure) := by
  intro course
  obtain ⟨begun, climbing, -, turns, failed⟩ := waits_after_highest bumpyAnswers 7 8
  exact ⟨by decide, (begun (course.waits.take 5) ⟨9, .error ⟨.unavailable, "gone"⟩⟩ [] rfl).1.symm,
    climbing, turns, failed (by decide)⟩

end Settlement

/-! ### The subscription of the gateway -/

namespace InvoiceFeed

open Daemon (ReportedInvoice)
open Gateway (classified reading)

variable {ω : Type} (answer : Surroundings ω) (handle : Handle) (world : ω)

/-- What a wait asks. -/
abbrev waitQuery (index : UInt64) : Query :=
  .call handle "waitanyinvoice" (.object [("lastpay_index", .ofWord index)])

/-- The surroundings after some waits. -/
def worldAfter (waits : List Settlement.Wait) : ω :=
  waits.foldl (fun world wait => (answer (waitQuery handle wait.index) world).2) world

/-- How the surroundings answer a wait. -/
def awaited (index : UInt64) (world : ω) : Except Failure Invoice :=
  (classified .listenInvoices (reading ReportedInvoice.codec
    (answer (waitQuery handle index) world).1)).map ReportedInvoice.toInvoice

def answerer : Settlement.Answerer := fun waits index =>
  awaited answer handle index (worldAfter answer handle world waits)

variable {answer handle} {session : Session}

theorem next_waiting (settings : Settings) (connected : session.link.transport = .ok handle)
    (last : UInt64) (world : ω) :
    Taken.next (turn settings) answer (.waiting (some last)) session world =
      (⟨[waitQuery handle last], .item (awaited answer handle last world)⟩,
        .waiting (Settlement.following last (awaited answer handle last world)), session,
        (answer (waitQuery handle last) world).2) := by
  have brings (result : Except Failure ReportedInvoice) :
      woken last result = (.item (result.map ReportedInvoice.toInvoice),
        .waiting (Settlement.following last (result.map ReportedInvoice.toInvoice))) := by
    cases result <;> rfl
  have called := Gateway.outcome_call_connected (Surroundings.noting answer) settings session
    (world, []) .listenInvoices ReportedInvoice.codec "waitanyinvoice"
    (.object [("lastpay_index", .ofWord last)]) connected
  unfold Gateway.outcome at called
  rw [Taken.next, turn_waiting, Dialogue.run_map, called, brings]
  rfl

theorem next_over (settings : Settings) (session : Session) (world : ω) :
    Taken.next (turn settings) answer (.waiting none) session world =
      (⟨[], .ended⟩, .waiting none, session, world) := rfl

/-- On a connection, the subscription of the gateway makes these waits and no other call. -/
theorem history_eq_course (settings : Settings) (connected : session.link.transport = .ok handle)
    (baseline : UInt64) (world : ω) (count : Nat) :
    let course := Settlement.course (answerer answer handle world) baseline count
    ∃ turns, Taken.history (turn settings) answer count (.waiting (some baseline)) session world =
        (turns, .waiting course.stage, session, worldAfter answer handle world course.waits) ∧
      turns.map Taken.brought = course.turns ∧
      turns.flatMap Taken.asked = course.waits.map fun wait => waitQuery handle wait.index := by
  induction count with
  | zero => exact ⟨[], rfl, rfl, rfl⟩
  | succ count ih =>
      obtain ⟨turns, before, brought, asked⟩ := ih
      rw [Settlement.course, Taken.history_add before]
      rcases stood : Settlement.course (answerer answer handle world) baseline count with
        ⟨stage, items, waits⟩
      rw [stood] at brought asked
      cases stage with
      | none =>
          rw [Taken.history_succ (next_over settings session _), Settlement.poll_ended]
          exact ⟨turns ++ [⟨[], .ended⟩], rfl, by simp [brought], by simp [asked]⟩
      | some last =>
          rw [Taken.history_succ (next_waiting settings connected last _),
            Settlement.poll_waiting]
          let result := awaited answer handle last (worldAfter answer handle world waits)
          refine ⟨turns ++ [⟨[waitQuery handle last], .item result⟩], ?_, ?_, by simp [asked]⟩
          · simp only [worldAfter, List.foldl_append]
            rfl
          · rw [List.map_append, brought]
            rfl

end InvoiceFeed

end LightningGateway
