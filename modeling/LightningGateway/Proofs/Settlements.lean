import LightningGateway.Gateway.Subscriptions
import LightningGateway.Proofs.Codecs
import LightningGateway.Proofs.Watching

/-!
# The subscription to settlements

The daemon numbers invoices in the order in which they are settled. Invoices may be settled at
any time: before the subscription looks at what is known, between this look and the first wait,
while a wait stands or between two waits. The subscription hands out exactly the invoices with a
number above the highest one of its first look, each once and in the order of their numbers.
-/

namespace LightningGateway

open Daemon (ReportedInvoice InvoiceListing)
open Gateway (classified reading)

/-! ### The largest of some words -/

namespace Word

theorem max_lt_iff {left right bound : UInt64} :
    max left right < bound ↔ left < bound ∧ right < bound := by
  rw [instMaxUInt64, maxOfLe]
  dsimp only
  split <;> grind

theorem foldl_max_lt_iff {words : List UInt64} {start bound : UInt64} :
    words.foldl max start < bound ↔ start < bound ∧ ∀ word ∈ words, word < bound := by
  induction words generalizing start with
  | nil => simp
  | cons word rest ih => rw [List.foldl_cons, ih, max_lt_iff, List.forall_mem_cons, and_assoc]

theorem foldl_max_congr {first second : List UInt64}
    (same : ∀ word, word ∈ first ↔ word ∈ second) (start : UInt64) :
    first.foldl max start = second.foldl max start := by
  have below (bound : UInt64) :
      first.foldl max start < bound ↔ second.foldl max start < bound := by
    simp only [foldl_max_lt_iff, same]
  refine UInt64.le_antisymm (UInt64.not_lt.mp fun less => ?_) (UInt64.not_lt.mp fun less => ?_)
  · exact UInt64.lt_irrefl _ ((below _).mpr less)
  · exact UInt64.lt_irrefl _ ((below _).mp less)

end Word

/-! ### Replies about invoices -/

namespace Daemon

theorem ReportedInvoice.faithful_codec : ReportedInvoice.codec.Faithful := by
  have text := Codec.faithful_text.optional fun _ => nofun
  have word := Codec.faithful_word64.optional fun _ => nofun
  have status : InvoiceStatus.codec.Faithful := Codec.faithful_enumeration fun
    | .unpaid => rfl
    | .paid => rfl
    | .expired => rfl
  refine Codec.faithful_record ?_ fun _ => rfl
  simp [ReportedInvoice.layout, Layout.Faithful, Layout.required, Layout.defaulted, Layout.names,
    text, word, status, Codec.faithful_text, Codec.faithful_word64, Amount.faithful_anyCodec]

theorem InvoiceListing.faithful_codec : InvoiceListing.codec.Faithful :=
  Codec.faithful_record ⟨ReportedInvoice.faithful_codec.list, by simp [Layout.names],
    trivial⟩ fun _ => rfl

end Daemon

/-! ### The ledger -/

/-- The number under which an invoice was settled. -/
def Daemon.ReportedInvoice.number (invoice : ReportedInvoice) : UInt64 := invoice.payIndex.getD 0

/-- The invoices of a daemon. The settled ones have positive numbers, in the order in which they
were settled. -/
structure Ledger where
  settled : List ReportedInvoice
  others : List ReportedInvoice
  paid : ∀ invoice ∈ settled, invoice.status = .paid
  unpaid : ∀ invoice ∈ others, invoice.status ≠ .paid
  positive : ∀ invoice ∈ settled, 0 < invoice.number
  ascending : settled.Pairwise fun earlier later => earlier.number < later.number

namespace Ledger

/-- The highest number, zero if there is none. -/
def highest (invoices : List ReportedInvoice) : UInt64 :=
  (invoices.map ReportedInvoice.number).foldl max 0

/-- The settled invoices with numbers above a given one. -/
def settledAfter (ledger : Ledger) (last : UInt64) : List ReportedInvoice :=
  ledger.settled.filter fun invoice => last < invoice.number

/-- The invoices with numbers above the highest one of a snapshot. -/
def since (ledger snapshot : Ledger) : List ReportedInvoice :=
  ledger.settledAfter (highest snapshot.settled)

theorem highest_append (invoices : List ReportedInvoice) (invoice : ReportedInvoice) :
    highest (invoices ++ [invoice]) = max (highest invoices) invoice.number := by
  simp [highest]

theorem highest_lt_iff {invoices : List ReportedInvoice} {number : UInt64} :
    highest invoices < number ↔ 0 < number ∧ ∀ invoice ∈ invoices, invoice.number < number := by
  rw [highest, Word.foldl_max_lt_iff, List.forall_mem_map]

/-- After the highest number of the first invoices come the others. -/
theorem settledAfter_highest (ledger : Ledger) {seen : List ReportedInvoice}
    (happened : seen <+: ledger.settled) :
    ledger.settledAfter (highest seen) = ledger.settled.drop seen.length := by
  obtain ⟨rest, whole⟩ := happened
  have ascending := ledger.ascending
  have positive := ledger.positive
  rw [← whole, List.pairwise_append] at ascending
  rw [← whole] at positive
  have before : seen.filter (fun invoice => highest seen < invoice.number) = [] := by
    rw [List.filter_eq_nil_iff]
    intro invoice member above
    have itself := (highest_lt_iff.mp (of_decide_eq_true above)).2 invoice member
    exact absurd itself (UInt64.lt_irrefl _)
  have after : rest.filter (fun invoice => highest seen < invoice.number) = rest := by
    rw [List.filter_eq_self]
    intro invoice member
    exact decide_eq_true (highest_lt_iff.mpr ⟨positive invoice (List.mem_append_right seen member),
      fun earlier known => ascending.2.2 earlier known invoice member⟩)
  rw [settledAfter, ← whole, List.filter_append, before, after, List.nil_append, List.drop_left]

/-- The next settled invoice follows those that were seen. -/
theorem append_prefix_of_next (ledger : Ledger) {seen : List ReportedInvoice}
    {invoice : ReportedInvoice} (happened : seen <+: ledger.settled)
    (next : (ledger.settledAfter (highest seen)).head? = some invoice) :
    seen ++ [invoice] <+: ledger.settled := by
  rw [settledAfter_highest ledger happened] at next
  obtain ⟨rest, whole⟩ := happened
  rw [← whole, List.drop_left] at next
  obtain ⟨others, rfl⟩ := List.head?_eq_some_iff.mp next
  exact ⟨others, by rw [List.append_assoc, List.singleton_append, whole]⟩

end Ledger

/-! ### What is known at the first look -/

namespace Daemon.ReportedInvoice

theorem toInvoice_of_paid {invoice : ReportedInvoice} (paid : invoice.status = .paid) :
    (invoice.toInvoice.state == .settled) = true ∧
      invoice.toInvoice.settleIndex = invoice.payIndex := by
  have settled : invoice.state = .settled := by rw [state, paid]
  simp only [toInvoice, settled]
  exact ⟨rfl, rfl⟩

theorem toInvoice_of_unpaid {invoice : ReportedInvoice} (unpaid : invoice.status ≠ .paid) :
    (invoice.toInvoice.state == .settled) = false := by
  change (invoice.state == .settled) = false
  rw [state]
  cases status : invoice.status with
  | paid => exact absurd status unpaid
  | _ => rfl

theorem payIndex_of_positive {invoice : ReportedInvoice} (positive : 0 < invoice.number) :
    invoice.payIndex = some invoice.number := by
  rw [number] at positive ⊢
  cases index : invoice.payIndex with
  | none => simp [index] at positive
  | some index => rfl

/-- The index to wait after, once a settled invoice was handed out. -/
theorem advance_toInvoice {invoice : ReportedInvoice} (paid : invoice.status = .paid)
    (positive : 0 < invoice.number) (last : UInt64) :
    Settlement.advance last invoice.toInvoice = max last invoice.number := by
  rw [Settlement.advance, (toInvoice_of_paid paid).2, payIndex_of_positive positive,
    Option.getD_some]

end Daemon.ReportedInvoice

/-- The listing may come in any order, and invoices that are not paid do not count. -/
theorem Ledger.baseline_eq_highest (ledger : Ledger) {invoices : List ReportedInvoice}
    (all : invoices.Perm (ledger.settled ++ ledger.others)) :
    Settlement.baseline (invoices.map ReportedInvoice.toInvoice) = highest ledger.settled := by
  refine Word.foldl_max_congr (fun word => ?_) 0
  simp only [Settlement.indexes, List.mem_filterMap, List.mem_filter, List.mem_map]
  constructor
  · rintro ⟨_, ⟨⟨invoice, member, rfl⟩, settled⟩, index⟩
    rcases List.mem_append.mp (all.mem_iff.mp member) with paid | unpaid
    · rw [(invoice.toInvoice_of_paid (ledger.paid invoice paid)).2,
        invoice.payIndex_of_positive (ledger.positive invoice paid)] at index
      exact ⟨invoice, paid, Option.some.inj index⟩
    · rw [invoice.toInvoice_of_unpaid (ledger.unpaid invoice unpaid)] at settled
      cases settled
  · rintro ⟨invoice, paid, rfl⟩
    obtain ⟨settled, index⟩ := invoice.toInvoice_of_paid (ledger.paid invoice paid)
    rw [invoice.payIndex_of_positive (ledger.positive invoice paid)] at index
    exact ⟨_, ⟨⟨invoice, all.mem_iff.mpr (List.mem_append_left _ paid), rfl⟩, settled⟩, index⟩

/-! ### Answers of the daemon -/

namespace Ledger

/-- A listing holds all invoices in some order. It may fail if faults are possible. -/
def Lists (faults : Prop) (ledger : Ledger) : Except TransportError InvoiceListing → Prop
  | .ok listing => listing.invoices.Perm (ledger.settled ++ ledger.others)
  | .error _ => faults

/-- A wait brings the first settled invoice after a number, once there is one. It may fail if
faults are possible. -/
def Brings (faults : Prop) (ledger : Ledger) (last : UInt64) :
    Except TransportError ReportedInvoice → Prop
  | .ok invoice => (ledger.settledAfter last).head? = some invoice
  | .error _ => faults

/-- The answers of a daemon about its invoices. -/
def Answers (faults : Prop) : Answered → Ledger → Prop
  | ⟨.call _ method parameters, reply⟩, ledger =>
      method = "listinvoices" ∧ parameters = .object [] ∧
          ledger.Lists faults (reading InvoiceListing.codec reply) ∨
        method = "waitanyinvoice" ∧ ∃ last,
          parameters = .object [("lastpay_index", .ofWord last)] ∧
            ledger.Brings faults last (reading ReportedInvoice.codec reply)
  | _, _ => False

/-- A daemon that settles invoices at any time. If faults are possible, calls may fail and the
connection may be lost. -/
def milieu (faults : Prop) : Milieu Ledger where
  finds := Session.Usable faults
  changes before after := before.settled <+: after.settled
  answers := Answers faults

end Ledger

theorem Json.ofWord_injective {first second : UInt64} (same : ofWord first = ofWord second) :
    first = second := by
  have value : (first.toNat : Int) = second.toNat := by simpa [ofWord, ofNat] using same
  exact UInt64.toNat_inj.mp (Int.ofNat_inj.mp value)

/-! ### Turns -/

/-- The method of a call. -/
def Query.method? : Query → Option String
  | call _ method _ => some method
  | _ => none

namespace InvoiceFeed

/-- What the first look brings. -/
def looked : Except Failure InvoiceListing → Turn (Except Failure Invoice) × InvoiceFeed
  | .ok listing =>
      (.quiet,
        .waiting (some (Settlement.baseline (listing.invoices.map ReportedInvoice.toInvoice))))
  | .error failure => (.item (.error failure), .waiting none)

/-- What a wait brings. -/
def woken (last : UInt64) :
    Except Failure ReportedInvoice → Turn (Except Failure Invoice) × InvoiceFeed
  | .ok invoice =>
      (.item (.ok invoice.toInvoice),
        .waiting (some (Settlement.advance last invoice.toInvoice)))
  | .error failure => (.item (.error failure), .waiting none)

theorem turn_starting (settings : Settings) :
    turn settings .starting = looked <$> (Gateway.call .listenInvoices InvoiceListing.codec
      "listinvoices" (.object [])).toDialogue settings := by
  rw [turn, Gateway.fetchInvoices, Gateway.toDialogue_map_bind, map_eq_pure_bind]
  congr
  funext result
  cases result <;> rfl

theorem turn_waiting (settings : Settings) (last : UInt64) :
    turn settings (.waiting (some last)) = woken last <$> (Gateway.call .listenInvoices
      ReportedInvoice.codec "waitanyinvoice"
      (.object [("lastpay_index", .ofWord last)])).toDialogue settings := by
  simp only [turn, Settlement.turn, Gateway.waitForSettlement, Gateway.toDialogue_map_bind,
    bind_assoc, map_eq_pure_bind]
  congr
  funext result
  cases result <;> rfl

/-- The first look at what is known. -/
def look (handle : Handle) :
    Dialogue.Halt Session (Turn (Except Failure Invoice) × InvoiceFeed) :=
  .asking (.call handle "listinvoices" (.object [])) fun reply =>
    .done (looked (classified .listenInvoices (reading InvoiceListing.codec reply)))

/-- A wait for the next settlement. -/
def wait (handle : Handle) (last : UInt64) :
    Dialogue.Halt Session (Turn (Except Failure Invoice) × InvoiceFeed) :=
  .asking (.call handle "waitanyinvoice" (.object [("lastpay_index", .ofWord last)]))
    fun reply =>
      .done (woken last (classified .listenInvoices (reading ReportedInvoice.codec reply)))

theorem advance_starting (settings : Settings) (session : Session) :
    (turn settings .starting).advance session =
      match session.link.transport with
      | .ok handle => (look handle, session)
      | .error failure => (.ended (.item (.error failure), .waiting none), session) := by
  rw [turn_starting, Gateway.advance_map_call]
  rfl

theorem advance_waiting (settings : Settings) (last : UInt64) (session : Session) :
    (turn settings (.waiting (some last))).advance session =
      match session.link.transport with
      | .ok handle => (wait handle last, session)
      | .error failure => (.ended (.item (.error failure), .waiting none), session) := by
  rw [turn_waiting, Gateway.advance_map_call]
  rfl

/-! ### The course of the subscription -/

/-- What is around the subscription, and what has come of it. -/
abbrev Watching := Watch (Except Failure Invoice) InvoiceFeed Ledger

/-- A wait has brought an invoice. -/
def Brought : Answered → ReportedInvoice → Prop
  | ⟨.call _ method _, reply⟩, invoice =>
      method = "waitanyinvoice" ∧ reading ReportedInvoice.codec reply = .ok invoice
  | _, _ => False

/-- The invoices that waits have brought were seen. -/
def Offered (watch : Watching) (seen : List ReportedInvoice) : Prop :=
  ∀ answered ∈ watch.heard, ∀ invoice, Brought answered.1 invoice → invoice ∈ seen

/-- Invoices were handed out up to the last one that was seen, one for each wait that was
answered. -/
structure Handed (watch : Watching) (known seen : List ReportedInvoice) : Prop where
  follows : watch.Follows Ledger.settled ReportedInvoice.toInvoice known seen none
  offered : Offered watch seen
  calls : watch.heard.map (fun answered => answered.1.query.method?) =
    some "listinvoices" :: List.replicate watch.items.length (some "waitanyinvoice")

/-- A subscription between two turns. The number that it waits after is the highest one among the
invoices that were known at first or handed out since. -/
structure Resting (watch : Watching) (known seen : List ReportedInvoice) : Prop
    extends Handed watch known seen where
  idle : ∃ brought, watch.halt = .ended (brought, .waiting (some (Ledger.highest seen)))

/-- Where a subscription may stand. -/
inductive Stands (faults : Prop) (watch : Watching) : Prop where
  | starting (idle : watch.halt = .ended (.quiet, .starting)) (unheard : watch.heard = [])
      (empty : watch.items = [])
  | looking {handle : Handle} (asks : watch.halt = look handle) (unheard : watch.heard = [])
      (empty : watch.items = [])
  | resting {known seen : List ReportedInvoice} (rests : Resting watch known seen)
  | waiting {handle : Handle} {known seen : List ReportedInvoice}
      (asks : watch.halt = wait handle (Ledger.highest seen)) (handed : Handed watch known seen)
  | failed {brought : Turn (Except Failure Invoice)} {known seen : List ReportedInvoice}
      {failure : Failure} (faulty : faults) (ended : watch.halt = .ended (brought, .waiting none))
      (follows : watch.Follows Ledger.settled ReportedInvoice.toInvoice known seen (some failure))
      (offered : Offered watch seen)

variable {faults : Prop} {settings : Settings} {watch : Watching}
  {known seen : List ReportedInvoice}

theorem Offered.unheard (unheard : watch.heard = []) : Offered watch seen := by
  intro answered heard
  rw [unheard] at heard
  cases heard

/-- What an answer brings is seen, and what was seen before is not forgotten. -/
theorem Offered.hear (offered : Offered watch known) {answered : Answered}
    (kept : known ⊆ seen) (brings : ∀ invoice, Brought answered invoice → invoice ∈ seen) :
    Offered (watch.hear answered) seen := by
  intro other heard invoice brought
  rcases List.mem_append.mp heard with earlier | now
  · exact kept (offered other earlier invoice brought)
  · rw [List.mem_singleton.mp now] at brought
    exact brings invoice brought

/-- The first look is not a wait. -/
theorem Offered.look (unheard : watch.heard = []) (handle : Handle) (parameters : Json)
    (reply : Except TransportError Json) :
    Offered (watch.hear ⟨.call handle "listinvoices" parameters, reply⟩) seen := by
  refine (Offered.unheard unheard).hear (List.Subset.refl seen) ?_
  rintro invoice ⟨different, -⟩
  exact absurd different (by decide)

theorem Handed.passes (handed : Handed watch known seen) (session : Session) {world : Ledger}
    (grown : watch.world.settled <+: world.settled) :
    Handed { watch with session, world } known seen :=
  ⟨handed.follows.passes session grown, handed.offered, handed.calls⟩

theorem Handed.goes_on (handed : Handed watch known seen)
    (halt : Dialogue.Halt Session (Turn (Except Failure Invoice) × InvoiceFeed))
    (session : Session) : Handed { watch with halt, session } known seen :=
  ⟨handed.follows.goes_on halt session, handed.offered, handed.calls⟩

theorem Handed.heard_ne_nil (handed : Handed watch known seen) : watch.heard ≠ [] := by
  intro unheard
  have calls := handed.calls
  rw [unheard] at calls
  cases calls

/-- Time passes. -/
theorem Stands.passes (stands : Stands faults watch) (session : Session) {world : Ledger}
    (grown : watch.world.settled <+: world.settled) :
    Stands faults { watch with session, world } := by
  cases stands with
  | starting idle unheard empty => exact .starting idle unheard empty
  | looking asks unheard empty => exact .looking asks unheard empty
  | resting rests => exact .resting ⟨rests.toHanded.passes session grown, rests.idle⟩
  | waiting asks handed => exact .waiting asks (handed.passes session grown)
  | failed faulty ended follows offered =>
      exact .failed faulty ended (follows.passes session grown) offered

/-- The subscription is polled for its next turn. -/
theorem Stands.polled (stands : Stands faults watch)
    (usable : watch.session.Usable faults)
    {brought : Turn (Except Failure Invoice)} {stage : InvoiceFeed}
    (idle : watch.halt = .ended (brought, stage)) :
    Stands faults (watch.resume (turn settings stage)) ∧
      (watch.resume (turn settings stage)).session = watch.session := by
  cases stands with
  | starting rests unheard empty =>
      cases rests.symm.trans idle
      have advanced := advance_starting settings watch.session
      cases connection : watch.session.link.transport with
      | ok handle =>
          rw [connection] at advanced
          rw [Watch.resume_silently advanced rfl]
          exact ⟨.looking rfl unheard empty, rfl⟩
      | error failure =>
          rw [connection] at advanced
          rw [Watch.resume_of_advance advanced]
          have follows := Watch.Follows.opened Ledger.settled ReportedInvoice.toInvoice
            unheard empty
          exact ⟨.failed (usable.faults_of_lost connection) rfl (follows.fail failure _ _)
            (.unheard unheard), rfl⟩
  | looking asks unheard empty =>
      rw [asks] at idle
      cases idle
  | @resting known seen rests =>
      obtain ⟨handed, brought, between⟩ := rests
      cases between.symm.trans idle
      have advanced := advance_waiting settings (Ledger.highest seen) watch.session
      cases connection : watch.session.link.transport with
      | ok handle =>
          rw [connection] at advanced
          rw [Watch.resume_silently advanced rfl]
          exact ⟨.waiting rfl (handed.goes_on _ _), rfl⟩
      | error failure =>
          rw [connection] at advanced
          rw [Watch.resume_of_advance advanced]
          exact ⟨.failed (usable.faults_of_lost connection) rfl
            (handed.follows.fail failure _ _) handed.offered, rfl⟩
  | waiting asks handed =>
      rw [asks] at idle
      cases idle
  | failed faulty ended follows offered =>
      cases ended.symm.trans idle
      have advanced : (turn settings (.waiting none)).advance watch.session =
          (.ended (.ended, .waiting none), watch.session) := rfl
      rw [Watch.resume_silently advanced rfl]
      exact ⟨.failed faulty rfl (follows.goes_on _ _) offered, rfl⟩

/-- The listing of the first look arrives. -/
theorem resting_of_listed (handle : Handle) (unheard : watch.heard = []) (empty : watch.items = [])
    {reply : Except TransportError Json} {listing : InvoiceListing}
    (read : reading InvoiceListing.codec reply = .ok listing)
    (listed : listing.invoices.Perm (watch.world.settled ++ watch.world.others)) :
    Resting ((watch.hear ⟨.call handle "listinvoices" (.object []), reply⟩).resume
        (.done (looked (classified .listenInvoices (reading InvoiceListing.codec reply)))))
      watch.world.settled watch.world.settled := by
  have follows := Watch.Follows.look Ledger.settled ReportedInvoice.toInvoice unheard empty
    ⟨.call handle "listinvoices" (.object []), reply⟩
  rw [read, Gateway.classified_ok, looked, watch.world.baseline_eq_highest listed,
    Watch.resume_quiet]
  refine ⟨⟨follows.goes_on _ _, .look unheard handle _ reply, ?_⟩, _, rfl⟩
  simp [Watch.hear, unheard, empty, Query.method?]

/-- A wait brings the next invoice. -/
theorem Handed.resting_of_brought (handed : Handed watch known seen) (handle : Handle)
    {reply : Except TransportError Json} {invoice : ReportedInvoice}
    (read : reading ReportedInvoice.codec reply = .ok invoice)
    (brought : (watch.world.settledAfter (Ledger.highest seen)).head? = some invoice) :
    Resting ((watch.hear ⟨.call handle "waitanyinvoice"
          (.object [("lastpay_index", .ofWord (Ledger.highest seen))]), reply⟩).resume
        (.done (woken (Ledger.highest seen)
          (classified .listenInvoices (reading ReportedInvoice.codec reply)))))
      known (seen ++ [invoice]) := by
  have next := watch.world.append_prefix_of_next handed.follows.happened brought
  have settled : invoice ∈ watch.world.settled :=
    next.subset (List.mem_append_right seen (List.mem_singleton_self invoice))
  have follows := handed.follows.hear handed.heard_ne_nil ⟨.call handle "waitanyinvoice"
    (.object [("lastpay_index", .ofWord (Ledger.highest seen))]), reply⟩
  rw [read, Gateway.classified_ok, woken, invoice.advance_toInvoice
    (watch.world.paid invoice settled) (watch.world.positive invoice settled),
    ← Ledger.highest_append, Watch.resume_item]
  refine ⟨⟨follows.hand next _ _, ?_, ?_⟩, _, rfl⟩
  · refine handed.offered.hear (List.subset_append_left seen [invoice]) fun other brought => ?_
    obtain rfl : invoice = other := Except.ok.inj (read.symm.trans brought.2)
    exact List.mem_append_right seen (List.mem_singleton_self invoice)
  · rw [Watch.hear, List.map_append, handed.calls, List.length_append, List.length_singleton,
      List.replicate_succ']
    rfl

/-- The subscription gets the answer to its question. -/
theorem Stands.answered (stands : Stands faults watch) {query : Query}
    {next : query.Reply → Dialogue Session (Turn (Except Failure Invoice) × InvoiceFeed)}
    {reply : query.Reply} (asks : watch.halt = .asking query next)
    (answer : Ledger.Answers faults ⟨query, reply⟩ watch.world) :
    Stands faults ((watch.hear ⟨query, reply⟩).resume (next reply)) ∧
      ((watch.hear ⟨query, reply⟩).resume (next reply)).session = watch.session := by
  cases stands with
  | starting idle unheard empty =>
      rw [idle] at asks
      cases asks
  | @looking handle looks unheard empty =>
      cases looks.symm.trans asks
      obtain ⟨-, -, listed⟩ | ⟨different, -⟩ := answer
      · refine ⟨?_, rfl⟩
        cases read : reading InvoiceListing.codec reply with
        | ok listing =>
            rw [read] at listed
            exact .resting (resting_of_listed handle unheard empty read listed)
        | error error =>
            rw [read] at listed
            have follows := Watch.Follows.look Ledger.settled ReportedInvoice.toInvoice unheard
              empty
              ⟨.call handle "listinvoices" (.object []), reply⟩
            dsimp only
            rw [read, Gateway.classified_error, looked, Watch.resume_item]
            exact .failed listed rfl (follows.fail _ _ _)
              (.look unheard handle _ reply)
      · exact absurd different (by decide)
  | resting rests =>
      obtain ⟨-, brought, idle⟩ := rests
      rw [idle] at asks
      cases asks
  | @waiting handle known seen waits handed =>
      cases waits.symm.trans asks
      obtain ⟨different, -⟩ | ⟨-, last, same, brought⟩ := answer
      · exact absurd different (by decide)
      · have index : Ledger.highest seen = last := Json.ofWord_injective (by simpa using same)
        rw [← index] at brought
        refine ⟨?_, rfl⟩
        cases read : reading ReportedInvoice.codec reply with
        | ok invoice =>
            rw [read] at brought
            exact .resting (handed.resting_of_brought handle read brought)
        | error error =>
            rw [read] at brought
            have follows := handed.follows.hear handed.heard_ne_nil ⟨.call handle "waitanyinvoice"
              (.object [("lastpay_index", .ofWord (Ledger.highest seen))]), reply⟩
            dsimp only
            rw [read, Gateway.classified_error, woken, Watch.resume_item]
            exact .failed brought rfl (follows.fail _ _ _)
              (handed.offered.hear (List.Subset.refl _) fun invoice found =>
                nomatch read.symm.trans found.2)
  | failed faulty ended follows offered =>
      rw [ended] at asks
      cases asks

/-- Wherever a subscription comes to, in whatever order things happen, it stands at one of these
places. -/
theorem stands_of_reaches {session : Session} {ledger : Ledger}
    (usable : session.Usable faults)
    (reached : Watch.Reaches (Ledger.milieu faults) (turn settings)
      (.opened .starting session ledger) watch) :
    Stands faults watch ∧ watch.session.Usable faults :=
  reached.stands (Stands faults) (fun _ found => found) (.starting rfl rfl rfl) usable
    (fun _ session _ stands changed => stands.passes session changed)
    (fun _ _ _ stands usable idle => stands.polled usable idle)
    (fun _ _ _ _ stands _ asks answer => stands.answered asks answer)

/-! ### Progress -/

/-- A wait that stands can be answered once there is another invoice. -/
theorem Handed.step_next (faults : Prop) (settings : Settings) {handle : Handle}
    {invoice : ReportedInvoice} {rest : List ReportedInvoice} (handed : Handed watch known seen)
    (asks : watch.halt = wait handle (Ledger.highest seen))
    (more : seen ++ invoice :: rest = watch.world.settled) :
    ∃ next, Watch.Step (Ledger.milieu faults) (turn settings) watch next ∧
      next.world = watch.world ∧ next.session = watch.session ∧
      Resting next known (seen ++ [invoice]) := by
  have read : reading ReportedInvoice.codec (.ok (ReportedInvoice.codec.write invoice)) =
      .ok invoice :=
    congrArg (Except.mapError TransportError.ofDecodeError)
      (ReportedInvoice.faithful_codec.decode_write invoice)
  have brought : (watch.world.settledAfter (Ledger.highest seen)).head? = some invoice := by
    rw [watch.world.settledAfter_highest handed.follows.happened, ← more, List.drop_left,
      List.head?_cons]
  refine ⟨_, .answered asks (Or.inr ⟨rfl, _, rfl, ?_⟩), rfl, rfl,
    handed.resting_of_brought handle read brought⟩
  rw [read]
  exact brought

/-- All invoices that are settled can be handed out, without any more being settled. -/
theorem Resting.reaches_complete (faults : Prop) (settings : Settings) {handle : Handle}
    (connected : watch.session.link.transport = .ok handle) (rests : Resting watch known seen) :
    ∃ later, Watch.Reaches (Ledger.milieu faults) (turn settings) watch later ∧
      later.world = watch.world ∧ Resting later known watch.world.settled := by
  obtain ⟨rest, whole⟩ := rests.follows.happened
  induction rest generalizing watch seen with
  | nil =>
      rw [List.append_nil] at whole
      exact ⟨watch, .refl, rfl, whole ▸ rests⟩
  | cons invoice rest ih =>
      obtain ⟨handed, brought, idle⟩ := rests
      have advanced := advance_waiting settings (Ledger.highest seen) watch.session
      rw [connected] at advanced
      have polled : Watch.Step (Ledger.milieu faults) (turn settings) watch _ := .polled idle
      rw [Watch.resume_silently advanced rfl] at polled
      obtain ⟨next, stepped, world, session, resting⟩ :=
        (handed.goes_on _ _).step_next faults settings rfl whole
      have others : seen ++ [invoice] ++ rest = next.world.settled := by
        rw [world, ← whole, List.append_assoc, List.singleton_append]
      obtain ⟨later, reached, same, complete⟩ := ih (session ▸ connected) resting others
      exact ⟨later, .head polled (.head stepped reached), same.trans world, world ▸ complete⟩

/-- The first look can be answered. -/
theorem step_looked (faults : Prop) (settings : Settings) (watch : Watching) {handle : Handle}
    (asks : watch.halt = look handle) (unheard : watch.heard = []) (empty : watch.items = []) :
    ∃ next, Watch.Step (Ledger.milieu faults) (turn settings) watch next ∧
      next.world = watch.world ∧ next.session = watch.session ∧
      Resting next watch.world.settled watch.world.settled := by
  let listing : InvoiceListing := ⟨watch.world.settled ++ watch.world.others⟩
  have read : reading InvoiceListing.codec (.ok (InvoiceListing.codec.write listing)) =
      .ok listing :=
    congrArg (Except.mapError TransportError.ofDecodeError)
      (InvoiceListing.faithful_codec.decode_write listing)
  refine ⟨_, .answered asks (Or.inl ⟨rfl, rfl, ?_⟩), rfl, rfl,
    resting_of_listed handle unheard empty read (List.Perm.refl _)⟩
  rw [read]
  exact List.Perm.refl _

/-- A subscription that stands anywhere can go on until all settled invoices are handed out. -/
theorem Stands.reaches_complete (settings : Settings) {handle : Handle}
    (connected : watch.session.link.transport = .ok handle) (stands : Stands False watch) :
    ∃ later known, Watch.Reaches (Ledger.milieu False) (turn settings) watch later ∧
      later.world = watch.world ∧ Handed later known watch.world.settled := by
  have complete_after {next : Watching} {known seen : List ReportedInvoice}
      (rests : Resting next known seen)
      (reached : Watch.Reaches (Ledger.milieu False) (turn settings) watch next)
      (world : next.world = watch.world) (session : next.session = watch.session) :
      ∃ later known, Watch.Reaches (Ledger.milieu False) (turn settings) watch later ∧
        later.world = watch.world ∧ Handed later known watch.world.settled := by
    obtain ⟨later, further, same, complete⟩ :=
      rests.reaches_complete False settings (session ▸ connected)
    exact ⟨later, known, reached.trans further, same.trans world, world ▸ complete.toHanded⟩
  cases stands with
  | starting idle unheard empty =>
      have advanced := advance_starting settings watch.session
      rw [connected] at advanced
      have polled : Watch.Step (Ledger.milieu False) (turn settings) watch _ := .polled idle
      rw [Watch.resume_silently advanced rfl] at polled
      obtain ⟨next, stepped, world, session, rests⟩ :=
        step_looked False settings { watch with halt := look handle } rfl unheard empty
      exact complete_after rests (.head polled (.single stepped)) world session
  | looking asks unheard empty =>
      obtain ⟨next, stepped, world, session, rests⟩ :=
        step_looked False settings watch asks unheard empty
      exact complete_after rests (.single stepped) world session
  | resting rests => exact complete_after rests .refl rfl rfl
  | @waiting handle known seen asks handed =>
      obtain ⟨rest, whole⟩ := handed.follows.happened
      cases rest with
      | nil =>
          rw [List.append_nil] at whole
          exact ⟨watch, known, .refl, rfl, whole ▸ handed⟩
      | cons invoice rest =>
          obtain ⟨next, stepped, world, session, rests⟩ :=
            handed.step_next False settings asks whole
          exact complete_after rests (.single stepped) world session
  | failed faulty ended follows offered => exact faulty.elim

/-- What has come of a subscription whose first look has found a snapshot. -/
structure Accounted (watch : Watching) (snapshot : Ledger) : Prop where
  /-- The first look, and the waits since. -/
  heard : ∃ look waits, watch.heard = (look, snapshot) :: waits
  calls : watch.heard.map (fun answered => answered.1.query.method?) =
    some "listinvoices" :: List.replicate watch.items.length (some "waitanyinvoice")
  since : snapshot.settled <+: watch.world.settled
  enough : watch.items.length ≤ (watch.world.since snapshot).length
  /-- The first of the invoices that were settled since, as many as there were waits. -/
  items : watch.items = ((watch.world.since snapshot).take watch.items.length).map
    fun invoice => .ok invoice.toInvoice
  ascending : (watch.world.since snapshot).Pairwise fun earlier later =>
    earlier.number < later.number

theorem Handed.accounted (handed : Handed watch known seen) :
    ∃ snapshot, snapshot.settled = known ∧ Accounted watch snapshot := by
  obtain ⟨⟨look, snapshot⟩, waits, heard⟩ := List.exists_cons_of_ne_nil handed.heard_ne_nil
  obtain rfl : snapshot.settled = known :=
    handed.follows.first (look, snapshot) (by rw [heard, List.head?_cons, Option.mem_some])
  have grown := handed.follows.begins.trans handed.follows.happened
  have after : watch.world.since snapshot = _ := watch.world.settledAfter_highest grown
  obtain ⟨enough, items⟩ := handed.follows.items_eq_take
  rw [← after] at enough items
  exact ⟨snapshot, rfl, ⟨look, waits, heard⟩, handed.calls, grown, enough, items,
    watch.world.ascending.sublist (List.filter_sublist)⟩

variable (settings)

/-- The subscription hands out the invoices with numbers above the highest one of its first look,
in the order of their numbers, one for each wait that was answered. From wherever it stands, it
can go on until it has handed out all of them. -/
theorem settlements_handed_out {session : Session} {handle : Handle} {ledger : Ledger}
    (connected : session.link.transport = .ok handle)
    (reached : Watch.Reaches (Ledger.milieu False) (turn settings)
      (.opened .starting session ledger) watch) :
    (watch.heard = [] ∧ watch.items = [] ∨
      ∃ snapshot, ledger.settled <+: snapshot.settled ∧ Accounted watch snapshot) ∧
    ∃ later snapshot, Watch.Reaches (Ledger.milieu False) (turn settings) watch later ∧
      later.world = watch.world ∧ watch.heard <+: later.heard ∧
      ledger.settled <+: snapshot.settled ∧ Accounted later snapshot ∧
      later.items = (watch.world.since snapshot).map fun invoice => .ok invoice.toInvoice := by
  obtain ⟨stands, lost | ⟨handle, connected⟩⟩ :=
    stands_of_reaches (Or.inr ⟨handle, connected⟩) reached
  · exact lost.elim
  have opened {watch : Watching} {snapshot : Ledger} (accounted : Accounted watch snapshot)
      (reached : Watch.Reaches (Ledger.milieu False) (turn settings)
        (.opened .starting session ledger) watch) : ledger.settled <+: snapshot.settled := by
    obtain ⟨look, waits, heard⟩ := accounted.heard
    obtain ⟨-, grown⟩ := reached.log_grows Ledger.settled fun _ _ changed => changed
    exact (grown (look, snapshot) (heard ▸ List.mem_cons_self)).1
  have report {known seen : List ReportedInvoice} (handed : Handed watch known seen) :
      ∃ snapshot, ledger.settled <+: snapshot.settled ∧ Accounted watch snapshot := by
    obtain ⟨snapshot, -, accounted⟩ := handed.accounted
    exact ⟨snapshot, opened accounted reached, accounted⟩
  constructor
  · cases stands with
    | starting idle unheard empty => exact Or.inl ⟨unheard, empty⟩
    | looking asks unheard empty => exact Or.inl ⟨unheard, empty⟩
    | resting rests => exact Or.inr (report rests.toHanded)
    | waiting asks handed => exact Or.inr (report handed)
    | failed faulty ended follows offered => exact faulty.elim
  · obtain ⟨later, known, further, world, handed⟩ := stands.reaches_complete settings connected
    obtain ⟨snapshot, rfl, accounted⟩ := handed.accounted
    have all : watch.world.since snapshot = _ :=
      watch.world.settledAfter_highest handed.follows.begins
    have items := handed.follows.items
    rw [Option.toList_none, List.map_nil, List.append_nil, ← all] at items
    exact ⟨later, snapshot, further, world, further.heard_prefix,
      opened accounted (reached.trans further), accounted, items⟩

/-- An invoice that was paid. -/
def paidInvoice (label : String) (index : UInt64) : ReportedInvoice where
  label := label
  bolt11 := some ("lnbc" ++ label)
  paymentHash := label
  amount := some 1000
  amountReceived := some 1000
  status := .paid
  description := label
  expiresAt := 3600
  createdIndex := some index
  payIndex := some index
  paidAt := some 60

def teaPaid : Ledger where
  settled := [paidInvoice "tea" 1]
  others := []
  paid := by decide
  unpaid := by decide
  positive := by decide
  ascending := by decide

def cakePaid : Ledger where
  settled := [paidInvoice "tea" 1, paidInvoice "cake" 2]
  others := []
  paid := by decide
  unpaid := by decide
  positive := by decide
  ascending := by decide

/-- Tea was paid before the first look, cake between this look and the first wait. -/
theorem cake_handed_out_after_tea :
    ∃ watch, Watch.Reaches (Ledger.milieu False)
      (turn ⟨.coreLightning, "getinfo", 5000, 1000, false⟩)
      (.opened .starting { Session.fresh 10 10 with link := .establish 0 } teaPaid) watch ∧
      watch.items = [.ok (paidInvoice "cake" 2).toInvoice] := by
  let settings : Settings := ⟨.coreLightning, "getinfo", 5000, 1000, false⟩
  let session : Session := { Session.fresh 10 10 with link := .establish 0 }
  have connected : session.link.transport = .ok 0 := rfl
  obtain ⟨-, early, snapshot, looked, world, -, opened, accounted, -⟩ :=
    settlements_handed_out settings connected (.refl : Watch.Reaches (Ledger.milieu False)
      (turn settings) (.opened .starting session teaPaid) _)
  have bought : Watch.Reaches (Ledger.milieu False) (turn settings)
      (.opened .starting session teaPaid) { early with session, world := cakePaid } := by
    refine looked.tail (.passes (Or.inr ⟨0, rfl⟩) ?_)
    rw [world]
    exact List.prefix_append [paidInvoice "tea" 1] [paidInvoice "cake" 2]
  obtain ⟨-, later, other, further, -, remembered, -, counted, items⟩ :=
    settlements_handed_out settings connected bought
  -- Both have looked once, and tea was known then.
  obtain ⟨look, waits, heard⟩ := accounted.heard
  obtain ⟨_, _, heardLater⟩ := counted.heard
  have same : (look, snapshot) :: waits <+: _ := heard ▸ remembered
  rw [heardLater, List.cons_prefix_cons] at same
  obtain ⟨same, -⟩ := same
  cases same
  have known : teaPaid.settled = snapshot.settled :=
    opened.eq_of_length_le (world ▸ accounted.since).length_le
  rw [Ledger.since, ← known] at items
  exact ⟨later, bought.trans further, items⟩

end InvoiceFeed

end LightningGateway
