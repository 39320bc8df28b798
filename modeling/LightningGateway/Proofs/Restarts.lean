import LightningGateway.Proofs.Relays
import LightningGateway.Proofs.Settlements

/-!
# Restarts

A subscription that is dropped leaves nothing behind, and one that is opened later begins after
what is known at its own first look. So what had happened before this look, but was not taken from
the first subscription, is handed out by neither of them. Everything else that has happened since
the first look of all is handed out by exactly one, in order.
-/

namespace LightningGateway

namespace Watch

variable {α β κ ω ε : Type}

/-- What was handed out, failures aside. -/
def events (items : List (Except Failure β)) : List β := items.filterMap Except.toOption

/-- A subscription was dropped, wherever it stood, and the same one was opened again later. -/
structure Restarted (milieu : Milieu ω) (turn : κ → Dialogue Session (Turn α × κ)) (stage : κ)
    (first second : Watch α κ ω) : Prop where
  dropped : ∃ session world, milieu.finds session ∧
    Reaches milieu turn (opened stage session world) first
  reopened : ∃ session world, milieu.finds session ∧ milieu.changes first.world world ∧
    Reaches milieu turn (opened stage session world) second

/-- What two subscriptions, one after the other, have handed out of a log. The first one knew some
entries at its first look and has got up to another one. The second one knew more and has seen
more. -/
structure Seam (log : ω → List ε) (view : ε → β) (first second : Watch (Except Failure β) κ ω)
    (known got renewed seen : List ε) : Prop where
  begins : known <+: got
  goes_on : got <+: renewed
  ends : renewed <+: seen
  happened : seen <+: log second.world
  early : events first.items = (got.drop known.length).map view
  late : events second.items = (seen.drop renewed.length).map view
  /-- What is between the two is handed out by neither. -/
  whole : (seen.drop known.length).map view =
    events first.items ++ (renewed.drop got.length).map view ++ events second.items

theorem events_ok (view : ε → β) (entries : List ε) :
    events (entries.map fun entry => .ok (view entry)) = entries.map view := by
  rw [events, List.filterMap_map]
  exact congrFun List.filterMap_eq_map entries

theorem events_error (failures : List Failure) :
    events (failures.map .error : List (Except Failure β)) = [] := by
  rw [events, List.filterMap_map]
  exact List.filterMap_eq_nil_iff.mpr fun _ _ => rfl

theorem Follows.events_eq {log : ω → List ε} {view : ε → β}
    {watch : Watch (Except Failure β) κ ω} {known seen : List ε} {failure : Option Failure}
    (follows : watch.Follows log view known seen failure) :
    events watch.items = (seen.drop known.length).map view := by
  rw [follows.items, events, List.filterMap_append]
  exact (congrArg₂ _ (events_ok view _) (events_error _)).trans (List.append_nil _)

/-- What follows the first entries goes on as far as the next ones do, and then as they go on. -/
theorem drop_eq_append_of_prefix {first second third : List ε} (begins : first <+: second)
    (goes_on : second <+: third) :
    third.drop first.length = second.drop first.length ++ third.drop second.length := by
  obtain ⟨taken, rfl⟩ := begins
  obtain ⟨rest, rfl⟩ := goes_on
  rw [List.drop_left, List.drop_left, List.append_assoc, List.drop_left]

theorem Restarted.seam {milieu : Milieu ω}
    {turn : κ → Dialogue Session (Turn (Except Failure β) × κ)} {stage : κ}
    {first second : Watch (Except Failure β) κ ω}
    (restarted : Restarted milieu turn stage first second) {log : ω → List ε} {view : ε → β}
    (grows : ∀ before after, milieu.changes before after → log before <+: log after)
    {known got renewed seen : List ε} {failed lost : Option Failure}
    (early : first.Follows log view known got failed)
    (late : second.Follows log view renewed seen lost) {look relook : Answered × ω}
    (looked : look ∈ first.heard.head?) (relooked : relook ∈ second.heard.head?) :
    Seam log view first second (log look.2) got (log relook.2) seen := by
  obtain rfl := early.first look looked
  obtain rfl := late.first relook relooked
  obtain ⟨session, world, -, changed, reached⟩ := restarted.reopened
  have opened := ((reached.log_grows log grows).2 relook (List.mem_of_head? relooked)).1
  have goes_on : got <+: log relook.2 :=
    (early.happened.trans (grows _ _ changed)).trans opened
  refine ⟨early.begins, goes_on, late.begins, late.happened, early.events_eq, late.events_eq, ?_⟩
  have ends : got <+: seen := goes_on.trans late.begins
  rw [early.events_eq, late.events_eq, drop_eq_append_of_prefix early.begins ends,
    drop_eq_append_of_prefix goes_on late.begins, List.map_append, List.map_append,
    List.append_assoc]

end Watch

open Daemon (Forward ReportedInvoice)

namespace ForwardFeed

variable {faults : Prop} {settings : Settings} {watch : Watching}

/-- Nothing that was fetched waits. -/
def Drained (watch : Watching) : Prop :=
  ∀ brought state, watch.halt = .ended (brought, .polling state) → state.poller.pending = []

theorem Resting.drained {known seen : List Forward} (rests : Resting watch known seen seen) :
    Drained watch := by
  obtain ⟨-, -, _, again, idle⟩ := rests
  intro brought state stays
  cases idle.symm.trans stays
  simp

theorem Resting.exists_look {known seen listed : List Forward}
    (rests : Resting watch known seen listed) :
    ∃ look, watch.heard.head? = some (look, known) := by
  obtain ⟨⟨look, world⟩, others, heard⟩ := List.exists_cons_of_ne_nil rests.heard
  have first : watch.heard.head? = some (look, world) := by rw [heard, List.head?_cons]
  obtain rfl : world = known := rests.follows.first _ first
  exact ⟨look, first⟩

/-- Once it is drained, a subscription has handed out all that it was offered. -/
theorem Stands.follows (stands : Stands faults settings watch) :
    ∃ known seen failure, watch.Follows id Forward.toEvent known seen failure ∧
      (Drained watch →
        ∀ answered ∈ watch.heard, Offers answered.1 → answered.2 <+: seen) := by
  cases stands with
  | starting idle unheard empty =>
      have handed := Handed.opened unheard empty
      exact ⟨_, _, _, handed.follows, fun _ => handed.offered⟩
  | looking asks unheard empty =>
      have handed := Handed.opened unheard empty
      exact ⟨_, _, _, handed.follows, fun _ => handed.offered⟩
  | @resting known seen listed rests =>
      obtain ⟨handed, heard, brought, again, idle⟩ := rests
      refine ⟨known, seen, none, handed.follows, fun drained => ?_⟩
      have waits := drained _ _ idle
      rw [List.map_eq_nil_iff, List.drop_eq_nil_iff] at waits
      rw [handed.waits.eq_of_length_le waits]
      exact handed.offered
  | pausing asks empty => exact ⟨_, _, _, empty.follows, fun _ => empty.offered⟩
  | fetching asks empty => exact ⟨_, _, _, empty.follows, fun _ => empty.offered⟩
  | failed faulty lost ended handed => exact ⟨_, _, _, handed.follows, fun _ => handed.offered⟩

end ForwardFeed

/-- A subscription has handed out all that waits have brought. -/
theorem InvoiceFeed.Stands.follows {faults : Prop} {watch : InvoiceFeed.Watching}
    (stands : InvoiceFeed.Stands faults watch) :
    ∃ known seen failure, watch.Follows Ledger.settled ReportedInvoice.toInvoice known seen
      failure ∧ InvoiceFeed.Offered watch seen := by
  cases stands with
  | starting idle unheard empty =>
      exact ⟨_, _, _, .opened _ _ unheard empty, .unheard unheard⟩
  | looking asks unheard empty =>
      exact ⟨_, _, _, .opened _ _ unheard empty, .unheard unheard⟩
  | resting rests => exact ⟨_, _, _, rests.follows, rests.offered⟩
  | waiting asks handed => exact ⟨_, _, _, handed.follows, handed.offered⟩
  | failed faulty ended follows offered => exact ⟨_, _, _, follows, offered⟩

/-- Two subscriptions, one after the other, hand out everything that has happened since the first
look of all, except what had happened before the second one looked and was not taken from the
first. What the second one was offered belongs to it, as soon as nothing waits. Calls may fail and
the connection may be lost if faults are possible. -/
theorem restart_skips_untaken (faults : Prop) (settings : Settings) :
    (∀ first second : ForwardFeed.Watching,
      Watch.Restarted (ForwardFeed.milieu faults) (ForwardFeed.turn settings) .starting first
        second →
      ∀ look ∈ first.heard.head?, ∀ relook ∈ second.heard.head?, ∃ got seen,
        Watch.Seam id Forward.toEvent first second look.2 got relook.2 seen ∧
          (ForwardFeed.Drained second →
            ∀ answered ∈ second.heard, ForwardFeed.Offers answered.1 → answered.2 <+: seen)) ∧
    ∀ first second : InvoiceFeed.Watching,
      Watch.Restarted (Ledger.milieu faults) (InvoiceFeed.turn settings) .starting first second →
      ∀ look ∈ first.heard.head?, ∀ relook ∈ second.heard.head?, ∃ got seen,
        Watch.Seam Ledger.settled ReportedInvoice.toInvoice first second look.2.settled got
          relook.2.settled seen ∧ InvoiceFeed.Offered second seen := by
  constructor
  · intro first second restarted look looked relook relooked
    obtain ⟨_, _, found, reached⟩ := restarted.dropped
    obtain ⟨_, _, refound, -, rereached⟩ := restarted.reopened
    obtain ⟨known, got, _, early, -⟩ :=
      (ForwardFeed.stands_of_reaches found reached).1.follows
    obtain ⟨renewed, seen, _, late, offered⟩ :=
      (ForwardFeed.stands_of_reaches refound rereached).1.follows
    exact ⟨got, seen, restarted.seam (fun _ _ changed => changed) early late looked relooked,
      offered⟩
  · intro first second restarted look looked relook relooked
    obtain ⟨_, _, found, reached⟩ := restarted.dropped
    obtain ⟨_, _, refound, -, rereached⟩ := restarted.reopened
    obtain ⟨known, got, _, early, -⟩ := (InvoiceFeed.stands_of_reaches found reached).1.follows
    obtain ⟨renewed, seen, _, late, offered⟩ :=
      (InvoiceFeed.stands_of_reaches refound rereached).1.follows
    exact ⟨got, seen, restarted.seam (fun _ _ changed => changed) early late looked relooked,
      offered⟩

namespace ForwardFeed

/-- Two payments are forwarded after the first look. One of them is taken, and the subscription is
dropped. The next one finds both at its first look. -/
theorem exists_interrupted :
    ∃ first second : Watching,
      Watch.Restarted (milieu False) (turn ⟨.coreLightning, "getinfo", 5000, 1000, false⟩)
        .starting first second ∧
      Resting first [] [relayed 1] [relayed 1, relayed 2] ∧
      Resting second [relayed 1, relayed 2] [relayed 1, relayed 2] [relayed 1, relayed 2] ∧
      ∃ answered, Offers answered ∧ (answered, [relayed 1, relayed 2]) ∈ second.heard := by
  let settings : Settings := ⟨.coreLightning, "getinfo", 5000, 1000, false⟩
  let session : Session := { Session.fresh 10 10 with link := .establish 0 }
  have connected : session.link.transport = .ok 0 := rfl
  let reply (forwards : List Forward) : Except TransportError Json :=
    .ok (Daemon.ForwardListing.codec.write ⟨forwards⟩)
  have none : Gateway.reading Daemon.ForwardListing.codec (reply []) = .ok ⟨[]⟩ := by
    decide +kernel
  have both : Gateway.reading Daemon.ForwardListing.codec (reply [relayed 1, relayed 2]) =
      .ok ⟨[relayed 1, relayed 2]⟩ := by
    decide +kernel
  -- The first subscription.
  obtain ⟨looked, look, world, same, rests⟩ := reaches_resting False settings connected none
  let busy : Watching := { looked with world := [relayed 1, relayed 2] }
  have relays : Watch.Step (milieu False) (turn settings) looked busy :=
    .passes (Or.inr ⟨0, same ▸ connected⟩) (world ▸ List.nil_prefix)
  have waits : Resting busy [] [] [] :=
    ⟨rests.toHanded.passes _ (world ▸ List.nil_prefix), rests.heard, rests.idle⟩
  obtain ⟨fetched, fetch, fetchedWorld, -, queued, -⟩ :=
    waits.reaches_fetched False settings (same ▸ connected) both
  obtain ⟨first, hand, firstWorld, -, handed⟩ := queued.reaches_handed False settings rfl
  -- The second one.
  obtain ⟨relooked, relook, reworld, resame, known⟩ :=
    reaches_resting False settings connected both
  obtain ⟨second, refetch, -, -, drained, fetchedAll⟩ :=
    known.reaches_fetched False settings (resame ▸ connected) (reworld ▸ both)
  rw [reworld] at drained fetchedAll
  refine ⟨first, second, ⟨⟨session, [], Or.inr ⟨0, connected⟩, ?_⟩,
    ⟨session, [relayed 1, relayed 2], Or.inr ⟨0, connected⟩, ?_, relook.trans refetch⟩⟩,
    handed, drained, fetchedAll⟩
  · exact ((look.tail relays).trans fetch).trans hand
  · rw [firstWorld, fetchedWorld]
    exact List.prefix_rfl

/-- The second of two forwards is lost: the first subscription was dropped before it was taken,
and for the second one, which is drained, it was known from the start. -/
theorem forward_lost_between_subscriptions :
    ∃ first second : Watching,
      Watch.Restarted (milieu False) (turn ⟨.coreLightning, "getinfo", 5000, 1000, false⟩)
        .starting first second ∧
      (∃ look, first.heard.head? = some (look, [])) ∧ Drained second ∧
      (∃ answered, Offers answered ∧ (answered, [relayed 1, relayed 2]) ∈ second.heard) ∧
      (relayed 2).toEvent ∉ Watch.events first.items ++ Watch.events second.items := by
  obtain ⟨first, second, restarted, early, late, fetched⟩ := exists_interrupted
  refine ⟨first, second, restarted, early.exists_look, late.drained, fetched, ?_⟩
  rw [early.follows.events_eq, late.follows.events_eq]
  simp [relayed, Forward.toEvent]

/-- The second forward is in the gap between the two subscriptions. -/
theorem restart_skips_second_forward :
    ∃ first second : Watching,
      Watch.Restarted (milieu False) (turn ⟨.coreLightning, "getinfo", 5000, 1000, false⟩)
        .starting first second ∧
      ∃ got seen,
        Watch.Seam id Forward.toEvent first second [] got [relayed 1, relayed 2] seen ∧
          [relayed 1, relayed 2].drop got.length = [relayed 2] := by
  obtain ⟨first, second, restarted, early, late, -⟩ := exists_interrupted
  obtain ⟨look, looked⟩ := early.exists_look
  obtain ⟨relook, relooked⟩ := late.exists_look
  obtain ⟨got, seen, seam, -⟩ :=
    (restart_skips_untaken False _).1 first second restarted _ looked _ relooked
  have taken := congrArg List.length (early.follows.events_eq.symm.trans seam.early)
  have one : got.length = 1 := by simpa using taken.symm
  exact ⟨first, second, restarted, got, seen, seam, by rw [one]; rfl⟩

end ForwardFeed

end LightningGateway
