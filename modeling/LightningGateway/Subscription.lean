import LightningGateway.Failure
import LightningGateway.Invoice

/-!
# Subscriptions

A subscription hands out its items in turns. A turn may also find nothing new.

A daemon that offers only a full listing is polled. The watermark counts the entries of
the listing that were handed out; it grows with each entry that is handed out, and never
when an entry is only fetched. The entries that were fetched but not handed out wait in a
queue.

Settled invoices are numbered in the order of settlement. A subscription begins after the
largest number that is known and waits again and again for the next settlement after the
last one it has seen.
-/

namespace LightningGateway

/-- What a turn of a subscription brings. -/
inductive Turn (α : Type) where
  | item (value : α)
  /-- Nothing new; the next turn goes on. -/
  | quiet
  /-- There will be nothing more. -/
  | ended
  deriving Repr, BEq, DecidableEq

def Turn.map {α β : Type} (change : α → β) : Turn α → Turn β
  | item value => .item (change value)
  | quiet => .quiet
  | ended => .ended

/-! ### Polling a growing listing -/

/-- The progress through a listing that only grows. -/
structure Poller (α : Type) where
  /-- The number of entries that were handed out or known from the start. -/
  watermark : Nat
  /-- Entries that wait to be handed out. -/
  pending : List α
  deriving Repr, BEq, DecidableEq

namespace Poller

variable {α : Type}

def starting (baseline : Nat) : Poller α := ⟨baseline, []⟩

/-- Queues the entries of a listing that were not seen before. -/
def observe (poller : Poller α) (listing : List α) : Poller α :=
  { poller with
    pending := poller.pending ++ listing.drop (poller.watermark + poller.pending.length) }

def next (poller : Poller α) : Option (α × Poller α) :=
  match poller.pending with
  | [] => none
  | entry :: rest => some (entry, ⟨poller.watermark + 1, rest⟩)

/-- Milliseconds by which a pause is shorter than the interval between two fetches. -/
def safetyMargin : Nat := 100

def pause (interval : Nat) : Nat := interval - safetyMargin

end Poller

/-- A subscription that polls a listing. -/
structure Polling (α : Type) where
  poller : Poller α
  /-- Whether the listing was fetched before, so that a pause comes first. -/
  fetched : Bool
  /-- Whether a fetch has failed, so that nothing more comes. -/
  failed : Bool
  deriving Repr, BEq, DecidableEq

namespace Polling

def starting {α : Type} (baseline : Nat) : Polling α := ⟨.starting baseline, false, false⟩

/-- Hands out a waiting entry. Without one the listing is fetched, after a pause unless this is
the first fetch. A fetch that fails is the last item. -/
def turn {α : Type} {m : Type → Type} [Monad m] (sleep : Nat → m Unit)
    (fetch : m (Except Failure (List α))) (interval : Nat) (state : Polling α) :
    m (Turn (Except Failure α) × Polling α) := do
  match state.poller.next with
  | some (entry, poller) => return (.item (.ok entry), { state with poller })
  | none =>
      if state.failed then
        return (.ended, state)
      if state.fetched then
        sleep (Poller.pause interval)
      match ← fetch with
      | .ok listing =>
          return (.quiet, { state with poller := state.poller.observe listing, fetched := true })
      | .error failure =>
          return (.item (.error failure), { state with fetched := true, failed := true })

end Polling

/-! ### Waiting for settlements -/

namespace Settlement

def indexes (invoices : List Invoice) : List UInt64 :=
  (invoices.filter fun invoice => invoice.state == .settled).filterMap Invoice.settleIndex

/-- The largest settle index, zero if no invoice is settled. -/
def baseline (invoices : List Invoice) : UInt64 :=
  (indexes invoices).foldl max 0

/-- The index to wait after, once an invoice was handed out. -/
def advance (last : UInt64) (invoice : Invoice) : UInt64 :=
  max last (invoice.settleIndex.getD last)

/-- Waits for the next settlement. The state is the index to wait after, `none` once a wait has
failed. -/
def turn {m : Type → Type} [Monad m] (wait : UInt64 → m (Except Failure Invoice)) :
    Option UInt64 → m (Turn (Except Failure Invoice) × Option UInt64)
  | none => return (.ended, none)
  | some last => do
      match ← wait last with
      | .ok invoice => return (.item (.ok invoice), some (advance last invoice))
      | .error failure => return (.item (.error failure), none)

end Settlement

end LightningGateway
