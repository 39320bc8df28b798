import LightningGateway.Json.Record
import LightningGateway.Transaction

/-!
# Pages and the timeline

A page is a part of a listing, given by how many items stand before it and how many it
may hold.

The timeline has transactions of all kinds in one listing, ordered by time. Entries of the
same time keep the order in which they come. Each entry carries its position in the whole
listing, also on a page of it.
-/

namespace LightningGateway

/-- A part of a listing. -/
structure Page where
  /-- The number of items before the page. -/
  offset : UInt64
  /-- The largest number of items on the page; zero is no limit. -/
  limit : UInt64
  /-- Whether the listing is read from its end. -/
  reversed : Bool
  deriving Repr, BEq, DecidableEq

namespace Page

def whole : Page := ⟨0, 0, false⟩

def layout :=
  Layout.required "offset" Codec.size <|
    Layout.required "limit" Codec.size <|
    Layout.required "reversed" Codec.boolean <|
    Layout.done

def codec : Codec Page :=
  .record "Page" layout
    (fun (offset, limit, reversed, ()) => { offset, limit, reversed })
    (fun page => (page.offset, page.limit, page.reversed, ()))

/-- The items of the page, in the order of the listing. -/
def slice {α : Type} (page : Page) (items : List α) : List α :=
  let rest := items.drop page.offset.toNat
  if page.limit = 0 then rest else rest.take page.limit.toNat

/-- The listing in the order in which the page reads it. -/
def order {α : Type} (page : Page) (items : List α) : List α :=
  if page.reversed then items.reverse else items

/-- The items of the page, in the order in which it reads the listing. -/
def select {α : Type} (page : Page) (items : List α) : List α :=
  page.slice (page.order items)

end Page

/-! ### The timeline -/

namespace Timeline

/-- Entries in ascending order of time, those of the same time as they come. -/
def chronological (entries : List TimelineEntry) : List TimelineEntry :=
  entries.mergeSort fun left right => decide (left.timeStamp ≤ right.timeStamp)

/-- Gives every entry its position, counted from `first`. -/
def numbered : Nat → List TimelineEntry → List TimelineEntry
  | _, [] => []
  | first, entry :: rest => { entry with index := UInt64.ofNat first } :: numbered (first + 1) rest

/-- The whole timeline in the order in which a page reads it. -/
def ordered (page : Page) (entries : List TimelineEntry) : List TimelineEntry :=
  numbered 0 (page.order (chronological entries))

def build (page : Page) (entries : List TimelineEntry) : List TimelineEntry :=
  page.slice (ordered page entries)

end Timeline

end LightningGateway
