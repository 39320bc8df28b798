import Mathlib.Data.List.Basic
import Mathlib.Data.List.Induction
import LightningGateway.Proofs.Timeline

/-!
# Pages that follow each other

Pages of one size, each of which begins where the one before it ends, show a listing from its
beginning without a gap and without showing anything twice. The timeline is numbered before it is
cut, so what stands on a page of it carries its position in the whole.
-/

namespace LightningGateway

namespace Page

variable {α : Type}

/-- Pages of one size and direction. The first one begins where the listing does, and each of the
others where the one before it ends. -/
def Consecutive (limit : UInt64) (reversed : Bool) (pages : List Page) : Prop :=
  ∀ place page, pages[place]? = some page →
    page.offset.toNat = place * limit.toNat ∧ page.limit = limit ∧ page.reversed = reversed

/-- Pages show parts of a listing. -/
structure Paginates (shown : Page → List α) (reversed : Bool) (listing : List α) : Prop where
  /-- Consecutive pages show the listing from its beginning. -/
  tiles : ∀ limit pages, limit ≠ 0 → Consecutive limit reversed pages →
    pages.flatMap shown = listing.take (pages.length * limit.toNat)
  /-- There are enough of them for the whole, unless there are more items than offsets. -/
  covers : ∀ limit, limit ≠ 0 → listing.length ≤ Bound.word64 →
    ∃ pages, Consecutive limit reversed pages ∧ pages.flatMap shown = listing
  unlimited : ∀ offset, shown ⟨offset, 0, reversed⟩ = listing.drop offset.toNat
  beyond : ∀ page, page.reversed = reversed → listing.length ≤ page.offset.toNat →
    shown page = []

/-! ### Slices -/

theorem slice_of_limit_ne_zero {page : Page} (limited : page.limit ≠ 0) (listing : List α) :
    page.slice listing = (listing.drop page.offset.toNat).take page.limit.toNat :=
  if_neg limited

theorem slice_unlimited (offset : UInt64) (reversed : Bool) (listing : List α) :
    (Page.mk offset 0 reversed).slice listing = listing.drop offset.toNat := by
  simp [slice]

theorem slice_beyond {page : Page} {listing : List α}
    (past : listing.length ≤ page.offset.toNat) : page.slice listing = [] := by
  unfold slice
  rw [List.drop_eq_nil_of_le past]
  simp

/-- What stands on a page stands in the listing, as many places further as the page leaves out. -/
theorem getElem?_of_slice {page : Page} {listing : List α} {place : Nat} {item : α}
    (shown : (page.slice listing)[place]? = some item) :
    listing[page.offset.toNat + place]? = some item := by
  unfold slice at shown
  dsimp only at shown
  split at shown
  · rwa [List.getElem?_drop] at shown
  · rw [List.getElem?_take] at shown
    split at shown
    · rwa [List.getElem?_drop] at shown
    · cases shown

/-! ### Consecutive pages -/

theorem Consecutive.init {limit : UInt64} {reversed : Bool} {pages : List Page} {last : Page}
    (consecutive : Consecutive limit reversed (pages ++ [last])) :
    Consecutive limit reversed pages := by
  intro place page found
  obtain ⟨within, -⟩ := List.getElem?_eq_some_iff.mp found
  exact consecutive place page ((List.getElem?_append_left within).trans found)

theorem flatMap_slice {limit : UInt64} (limited : limit ≠ 0) {reversed : Bool}
    {pages : List Page} (consecutive : Consecutive limit reversed pages) (listing : List α) :
    (pages.flatMap fun page => page.slice listing) =
      listing.take (pages.length * limit.toNat) := by
  induction pages using List.reverseRecOn with
  | nil => simp
  | append_singleton pages last ih =>
      obtain ⟨begins, size, -⟩ := consecutive pages.length last List.getElem?_concat_length
      have added : last.slice listing =
          (listing.drop (pages.length * limit.toNat)).take limit.toNat := by
        rw [slice_of_limit_ne_zero (size ▸ limited), begins, size]
      rw [List.flatMap_append, ih consecutive.init, List.flatMap_singleton, added,
        List.length_append, List.length_singleton, Nat.add_one_mul, List.take_add]

theorem toNat_pos {limit : UInt64} (limited : limit ≠ 0) : 0 < limit.toNat :=
  Nat.pos_of_ne_zero fun none => limited (UInt64.toNat_inj.mp none)

/-- The pages of a listing of some length. -/
def upTo (length : Nat) (limit : UInt64) (reversed : Bool) : List Page :=
  (List.range ((length + limit.toNat - 1) / limit.toNat)).map fun place =>
    ⟨UInt64.ofNat (place * limit.toNat), limit, reversed⟩

theorem consecutive_upTo {length : Nat} (fits : length ≤ Bound.word64) {limit : UInt64}
    (limited : limit ≠ 0) (reversed : Bool) :
    Consecutive limit reversed (upTo length limit reversed) := by
  intro place page found
  rw [upTo, List.getElem?_map, Option.map_eq_some_iff] at found
  obtain ⟨number, counted, rfl⟩ := found
  obtain ⟨within, same⟩ := List.getElem?_eq_some_iff.mp counted
  rw [List.length_range] at within
  rw [List.getElem_range] at same
  subst number
  have inside : place * limit.toNat < length := by
    have below := (Nat.lt_div_iff_mul_lt (toNat_pos limited)).mp within
    omega
  exact ⟨UInt64.toNat_ofNat_of_lt' (Nat.lt_of_lt_of_le inside fits), rfl, rfl⟩

/-- The pages of a listing reach its end. -/
theorem length_le_upTo (length : Nat) {limit : UInt64} (limited : limit ≠ 0) (reversed : Bool) :
    length ≤ (upTo length limit reversed).length * limit.toNat := by
  have rounded := Nat.div_add_mod (length + limit.toNat - 1) limit.toNat
  have rest := Nat.mod_lt (length + limit.toNat - 1) (toNat_pos limited)
  rw [upTo, List.length_map, List.length_range, Nat.mul_comm]
  omega

/-- Whatever shows slices of a listing shows it in pages. -/
theorem paginates_of_slice {shown : Page → List α} {reversed : Bool} {listing : List α}
    (slices : ∀ page, page.reversed = reversed → shown page = page.slice listing) :
    Paginates shown reversed listing := by
  have tiles (limit : UInt64) (pages : List Page) (limited : limit ≠ 0)
      (consecutive : Consecutive limit reversed pages) :
      pages.flatMap shown = listing.take (pages.length * limit.toNat) := by
    rw [← flatMap_slice limited consecutive]
    refine List.flatMap_congr fun page member => ?_
    obtain ⟨place, found⟩ := List.mem_iff_getElem?.mp member
    exact slices page (consecutive place page found).2.2
  refine ⟨tiles, fun limit limited fits => ?_, fun offset => ?_, fun page same past => ?_⟩
  · have consecutive := consecutive_upTo fits limited reversed
    refine ⟨_, consecutive, ?_⟩
    rw [tiles limit _ limited consecutive]
    exact List.take_of_length_le (length_le_upTo listing.length limited reversed)
  · rw [slices _ rfl, slice_unlimited]
  · rw [slices page same, slice_beyond past]

end Page

namespace Timeline

open Page (Paginates)

theorem order_eq {page other : Page} (same : page.reversed = other.reversed) {α : Type}
    (items : List α) : page.order items = other.order items := by
  unfold Page.order
  rw [same]

theorem build_eq_slice {page : Page} {reversed : Bool} (same : page.reversed = reversed)
    (entries : List TimelineEntry) :
    build page entries = page.slice (build ⟨0, 0, reversed⟩ entries) := by
  rw [build, build, Page.slice_unlimited, ordered, ordered,
    @order_eq page ⟨0, 0, reversed⟩ same]
  rfl

theorem build_unlimited (reversed : Bool) (entries : List TimelineEntry) :
    build ⟨0, 0, reversed⟩ entries =
      numbered 0 (if reversed then (chronological entries).reverse else chronological entries) :=
  Page.slice_unlimited 0 reversed _

/-- The order of entries does not depend on the positions that they had before. -/
theorem build_congr {entries others : List TimelineEntry}
    (same : others.map unplaced = entries.map unplaced) (page : Page) :
    build page others = build page entries := by
  have forgets (list : List TimelineEntry) :
      (page.order (chronological list)).map unplaced =
        page.order (chronological (list.map unplaced)) := by
    have sorted : (chronological list).map unplaced = chronological (list.map unplaced) :=
      List.map_mergeSort fun _ _ _ _ => rfl
    unfold Page.order
    split
    · rw [List.map_reverse, sorted]
    · exact sorted
  have arranged : (page.order (chronological others)).map unplaced =
      (page.order (chronological entries)).map unplaced := by
    rw [forgets, forgets, same]
  exact congrArg page.slice (numbered_eq_of_unplaced_eq 0 arranged)

/-- The newest entries first is the same listing from its end, with other positions. -/
theorem map_unplaced_build_reversed (entries : List TimelineEntry) :
    (build ⟨0, 0, true⟩ entries).map unplaced =
      ((build .whole entries).map unplaced).reverse := by
  rw [build_unlimited, build_whole, map_numbered unplaced fun _ _ => rfl,
    map_numbered unplaced fun _ _ => rfl]
  exact List.map_reverse

theorem index_of_build {page : Page} {place : Nat} {entries : List TimelineEntry}
    {entry : TimelineEntry} (shown : (build page entries)[place]? = some entry) :
    entry.index = UInt64.ofNat (page.offset.toNat + place) := by
  have found := Page.getElem?_of_slice shown
  rw [ordered, getElem?_numbered] at found
  obtain ⟨original, -, rfl⟩ := Option.map_eq_some_iff.mp found
  rw [Nat.zero_add]

/-- Consecutive pages of a listing and of the timeline show it from its beginning, in both
directions. The whole timeline puts the entries in order, or the other way around, and each entry
of a page carries its position in the whole, whatever position it had before. -/
theorem pages_tile_listing {α : Type} (items : List α) (entries : List TimelineEntry)
    (reversed : Bool) :
    Paginates (fun page => page.select items) reversed
        (if reversed then items.reverse else items) ∧
      Paginates (fun page => build page entries) reversed (build ⟨0, 0, reversed⟩ entries) ∧
      Arranges (build .whole entries) entries ∧
      (build ⟨0, 0, true⟩ entries).map unplaced =
        ((build .whole entries).map unplaced).reverse ∧
      (∀ page place entry, page.reversed = reversed →
        (build page entries)[place]? = some entry →
          entry.index = UInt64.ofNat (page.offset.toNat + place) ∧
          (build ⟨0, 0, reversed⟩ entries)[page.offset.toNat + place]? = some entry) ∧
      ∀ others, others.map unplaced = entries.map unplaced →
        ∀ page, build page others = build page entries := by
  refine ⟨Page.paginates_of_slice fun page same => ?_,
    Page.paginates_of_slice fun page same => build_eq_slice same entries,
    arranges_build_whole entries, map_unplaced_build_reversed entries,
    fun page place entry same shown => ⟨index_of_build shown, ?_⟩,
    fun others same page => build_congr same page⟩
  · rw [Page.select, Page.order, same]
  · rw [build_eq_slice same] at shown
    exact Page.getElem?_of_slice shown

/-- Two entries of one time and a later one between them, with meaningless positions. -/
def scattered : List TimelineEntry :=
  [⟨99, 10, .succeeded, .lightning, .receive, 1000, 0, "", "a1", none, none⟩,
    ⟨99, 20, .succeeded, .lightning, .receive, 1000, 0, "", "b", none, none⟩,
    ⟨99, 10, .succeeded, .lightning, .receive, 1000, 0, "", "a2", none, none⟩]

theorem pages_tile_scattered :
    Page.Consecutive 2 true [⟨0, 2, true⟩, ⟨2, 2, true⟩] ∧
      (build ⟨0, 0, true⟩ scattered).map (fun entry => (entry.index, entry.referenceId)) =
        [(0, "b"), (1, "a2"), (2, "a1")] ∧
      ([⟨0, 2, true⟩, ⟨2, 2, true⟩].flatMap fun page => build page scattered) =
        build ⟨0, 0, true⟩ scattered ∧
      (∃ entry, (build ⟨2, 2, true⟩ scattered)[0]? = some entry ∧ entry.index = 2) ∧
      build ⟨2, 2, true⟩ (scattered.map unplaced) = build ⟨2, 2, true⟩ scattered := by
  obtain ⟨-, paginates, -, -, positions, indifferent⟩ :=
    pages_tile_listing ([] : List Unit) scattered true
  have consecutive : Page.Consecutive 2 true [⟨0, 2, true⟩, ⟨2, 2, true⟩] := by
    intro place page found
    match place with
    | 0 =>
        cases found
        exact ⟨rfl, rfl, rfl⟩
    | 1 =>
        cases found
        exact ⟨rfl, rfl, rfl⟩
    | _ + 2 => cases found
  have sorted : chronological scattered = [scattered[0], scattered[2], scattered[1]] := by
    simp [chronological, scattered, List.mergeSort, List.MergeSort.Internal.splitInTwo]
  have three : (build ⟨0, 0, true⟩ scattered).length = 3 := by
    rw [build_unlimited, sorted]
    rfl
  have last : ∃ entry, (build ⟨2, 2, true⟩ scattered)[0]? = some entry := by
    rw [build, ordered, sorted]
    exact ⟨_, rfl⟩
  have listed : (build ⟨0, 0, true⟩ scattered).map (fun entry => (entry.index, entry.referenceId)) =
      [(0, "b"), (1, "a2"), (2, "a1")] := by
    rw [build_unlimited, sorted]
    rfl
  obtain ⟨entry, shown⟩ := last
  refine ⟨consecutive, listed, ?_, ⟨entry, shown, (positions _ 0 entry rfl shown).1⟩,
    indifferent (scattered.map unplaced) rfl _⟩
  rw [paginates.tiles 2 _ (by decide) consecutive]
  exact List.take_of_length_le (by rw [three]; decide)

end Timeline

end LightningGateway
