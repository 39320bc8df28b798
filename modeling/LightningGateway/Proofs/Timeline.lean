import LightningGateway.Listing

/-!
# The order of the timeline

The timeline holds every entry once, in ascending order of time; entries of the same time
stand as they come, and each carries its position. These properties determine it: two
listings in ascending order that agree on the entries of each time are the same. Hence
entries may as well be dropped before they are put in order.
-/

namespace LightningGateway.Timeline

/-- The entry as it was before it had a place in a listing. -/
def unplaced (entry : TimelineEntry) : TimelineEntry := { entry with index := 0 }

/-- The entries of a time, as they come. -/
def atTime (time : UInt64) (entries : List TimelineEntry) : List TimelineEntry :=
  entries.filter fun entry => entry.timeStamp = time

/-- A listing puts entries in order. -/
structure Arranges (listing entries : List TimelineEntry) : Prop where
  /-- No entry is lost, none is doubled. -/
  complete : (listing.map unplaced).Perm (entries.map unplaced)
  ascending : listing.Pairwise fun earlier later => earlier.timeStamp ≤ later.timeStamp
  ties : ∀ time, (atTime time listing).map unplaced = (atTime time entries).map unplaced
  positions : ∀ position entry,
    listing[position]? = some entry → entry.index = UInt64.ofNat position

/-! ### Order -/

private theorem earlier_trans (first second third : TimelineEntry)
    (firstLe : decide (first.timeStamp ≤ second.timeStamp) = true)
    (secondLe : decide (second.timeStamp ≤ third.timeStamp) = true) :
    decide (first.timeStamp ≤ third.timeStamp) = true := by
  simp only [decide_eq_true_eq] at firstLe secondLe ⊢
  exact UInt64.le_trans firstLe secondLe

private theorem earlier_total (first second : TimelineEntry) :
    (decide (first.timeStamp ≤ second.timeStamp) ||
      decide (second.timeStamp ≤ first.timeStamp)) = true := by
  simpa using UInt64.le_total first.timeStamp second.timeStamp

theorem ascending_chronological (entries : List TimelineEntry) :
    (chronological entries).Pairwise fun earlier later =>
      earlier.timeStamp ≤ later.timeStamp := by
  have sorted := List.pairwise_mergeSort earlier_trans earlier_total entries
  simpa only [chronological, decide_eq_true_eq] using sorted

theorem perm_chronological (entries : List TimelineEntry) :
    (chronological entries).Perm entries :=
  List.mergeSort_perm _ _

theorem atTime_chronological (time : UInt64) (entries : List TimelineEntry) :
    atTime time (chronological entries) = atTime time entries := by
  have together : (atTime time entries).Pairwise fun earlier later =>
      decide (earlier.timeStamp ≤ later.timeStamp) = true := by
    rw [List.pairwise_iff_forall_sublist]
    intro earlier later inside
    have timeOf : ∀ entry ∈ [earlier, later], entry.timeStamp = time := by
      intro entry member
      have kept := inside.subset member
      simpa using (List.mem_filter.mp kept).2
    rw [timeOf earlier (by simp), timeOf later (by simp)]
    simp
  have inside : (atTime time entries).Sublist (chronological entries) :=
    List.sublist_mergeSort earlier_trans earlier_total together List.filter_sublist
  -- A stable order keeps the entries of one time as a sublist, and it loses none of them.
  have kept : (atTime time entries).Sublist (atTime time (chronological entries)) := by
    simpa only [atTime, List.filter_filter, Bool.and_self] using
      inside.filter fun entry => decide (entry.timeStamp = time)
  exact (kept.eq_of_length
    ((perm_chronological entries).filter _).length_eq.symm).symm

theorem getElem?_numbered (first position : Nat) (entries : List TimelineEntry) :
    (numbered first entries)[position]? =
      entries[position]?.map fun entry =>
        { entry with index := UInt64.ofNat (first + position) } := by
  induction entries generalizing first position with
  | nil => simp [numbered]
  | cons entry rest ih =>
      cases position with
      | zero => simp [numbered]
      | succ position =>
          have shifted : first + 1 + position = first + (position + 1) := by omega
          simp only [numbered, List.getElem?_cons_succ, ih, shifted]

theorem map_numbered {α : Type} (view : TimelineEntry → α)
    (blind : ∀ entry index, view { entry with index } = view entry) (first : Nat)
    (entries : List TimelineEntry) :
    (numbered first entries).map view = entries.map view := by
  induction entries generalizing first with
  | nil => rfl
  | cons entry rest ih => simp only [numbered, List.map_cons, blind, ih]

theorem numbered_eq_of_unplaced_eq (first : Nat) {left right : List TimelineEntry}
    (same : left.map unplaced = right.map unplaced) :
    numbered first left = numbered first right := by
  induction left generalizing first right with
  | nil =>
      obtain rfl : right = [] := by simpa using same.symm
      rfl
  | cons entry left ih =>
      cases right with
      | nil => simp at same
      | cons other right =>
          obtain ⟨here, rest⟩ := List.cons.inj same
          have renumbered : ({ entry with index := UInt64.ofNat first } : TimelineEntry) =
              { other with index := UInt64.ofNat first } :=
            congrArg (fun entry => { entry with index := UInt64.ofNat first }) here
          rw [numbered, numbered, renumbered, ih (first + 1) rest]

/-- What does not look at positions finds the same entries after numbering. -/
theorem map_unplaced_filter_numbered (keep : TimelineEntry → Bool)
    (blind : ∀ entry index, keep { entry with index } = keep entry) (first : Nat)
    (entries : List TimelineEntry) :
    ((numbered first entries).filter keep).map unplaced =
      (entries.filter keep).map unplaced := by
  induction entries generalizing first with
  | nil => rfl
  | cons entry rest ih =>
      by_cases kept : keep entry <;> simp [numbered, blind, kept, ih, unplaced]

/-! ### The timeline -/

theorem build_whole (entries : List TimelineEntry) :
    build .whole entries = numbered 0 (chronological entries) := rfl

/-- The whole timeline puts the entries in order. -/
theorem arranges_build_whole (entries : List TimelineEntry) :
    Arranges (build .whole entries) entries where
  complete := by
    rw [build_whole, map_numbered unplaced fun _ _ => rfl]
    exact (perm_chronological entries).map unplaced
  ascending := by
    have stamps := map_numbered TimelineEntry.timeStamp (fun _ _ => rfl) 0
      (chronological entries)
    rw [build_whole, ← List.pairwise_map, stamps, List.pairwise_map]
    exact ascending_chronological entries
  ties time := by
    rw [build_whole, atTime, map_unplaced_filter_numbered _ fun _ _ => rfl]
    exact congrArg _ (atTime_chronological time entries)
  positions position entry found := by
    rw [build_whole, getElem?_numbered] at found
    obtain ⟨original, -, rfl⟩ := Option.map_eq_some_iff.mp found
    simp

end LightningGateway.Timeline
