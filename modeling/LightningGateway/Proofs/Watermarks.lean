import Mathlib.Data.List.Induction
import Mathlib.Data.List.Pairwise
import LightningGateway.Subscription

/-!
# No entry twice, none left out

Listings are observed and entries are handed out in any order, and nothing is known of the
listings: one can be shorter than the last, and have other entries in the old places. A poller still
hands out one entry for each position from the baseline on, in order. It takes the entry from the
first listing that reaches the position. What it has handed out and what it still holds reach
together as far as the longest listing. If the listings only grow, this is the longest listing
itself without the entries that were known from the start.
-/

namespace LightningGateway.Poller

variable {α : Type}

/-- What can be asked of a poller. -/
inductive Use (α : Type) where
  | observe (listing : List α)
  | next
  deriving Repr, DecidableEq

/-- A poller in use. -/
structure Tally (α : Type) where
  poller : Poller α
  /-- The entries that were handed out, each at the watermark of that time. -/
  handed : List (Nat × α)
  deriving Repr, DecidableEq

/-- The entries that were handed out or are held. -/
def Tally.gathered (tally : Tally α) : List α := tally.handed.map Prod.snd ++ tally.poller.pending

def Tally.add (tally : Tally α) : Use α → Tally α
  | .observe listing => { tally with poller := tally.poller.observe listing }
  | .next =>
      match tally.poller.next with
      | none => tally
      | some (entry, poller) => ⟨poller, tally.handed ++ [(tally.poller.watermark, entry)]⟩

/-- A poller after some uses. -/
def tally (baseline : Nat) (uses : List (Use α)) : Tally α :=
  uses.foldl Tally.add ⟨.starting baseline, []⟩

/-- The listings that were observed. -/
def observed (uses : List (Use α)) : List (List α) :=
  uses.filterMap fun
    | .observe listing => some listing
    | .next => none

/-- The length of the longest listing. -/
def reach (listings : List (List α)) : Nat := (listings.map List.length).foldl max 0

/-- The entry at a position of the first listing that is long enough. -/
def firstAt (listings : List (List α)) (position : Nat) : Option α :=
  (listings.find? (position < ·.length)).bind (·[position]?)

/-! ### Listings -/

theorem reach_append_singleton (listings : List (List α)) (listing : List α) :
    reach (listings ++ [listing]) = max (reach listings) listing.length := by
  simp [reach]

theorem firstAt_append_singleton (listings : List (List α)) (listing : List α) (position : Nat) :
    firstAt (listings ++ [listing]) position =
      (firstAt listings position).or listing[position]? := by
  unfold firstAt
  rw [List.find?_append]
  cases found : listings.find? (position < ·.length) with
  | none =>
      by_cases long : position < listing.length
      · simp [long]
      · simp [long]
  | some first =>
      have long : position < first.length := by simpa using List.find?_some found
      simp [long]

/-- Of listings that only grow, one begins as the other for any two of them. -/
theorem prefix_or_prefix_of_growing {listings : List (List α)}
    (growing : listings.IsChain (· <+: ·)) {first second : List α} (earlier : first ∈ listings)
    (later : second ∈ listings) : first <+: second ∨ second <+: first := by
  have : Trans (@List.IsPrefix α) (@List.IsPrefix α) (@List.IsPrefix α) := ⟨List.IsPrefix.trans⟩
  let comparable (first second : List α) : Prop := first <+: second ∨ second <+: first
  have : Std.Symm comparable := ⟨fun _ _ => Or.symm⟩
  have pairs : listings.Pairwise comparable :=
    (List.isChain_iff_pairwise.mp growing).imp Or.inl
  exact pairs.forall_of_forall (fun listing _ => .inl (List.prefix_refl listing)) earlier later

/-- If the listings only grow, the longest one has the same entries as the first that is long
enough. -/
theorem firstAt_of_growing {listings : List (List α)} (growing : listings.IsChain (· <+: ·))
    {longest : List α} (member : longest ∈ listings)
    (longer : ∀ listing ∈ listings, listing.length ≤ longest.length) (position : Nat) :
    firstAt listings position = longest[position]? := by
  unfold firstAt
  cases found : listings.find? (position < ·.length) with
  | none =>
      have short := List.find?_eq_none.mp found longest member
      rw [List.getElem?_eq_none (by simpa using short)]
      rfl
  | some first =>
      have long : position < first.length := by simpa using List.find?_some found
      have among := List.mem_of_find?_eq_some found
      have longestLong : position < longest.length := Nat.lt_of_lt_of_le long (longer first among)
      change first[position]? = longest[position]?
      rw [List.getElem?_eq_getElem long, List.getElem?_eq_getElem longestLong]
      rcases prefix_or_prefix_of_growing growing among member with before | before
      · rw [before.getElem long]
      · rw [before.getElem longestLong]

theorem reach_le_iff {listings : List (List α)} {limit : Nat} :
    reach listings ≤ limit ↔ ∀ listing ∈ listings, listing.length ≤ limit := by
  induction listings using List.reverseRecOn with
  | nil => simp [reach]
  | append_singleton listings listing ih =>
      rw [reach_append_singleton, Nat.max_le, ih]
      simp [or_imp, forall_and]

/-! ### One use -/

theorem next_eq_some_iff {poller later : Poller α} {entry : α} :
    poller.next = some (entry, later) ↔
      poller.pending = entry :: later.pending ∧ later.watermark = poller.watermark + 1 := by
  obtain ⟨watermark, pending⟩ := poller
  obtain ⟨watermarkLater, rest⟩ := later
  cases pending with
  | nil => simp [Poller.next]
  | cons first others => simp [Poller.next, and_comm, and_assoc, eq_comm]

theorem Tally.add_next {tally : Tally α} {entry : α} {later : Poller α}
    (handing : tally.poller.next = some (entry, later)) :
    tally.add .next = ⟨later, tally.handed ++ [(tally.poller.watermark, entry)]⟩ := by
  rw [Tally.add, handing]

/-- How a poller stands after some listings were observed. -/
structure Accounts (baseline : Nat) (listings : List (List α)) (tally : Tally α) : Prop where
  watermark_eq : tally.poller.watermark = baseline + tally.handed.length
  reach_eq :
    tally.poller.watermark + tally.poller.pending.length = max baseline (reach listings)
  positions : tally.handed.map Prod.fst = List.range' baseline tally.handed.length
  gathered_eq : ∀ place, tally.gathered[place]? = firstAt listings (baseline + place)

namespace Accounts

variable {baseline : Nat} {listings : List (List α)} {tally : Tally α}

theorem starting (baseline : Nat) :
    Accounts baseline [] (⟨.starting baseline, []⟩ : Tally α) where
  watermark_eq := rfl
  reach_eq := (Nat.max_zero baseline).symm
  positions := rfl
  gathered_eq _ := rfl

theorem length_gathered (accounts : Accounts baseline listings tally) :
    baseline + tally.gathered.length =
      tally.poller.watermark + tally.poller.pending.length := by
  rw [accounts.watermark_eq, Tally.gathered, List.length_append, List.length_map, Nat.add_assoc]

theorem observe (accounts : Accounts baseline listings tally) (listing : List α) :
    Accounts baseline (listings ++ [listing]) (tally.add (.observe listing)) where
  watermark_eq := accounts.watermark_eq
  reach_eq := by
    have reached := accounts.reach_eq
    rw [reach_append_singleton]
    simp only [Tally.add, Poller.observe, List.length_append, List.length_drop]
    omega
  positions := accounts.positions
  gathered_eq place := by
    have long := accounts.length_gathered
    have more : (tally.add (.observe listing)).gathered =
        tally.gathered ++ listing.drop (baseline + tally.gathered.length) := by
      rw [long]
      exact (List.append_assoc ..).symm
    rw [more, firstAt_append_singleton, ← accounts.gathered_eq, List.getElem?_append]
    split
    case isTrue there => rw [List.getElem?_eq_getElem there, Option.some_or]
    case isFalse beyond =>
      have place_eq : baseline + tally.gathered.length + (place - tally.gathered.length) =
          baseline + place := by omega
      rw [List.getElem?_eq_none (Nat.le_of_not_lt beyond), Option.none_or, List.getElem?_drop,
        place_eq]

theorem next (accounts : Accounts baseline listings tally) :
    Accounts baseline listings (tally.add .next) := by
  cases handing : tally.poller.next with
  | none =>
      rw [Tally.add, handing]
      exact accounts
  | some handed =>
      obtain ⟨entry, later⟩ := handed
      obtain ⟨waited, counted⟩ := next_eq_some_iff.mp handing
      have reached := accounts.reach_eq
      rw [waited, List.length_cons] at reached
      rw [Tally.add_next handing]
      exact {
        watermark_eq := by
          rw [counted, accounts.watermark_eq, List.length_append, List.length_singleton,
            Nat.add_assoc]
        reach_eq := by
          change later.watermark + later.pending.length = _
          omega
        positions := by
          rw [List.map_append, accounts.positions, List.length_append, List.length_singleton,
            List.range'_1_concat, accounts.watermark_eq]
          rfl
        -- The entry moves from the queue to what was handed out.
        gathered_eq := by
          have gathered := accounts.gathered_eq
          rw [Tally.gathered, waited] at gathered
          simpa [Tally.gathered] using gathered }

theorem le_limit (accounts : Accounts baseline listings tally) {limit : Nat}
    (known : baseline ≤ limit) (short : ∀ listing ∈ listings, listing.length ≤ limit) :
    tally.poller.watermark + tally.poller.pending.length ≤ limit := by
  rw [accounts.reach_eq]
  exact Nat.max_le.mpr ⟨known, reach_le_iff.mpr short⟩

theorem firstAt_of_mem (accounts : Accounts baseline listings tally) {position : Nat} {entry : α}
    (member : (position, entry) ∈ tally.handed) : firstAt listings position = some entry := by
  obtain ⟨place, there, found⟩ := List.getElem_of_mem member
  have position_eq : position = baseline + place := by
    have placed := congrArg (·[place]?) accounts.positions
    simp only [List.getElem?_map, List.getElem?_eq_getElem there, found,
      List.getElem?_range' there] at placed
    simpa using placed
  have gathered : tally.gathered[place]? = some entry := by
    rw [Tally.gathered, List.getElem?_append_left (by simpa using there), List.getElem?_map,
      List.getElem?_eq_getElem there, found]
    rfl
  rw [position_eq, ← accounts.gathered_eq, gathered]

theorem gathered_of_growing (accounts : Accounts baseline listings tally)
    (growing : listings.IsChain (· <+: ·)) {longest : List α} (member : longest ∈ listings)
    (longer : ∀ listing ∈ listings, listing.length ≤ longest.length) :
    tally.gathered = longest.drop baseline := by
  apply List.ext_getElem?
  intro place
  rw [accounts.gathered_eq, firstAt_of_growing growing member longer, List.getElem?_drop]

end Accounts

/-! ### Any uses -/

theorem accounts_tally (baseline : Nat) (uses : List (Use α)) :
    Accounts baseline (observed uses) (tally baseline uses) := by
  induction uses using List.reverseRecOn with
  | nil => exact .starting baseline
  | append_singleton uses use ih =>
      rw [tally, List.foldl_append, ← tally, observed, List.filterMap_append, ← observed]
      cases use with
      | observe listing => exact ih.observe listing
      | next =>
          change Accounts baseline (observed uses ++ []) _
          rw [List.append_nil]
          exact ih.next

/-- Whatever the listings are and whenever they are observed, the watermark and the entries that
wait account for each position up to the longest listing once. No sum on the way exceeds a limit
that the baseline and the listings keep to. -/
theorem positions_handed_out_once (baseline : Nat) (uses : List (Use α)) :
    let poller := (tally baseline uses).poller
    let handed := (tally baseline uses).handed
    let listings := observed uses
    poller.watermark = baseline + handed.length ∧
      poller.watermark + poller.pending.length = max baseline (reach listings) ∧
      (∀ limit, baseline ≤ limit → (∀ listing ∈ listings, listing.length ≤ limit) →
        poller.watermark + poller.pending.length ≤ limit ∧
          ∀ entry later, poller.next = some (entry, later) → later.watermark ≤ limit) ∧
      handed.map Prod.fst = List.range' baseline handed.length ∧
      (∀ position entry, (position, entry) ∈ handed →
        ∃ listing, listings.find? (position < ·.length) = some listing ∧
          listing[position]? = some entry) ∧
      (listings.IsChain (· <+: ·) → ∀ longest ∈ listings,
        (∀ listing ∈ listings, listing.length ≤ longest.length) →
          handed.map Prod.snd ++ poller.pending = longest.drop baseline) := by
  intro poller handed listings
  have accounts := accounts_tally baseline uses
  refine ⟨accounts.watermark_eq, accounts.reach_eq, fun limit known short => ?_,
    accounts.positions, fun position entry member => ?_, fun growing longest member longer => ?_⟩
  · have bounded : poller.watermark + poller.pending.length ≤ limit :=
      accounts.le_limit known short
    refine ⟨bounded, fun entry later handing => ?_⟩
    obtain ⟨waited, counted⟩ := next_eq_some_iff.mp handing
    rw [waited, List.length_cons] at bounded
    omega
  · exact Option.bind_eq_some_iff.mp (accounts.firstAt_of_mem member)
  · exact accounts.gathered_of_growing growing member longer

/-- Of the three listings the second is too short, and the third has other entries than the
first. -/
def shiftingUses : List (Use Nat) :=
  [.observe [10, 11, 12], .next, .observe [20], .observe [30, 31, 32, 33, 34], .next, .next, .next]

/-- The second listing goes on where the first one ends. -/
def growingUses : List (Use Nat) := [.observe [10, 11], .next, .next, .observe [10, 11, 12, 13]]

theorem listed_positions_handed_out_once :
    let shifting := tally 1 shiftingUses
    let growing := tally 1 growingUses
    shifting.handed = [(1, 11), (2, 12), (3, 33), (4, 34)] ∧
      shifting.poller.watermark = 1 + 4 ∧
      (∃ listing, (observed shiftingUses).find? (3 < ·.length) = some listing ∧
        listing[3]? = some 33) ∧
      (observed growingUses).IsChain (· <+: ·) ∧
      growing.poller.watermark + growing.poller.pending.length ≤ 4 ∧
      growing.handed.map Prod.snd ++ growing.poller.pending = [10, 11, 12, 13].drop 1 := by
  intro shifting growing
  have handed : shifting.handed = [(1, 11), (2, 12), (3, 33), (4, 34)] := by decide
  have extended : (observed growingUses).IsChain (· <+: ·) := by decide
  obtain ⟨counted, -, -, -, first, -⟩ := positions_handed_out_once 1 shiftingUses
  obtain ⟨-, -, bounded, -, -, gathered⟩ := positions_handed_out_once 1 growingUses
  refine ⟨handed, ?_, first 3 33 ?_, extended, (bounded 4 (by decide) (by decide)).1,
    gathered extended [10, 11, 12, 13] (by decide) (by decide)⟩
  · rw [counted]
    exact congrArg (1 + ·.length) handed
  · exact handed ▸ by decide

end LightningGateway.Poller
