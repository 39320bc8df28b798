import Mathlib.Data.List.Chain
import LightningGateway.Proofs.Watermarks

/-!
# Resuming at a watermark

The watermark counts what was handed out and not what was fetched. So a consumer needs to keep
nothing else. A fresh poller that begins at the watermark has lost the entries that were waiting,
but the next listing brings them again, with all that has joined it since: from then on both pollers
are the same.
-/

namespace LightningGateway.Poller

variable {α : Type}

/-- What some uses bring one after another: the entry that is handed out, if there is one, and the
watermark then. -/
def replies : Poller α → List (Use α) → List (Option α × Nat)
  | _, [] => []
  | poller, .observe listing :: rest =>
      (none, (poller.observe listing).watermark) :: replies (poller.observe listing) rest
  | poller, .next :: rest =>
      match poller.next with
      | none => (none, poller.watermark) :: replies poller rest
      | some (entry, later) => (some entry, later.watermark) :: replies later rest

/-! ### What the next listing brings -/

/-- The last of some listings that only grow is the longest one. -/
theorem length_le_of_growing {listings : List (List α)} {last : List α}
    (growing : (listings ++ [last]).IsChain (· <+: ·)) :
    ∀ listing ∈ listings ++ [last], listing.length ≤ last.length := by
  have : Trans (@List.IsPrefix α) (@List.IsPrefix α) (@List.IsPrefix α) := ⟨List.IsPrefix.trans⟩
  obtain ⟨-, -, earlier⟩ := List.pairwise_append.mp (List.isChain_iff_pairwise.mp growing)
  intro listing member
  rcases List.mem_append.mp member with before | itself
  · exact (earlier listing before last (List.mem_singleton_self last)).length_le
  · exact Nat.le_of_eq (congrArg List.length (List.mem_singleton.mp itself))

/-- After a listing that goes on where all others have ended, all of it that was not handed out
waits. -/
theorem Accounts.pending_observe {baseline : Nat} {listings : List (List α)} {tally : Tally α}
    (accounts : Accounts baseline listings tally) {listing : List α}
    (growing : (listings ++ [listing]).IsChain (· <+: ·)) :
    (tally.poller.observe listing).pending = listing.drop tally.poller.watermark := by
  have gathered := (accounts.observe listing).gathered_of_growing growing
    (List.mem_append_right _ (List.mem_singleton_self listing)) (length_le_of_growing growing)
  have handed : (tally.handed.map Prod.snd).length = tally.handed.length := List.length_map ..
  calc (tally.poller.observe listing).pending
      = (tally.add (.observe listing)).gathered.drop (tally.handed.map Prod.snd).length :=
        List.drop_left.symm
    _ = (listing.drop baseline).drop tally.handed.length := by rw [gathered, handed]
    _ = listing.drop tally.poller.watermark := by rw [List.drop_drop, accounts.watermark_eq]

/-- What waits makes no difference after such a listing. -/
theorem Accounts.observe_eq {baseline : Nat} {listings : List (List α)} {tally : Tally α}
    (accounts : Accounts baseline listings tally) {listing : List α}
    (growing : (listings ++ [listing]).IsChain (· <+: ·)) :
    tally.poller.observe listing =
      (Poller.starting tally.poller.watermark).observe listing := by
  have pending := accounts.pending_observe growing
  have fresh : ((Poller.starting tally.poller.watermark).observe listing).pending =
      listing.drop tally.poller.watermark := rfl
  rw [← fresh] at pending
  exact congrArg (Poller.mk tally.poller.watermark) pending

/-! ### Uses after others -/

/-- What was handed out before has no influence. -/
theorem foldl_add (tally : Tally α) (uses : List (Use α)) :
    uses.foldl Tally.add tally =
      ⟨(uses.foldl Tally.add ⟨tally.poller, []⟩).poller,
        tally.handed ++ (uses.foldl Tally.add ⟨tally.poller, []⟩).handed⟩ := by
  induction uses using List.reverseRecOn with
  | nil => simp
  | append_singleton uses use ih =>
      simp only [List.foldl_append, List.foldl_cons, List.foldl_nil]
      rw [ih]
      cases use with
      | observe listing => rfl
      | next =>
          cases handing : (uses.foldl Tally.add ⟨tally.poller, []⟩).poller.next with
          | none => simp only [Tally.add, handing]
          | some handed => simp only [Tally.add, handing, List.append_assoc]

/-- A poller that was given up and resumed at its watermark has handed out, in both lives together,
what it would have handed out in one. -/
theorem tally_resumed {baseline : Nat} {uses : List (Use α)} {listing : List α}
    (growing : (observed uses ++ [listing]).IsChain (· <+: ·)) (further : List (Use α)) :
    let before := tally baseline uses
    let resumed := tally before.poller.watermark (.observe listing :: further)
    tally baseline (uses ++ .observe listing :: further) =
      ⟨resumed.poller, before.handed ++ resumed.handed⟩ := by
  intro before resumed
  have same := (accounts_tally baseline uses).observe_eq growing
  calc tally baseline (uses ++ .observe listing :: further)
      = further.foldl Tally.add (before.add (.observe listing)) := by
        rw [tally, List.foldl_append]
        rfl
    _ = ⟨resumed.poller, before.handed ++ resumed.handed⟩ := by
        rw [foldl_add, Tally.add, same]
        rfl

/-! ### Several lives -/

/-- A poller that is given up after each of some lists of uses, and resumed for the next one at the
watermark that was reached. -/
def lives (baseline : Nat) (all : List (List (Use α))) : Tally α :=
  all.foldl (fun before uses =>
    let resumed := tally before.poller.watermark uses
    ⟨resumed.poller, before.handed ++ resumed.handed⟩) ⟨.starting baseline, []⟩

/-- Each life begins with a look at the listing. -/
def Looks (uses : List (Use α)) : Prop := ∃ listing further, uses = .observe listing :: further

/-- On a listing that only grows, several lives are as good as one. -/
theorem lives_eq_tally (baseline : Nat) {all : List (List (Use α))}
    (look : ∀ uses ∈ all, Looks uses) (growing : (observed all.flatten).IsChain (· <+: ·)) :
    lives baseline all = tally baseline all.flatten := by
  induction all using List.reverseRecOn with
  | nil => rfl
  | append_singleton all uses ih =>
      obtain ⟨listing, further, rfl⟩ :=
        look uses (List.mem_append_right _ (List.mem_singleton_self uses))
      rw [List.flatten_append, List.flatten_singleton] at growing ⊢
      have upTo : observed (all.flatten ++ .observe listing :: further) =
          (observed all.flatten ++ [listing]) ++ observed further := by simp [observed]
      rw [upTo] at growing
      have first := ih (fun uses member => look uses (List.mem_append_left _ member))
        growing.left_of_append.left_of_append
      rw [tally_resumed growing.left_of_append, ← first, lives, List.foldl_append]
      rfl

theorem observed_append (uses further : List (Use α)) (listing : List α) :
    observed (uses ++ .observe listing :: further) =
      observed uses ++ listing :: observed further := by
  simp [observed]

/-- On listings that only grow, a poller can be given up at any moment and resumed at its watermark.
From the next listing on the fresh poller hands out the same entries as the old one would, with the
same watermarks. Before and after together each position from the baseline on is handed out once,
and no entry of the longest listing is lost. -/
theorem resumed_at_watermark (baseline : Nat) (uses further : List (Use α)) (listing : List α)
    (growing : (observed uses ++ [listing]).IsChain (· <+: ·)) :
    let before := tally baseline uses
    let resumed := tally before.poller.watermark (.observe listing :: further)
    let handed := before.handed ++ resumed.handed
    replies (starting before.poller.watermark) (.observe listing :: further) =
        replies before.poller (.observe listing :: further) ∧
      tally baseline (uses ++ .observe listing :: further) = ⟨resumed.poller, handed⟩ ∧
      resumed.poller.watermark = baseline + handed.length ∧
      handed.map Prod.fst = List.range' baseline handed.length ∧
      ((observed uses ++ listing :: observed further).IsChain (· <+: ·) →
        ∀ longest ∈ observed uses ++ listing :: observed further,
          (∀ other ∈ observed uses ++ listing :: observed further,
            other.length ≤ longest.length) →
          handed.map Prod.snd ++ resumed.poller.pending = longest.drop baseline) := by
  intro before resumed handed
  have whole : tally baseline (uses ++ .observe listing :: further) =
      ⟨resumed.poller, handed⟩ := tally_resumed growing further
  have accounts := accounts_tally baseline (uses ++ .observe listing :: further)
  rw [whole, observed_append] at accounts
  refine ⟨?_, whole, accounts.watermark_eq, accounts.positions, ?_⟩
  · rw [replies, replies, ← (accounts_tally baseline uses).observe_eq growing]
  · intro onward longest member longer
    exact accounts.gathered_of_growing onward member longer

/-- One entry was handed out and another one waits. -/
def interruptedUses : List (Use Nat) := [.observe [10, 11, 12], .next]

/-- The listing has grown twice since. -/
def laterUses : List (Use Nat) := [.next, .next, .observe [10, 11, 12, 13, 14], .next, .next]

theorem resumed_at_second_entry :
    let before := tally 1 interruptedUses
    let resumed := tally 2 (.observe [10, 11, 12, 13] :: laterUses)
    (observed interruptedUses ++ [[10, 11, 12, 13]]).IsChain (· <+: ·) ∧
      before.poller = ⟨2, [12]⟩ ∧
      replies before.poller (.observe [10, 11, 12, 13] :: laterUses) =
        [(none, 2), (some 12, 3), (some 13, 4), (none, 4), (some 14, 5), (none, 5)] ∧
      replies (starting 2) (.observe [10, 11, 12, 13] :: laterUses) =
        replies before.poller (.observe [10, 11, 12, 13] :: laterUses) ∧
      resumed.poller.watermark = 1 + 4 ∧
      (before.handed ++ resumed.handed).map Prod.snd ++ resumed.poller.pending =
        [10, 11, 12, 13, 14].drop 1 := by
  intro before resumed
  have growing : (observed interruptedUses ++ [[10, 11, 12, 13]]).IsChain (· <+: ·) := by decide
  obtain ⟨same, -, counted, -, complete⟩ :=
    resumed_at_watermark 1 interruptedUses laterUses [10, 11, 12, 13] growing
  exact ⟨growing, rfl, rfl, same, counted,
    complete (by decide) [10, 11, 12, 13, 14] (by decide) (by decide)⟩

end LightningGateway.Poller
