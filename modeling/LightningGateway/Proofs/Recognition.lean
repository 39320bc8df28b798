import LightningGateway.Classification

/-!
# Recognizing errors

The rules for a daemon that cannot be reached are tried before those of an operation, and the
general ones after them. The first rule that fits the detail of an error decides. So every
operation recognizes a daemon that cannot be reached, an operation has only few kinds of failures
of its own, and of an error that no rule fits nothing is lost.
-/

namespace LightningGateway

/-- A text stands in the detail of an error. -/
def TransportError.Mentions (error : TransportError) (text : String) : Prop :=
  text.toList <:+: error.detail.toList

/-- An error that tells that the daemon cannot be reached or refuses access. -/
inductive TransportError.Unreached : TransportError → Prop where
  | connect (detail : String) : Unreached (.connect detail)
  | permissionDenied (detail : String) : Unreached (.permissionDenied detail)
  /-- The command line client has not reached the daemon. -/
  | client {error : TransportError} (connecting : error.Mentions "Connecting to")
      (failed : error.Mentions "Connection refused" ∨
        error.Mentions "No such file or directory") :
      Unreached error

/-- The kinds of failures that an operation may make of an error besides those that every
operation has. -/
def Operation.ownKinds : Operation → List FailureKind
  | sendCoins => [.invalidArgument, .preconditionFailed]
  | sendPayment => [.unprocessable, .invalidArgument]
  | decodePayRequest | openChannel | closeChannel => [.invalidArgument]
  | connectPeer => [.invalidArgument, .timeout]
  | _ => []

namespace Rule

theorem kind_of_mem_unreachable {rule : Rule} (member : rule ∈ unreachable) :
    rule.kind = .unavailable := by
  have all : ∀ rule ∈ unreachable, rule.kind = .unavailable := by decide
  exact all rule member

theorem kind_of_mem_general {rule : Rule} (member : rule ∈ general) :
    rule.kind = .unavailable ∨ rule.kind = .internal := by
  have all : ∀ rule ∈ general, rule.kind = .unavailable ∨ rule.kind = .internal := by decide
  exact all rule member

theorem kind_of_mem_ofOperation {operation : Operation} {rule : Rule}
    (member : rule ∈ ofOperation operation) :
    rule.kind = .internal ∨ rule.kind ∈ operation.ownKinds := by
  have all : ∀ rule ∈ ofOperation operation,
      rule.kind = .internal ∨ rule.kind ∈ operation.ownKinds := by
    cases operation <;>
      simp [ofOperation, sendCoins, sendPayment, decodePayRequest, connectPeer, openChannel,
        closeChannel, Operation.ownKinds]
  exact all rule member

theorem kind_of_mem_applicable {operation : Operation} {rule : Rule}
    (member : rule ∈ applicable operation) :
    rule.kind = .unavailable ∨ rule.kind = .internal ∨ rule.kind ∈ operation.ownKinds := by
  rw [applicable, List.mem_append, List.mem_append] at member
  rcases member with (early | own) | late
  · exact Or.inl (kind_of_mem_unreachable early)
  · exact Or.inr (kind_of_mem_ofOperation own)
  · rcases kind_of_mem_general late with unavailable | internal
    · exact Or.inl unavailable
    · exact Or.inr (Or.inl internal)

end Rule

namespace Classification

/-- A detail that a rule fits gets the kind of the first such rule. -/
theorem ofDetail_of_find? {operation : Operation} {detail : String} {rule : Rule}
    (first : (Rule.applicable operation).find? (fun rule => rule.pattern.fits detail) =
      some rule) :
    (ofDetail operation detail).failure.kind = rule.kind := by
  rw [ofDetail, first]

theorem ofDetail_of_unfit {operation : Operation} {detail : String}
    (unfit : ∀ rule ∈ Rule.applicable operation, rule.pattern.fits detail = false) :
    ofDetail operation detail =
      ⟨⟨.internal, detail⟩,
        ⟨.error, "unclassified backend error: " ++ detail, operation.name, none⟩⟩ := by
  have none_fits : (Rule.applicable operation).find? (fun rule => rule.pattern.fits detail) =
      none := by
    rw [List.find?_eq_none]
    intro rule member fits
    rw [unfit rule member] at fits
    cases fits
  rw [ofDetail, none_fits]

theorem kind_ofDetail (operation : Operation) (detail : String) :
    (ofDetail operation detail).failure.kind = .unavailable ∨
      (ofDetail operation detail).failure.kind = .internal ∨
      (ofDetail operation detail).failure.kind ∈ operation.ownKinds := by
  cases first : (Rule.applicable operation).find? (fun rule => rule.pattern.fits detail) with
  | none =>
      have unfit : ∀ rule ∈ Rule.applicable operation, rule.pattern.fits detail = false := by
        intro rule member
        simpa using List.find?_eq_none.mp first rule member
      rw [ofDetail_of_unfit unfit]
      exact Or.inr (Or.inl rfl)
  | some rule =>
      rw [ofDetail_of_find? first]
      exact Rule.kind_of_mem_applicable (List.mem_of_find?_eq_some first)

/-- The rules for a daemon that cannot be reached are tried first, so no other rule can come
before them. -/
theorem ofDetail_of_unreachable {operation : Operation} {detail : String} {rule : Rule}
    (member : rule ∈ Rule.unreachable) (fits : rule.pattern.fits detail = true) :
    (ofDetail operation detail).failure.kind = .unavailable := by
  cases first : Rule.unreachable.find? (fun rule => rule.pattern.fits detail) with
  | none => exact absurd fits (List.find?_eq_none.mp first rule member)
  | some earliest =>
      have whole : (Rule.applicable operation).find? (fun rule => rule.pattern.fits detail) =
          some earliest := by
        rw [Rule.applicable, List.append_assoc, List.find?_append, first, Option.some_or]
      rw [ofDetail_of_find? whole]
      exact Rule.kind_of_mem_unreachable (List.mem_of_find?_eq_some first)

theorem ofDetail_of_mentions {operation : Operation} {error : TransportError}
    (connecting : error.Mentions "Connecting to")
    (failed : error.Mentions "Connection refused" ∨
      error.Mentions "No such file or directory") :
    (ofDetail operation error.detail).failure.kind = .unavailable := by
  have contains {text : String} (mentioned : error.Mentions text) :
      Text.contains error.detail text = true :=
    (Text.contains_iff_infix error.detail text).mpr mentioned
  have fits {text : String} (mentioned : error.Mentions text) :
      (Pattern.containingAll ["Connecting to", text]).fits error.detail = true := by
    simp [Pattern.fits, contains connecting, contains mentioned]
  rcases failed with refused | missing
  · exact ofDetail_of_unreachable (List.mem_cons_self) (fits refused)
  · exact ofDetail_of_unreachable (List.mem_cons_of_mem _ List.mem_cons_self) (fits missing)

theorem ofDetail_of_blank (operation : Operation) :
    (ofDetail operation "").failure.kind = .internal := by
  have unfit : ∀ rule ∈ Rule.applicable operation, rule.pattern.fits "" = false := by
    cases operation <;> decide +kernel
  rw [ofDetail_of_unfit unfit]

/-- Each kind that an operation has of its own is the kind of some detail. -/
theorem exists_detail_of_ownKind {operation : Operation} {kind : FailureKind}
    (own : kind ∈ operation.ownKinds) :
    ∃ detail, (ofDetail operation detail).failure.kind = kind := by
  cases operation with
  | sendCoins =>
      have kinds : kind = .invalidArgument ∨ kind = .preconditionFailed := by
        simpa [Operation.ownKinds] using own
      rcases kinds with rfl | rfl
      · exact ⟨"Could not parse destination address", by decide +kernel⟩
      · exact ⟨"insufficient funds available", by decide +kernel⟩
  | sendPayment =>
      have kinds : kind = .unprocessable ∨ kind = .invalidArgument := by
        simpa [Operation.ownKinds] using own
      rcases kinds with rfl | rfl
      · exact ⟨"Ran out of routes to try after", by decide +kernel⟩
      · exact ⟨"Invalid bolt11: ", by decide +kernel⟩
  | decodePayRequest =>
      obtain rfl := List.mem_singleton.mp own
      exact ⟨"Invalid bolt11: Bad bech32 string", by decide +kernel⟩
  | connectPeer =>
      have kinds : kind = .invalidArgument ∨ kind = .timeout := by
        simpa [Operation.ownKinds] using own
      rcases kinds with rfl | rfl
      · exact ⟨"All addresses failed", by decide +kernel⟩
      · exact ⟨"Connection timed out", by decide +kernel⟩
  | openChannel =>
      obtain rfl := List.mem_singleton.mp own
      exact ⟨"amount: should be a satoshi amount", by decide +kernel⟩
  | closeChannel =>
      obtain rfl := List.mem_singleton.mp own
      exact ⟨"Channel is in state AWAITING_UNILATERAL", by decide +kernel⟩
  | _ => cases own

/-- Whatever is done with an error, its event names the operation and ends with the detail. -/
theorem event_ofDetail (operation : Operation) (detail : String) :
    (ofDetail operation detail).event.operation = operation.name ∧
      detail.toList <:+ (ofDetail operation detail).event.message.toList := by
  unfold ofDetail
  split
  · refine ⟨rfl, ?_⟩
    rw [String.toList_append]
    exact List.suffix_append _ _
  · refine ⟨rfl, ?_⟩
    rw [String.toList_append]
    exact List.suffix_append _ _

/-- An error that is neither a missing connection nor a missing permission is judged by its
detail. -/
theorem ofError_of_detail {operation : Operation} {error : TransportError}
    (connected : ∀ detail, error ≠ .connect detail)
    (permitted : ∀ detail, error ≠ .permissionDenied detail) :
    ofError operation error = ofDetail operation error.detail := by
  cases error with
  | connect detail => exact absurd rfl (connected detail)
  | permissionDenied detail => exact absurd rfl (permitted detail)
  | _ => rfl

theorem kind_ofError (operation : Operation) (error : TransportError) :
    (ofError operation error).failure.kind = .unavailable ∨
      (ofError operation error).failure.kind = .internal ∨
      (ofError operation error).failure.kind ∈ operation.ownKinds := by
  cases error with
  | connect detail => exact Or.inl rfl
  | permissionDenied detail => exact Or.inl rfl
  | _ => exact kind_ofDetail operation _

theorem kind_ofError_of_unreached (operation : Operation) {error : TransportError}
    (unreached : error.Unreached) : (ofError operation error).failure.kind = .unavailable := by
  cases unreached with
  | connect detail => rfl
  | permissionDenied detail => rfl
  | client connecting failed =>
      have judged := @ofDetail_of_mentions operation error connecting failed
      cases error with
      | connect detail => rfl
      | permissionDenied detail => rfl
      | _ => exact judged

theorem event_ofError (operation : Operation) (error : TransportError) :
    (ofError operation error).event.operation = operation.name ∧
      error.detail.toList <:+ (ofError operation error).event.message.toList := by
  cases error with
  | connect detail =>
      refine ⟨rfl, ?_⟩
      rw [ofError, String.toList_append]
      exact List.suffix_append _ _
  | permissionDenied detail =>
      refine ⟨rfl, ?_⟩
      rw [ofError, String.toList_append]
      exact List.suffix_append _ _
  | _ => exact event_ofDetail operation _

/-- The kinds of failures that an operation makes of errors: each of its own kinds, and the two
that every operation has. -/
theorem exists_kind_ofError_iff (operation : Operation) (kind : FailureKind) :
    (∃ error, (ofError operation error).failure.kind = kind) ↔
      kind = .unavailable ∨ kind = .internal ∨ kind ∈ operation.ownKinds := by
  constructor
  · rintro ⟨error, rfl⟩
    exact kind_ofError operation error
  · rintro (rfl | rfl | own)
    · exact ⟨.connect "", rfl⟩
    · exact ⟨.other "", ofDetail_of_blank operation⟩
    · obtain ⟨detail, judged⟩ := exists_detail_of_ownKind own
      exact ⟨.other detail, judged⟩

theorem not_mem_ownKinds (operation : Operation) :
    FailureKind.configInvalid ∉ operation.ownKinds ∧ FailureKind.notFound ∉ operation.ownKinds := by
  cases operation <;> simp [Operation.ownKinds]

/-- Every operation finds a daemon unavailable that cannot be reached, no error is taken for a
wrong configuration or a missing thing, and only the own kinds of an operation come besides. An
event with the whole detail is reported of each error; of an error that no rule fits the failure
keeps the detail as it is, and the event is an error. -/
theorem kinds_and_events_of_errors (operation : Operation) :
    (∀ error : TransportError, error.Unreached →
      (ofError operation error).failure.kind = .unavailable) ∧
    (∀ error, (ofError operation error).failure.kind ≠ .configInvalid ∧
      (ofError operation error).failure.kind ≠ .notFound) ∧
    (∀ kind, (∃ error, (ofError operation error).failure.kind = kind) ↔
      kind = .unavailable ∨ kind = .internal ∨ kind ∈ operation.ownKinds) ∧
    (∀ error, (ofError operation error).event.operation = operation.name ∧
      error.detail.toList <:+ (ofError operation error).event.message.toList) ∧
    (∀ error, (∀ detail, error ≠ .connect detail) → (∀ detail, error ≠ .permissionDenied detail) →
      (∀ rule ∈ Rule.applicable operation, rule.pattern.fits error.detail = false) →
      ofError operation error =
        ⟨⟨.internal, error.detail⟩,
          ⟨.error, "unclassified backend error: " ++ error.detail, operation.name, none⟩⟩) := by
  refine ⟨fun error => kind_ofError_of_unreached operation, fun error => ?_,
    exists_kind_ofError_iff operation, event_ofError operation, ?_⟩
  · obtain ⟨noConfig, noMissing⟩ := not_mem_ownKinds operation
    rcases kind_ofError operation error with unavailable | internal | own
    · rw [unavailable]
      exact ⟨nofun, nofun⟩
    · rw [internal]
      exact ⟨nofun, nofun⟩
    · exact ⟨fun same => noConfig (same ▸ own), fun same => noMissing (same ▸ own)⟩
  · intro error connected permitted unfit
    rw [ofError_of_detail connected permitted, ofDetail_of_unfit unfit]

/-- The rule of an operation for refused connections does not hide that the daemon is down. -/
theorem kinds_and_events_of_refusals :
    (ofError .connectPeer (.rpc none "Connection refused")).failure.kind = .timeout ∧
    (ofError .connectPeer (.command
      "lightning-cli: Connecting to 'lightning-rpc': Connection refused")).failure.kind =
        .unavailable ∧
    ofError .connectPeer (.rpc none "the moon is made of cheese") =
      ⟨⟨.internal, "the moon is made of cheese"⟩,
        ⟨.error, "unclassified backend error: the moon is made of cheese", "connect_peer",
          none⟩⟩ := by
  obtain ⟨unreached, -, -, -, unfit⟩ := kinds_and_events_of_errors .connectPeer
  refine ⟨by decide +kernel, unreached _ (.client ?_ (.inl ?_)), ?_⟩
  · exact (Text.contains_iff_infix _ _).mp (by decide +kernel)
  · exact (Text.contains_iff_infix _ _).mp (by decide +kernel)
  · exact unfit (.rpc none "the moon is made of cheese") nofun nofun (by decide +kernel)

end Classification

end LightningGateway
