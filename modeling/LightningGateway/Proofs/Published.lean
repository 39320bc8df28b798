import LightningGateway.Channel
import LightningGateway.Implementation
import LightningGateway.NodeInfo
import LightningGateway.Proofs.Objects
import LightningGateway.Proofs.Texts
import LightningGateway.Transaction
import LightningGateway.Wallet

/-!
# The published format

Every type that the gateway publishes is read back from what is written for it. A record is also
read from its fields in any order and among others, from fewer fields if something stands in for
those that are left out, and from its values by position.
-/

namespace LightningGateway

namespace Codec

variable {α : Type}

/-! ### Parts of records -/

theorem plain_boolean (depth : Nat) : boolean.Plain depth := by
  intro value
  rw [boolean, Json.Plain]
  trivial

theorem plain_enumeration (depth : Nat) (variants : List (String × α)) (nameOf : α → String) :
    (enumeration variants nameOf).Plain depth := by
  intro value
  rw [enumeration, Json.Plain]
  trivial

theorem read_size (origin : Origin) (document : Document) :
    size.read origin document = (readNatural Bound.word64 "usize" document).map UInt64.ofNat :=
  rfl

theorem faithful_size : size.Faithful := by
  intro origin value
  have read := readNatural_ofNat "usize" (toNat_lt_word64 value)
  rw [read_size, show size.write value = .ofNat value.toNat from rfl, read]
  exact congrArg Except.ok UInt64.ofNat_toNat

theorem ofNat_ne_null (value : Nat) : Json.ofNat value ≠ .null := nofun

/-- A codec for the fields of published records: it is faithful, it writes plain values, and a
value written as `null` stands in for itself where it is left out. -/
structure Regular (codec : Codec α) : Prop where
  faithful : codec.Faithful
  plain : codec.Plain 1
  null : ∀ value, codec.write value = .null → codec.absent = some value

@[simp]
theorem regular_text : text.Regular := ⟨faithful_text, plain_text 1, nofun⟩

@[simp]
theorem regular_boolean : boolean.Regular := ⟨fun _ _ => rfl, plain_boolean 1, nofun⟩

@[simp]
theorem regular_word64 : word64.Regular where
  faithful := faithful_word64
  plain := plain_word64 1
  null value written := absurd written (ofNat_ne_null value.toNat)

@[simp]
theorem regular_word32 : word32.Regular where
  faithful := faithful_word32
  plain := plain_word32 1
  null value written := absurd written (ofNat_ne_null value.toNat)

@[simp]
theorem regular_size : size.Regular where
  faithful := faithful_size
  plain := plain_word64 1
  null value written := absurd written (ofNat_ne_null value.toNat)

theorem Regular.optional {codec : Codec α} (regular : codec.Regular)
    (present : ∀ value, codec.write value ≠ .null) : (Codec.optional codec).Regular where
  faithful := regular.faithful.optional present
  plain := regular.plain.optional
  null
    | none, _ => rfl
    | some value, written => absurd written (present value)

@[simp]
theorem regular_optionalText : (optional text).Regular := regular_text.optional fun _ => nofun

@[simp]
theorem regular_optionalWord64 : (optional word64).Regular :=
  regular_word64.optional fun value => ofNat_ne_null value.toNat

@[simp]
theorem regular_optionalWord32 : (optional word32).Regular :=
  regular_word32.optional fun value => ofNat_ne_null value.toNat

@[simp]
theorem regular_texts : (list text).Regular := ⟨faithful_text.list, (plain_text 0).list, nofun⟩

theorem regular_enumeration {variants : List (String × α)} {nameOf : α → String}
    (named : ∀ value, variants.lookup (nameOf value) = some value) :
    (enumeration variants nameOf).Regular :=
  ⟨faithful_enumeration named, plain_enumeration 1 variants nameOf, nofun⟩

end Codec

/-- What is written tells the value. -/
theorem Codec.Faithful.write_injective {α : Type} {codec : Codec α} (faithful : codec.Faithful) :
    Function.Injective codec.write := by
  intro first second same
  have read := faithful .value first
  rw [same, faithful] at read
  exact (Except.ok.inj read).symm

namespace Layout

variable {ρ σ : Type}

/-- The codecs of the fields are regular, no two fields have the same name, and `standard` lists
the entries for which the defaults of the fields stand in. -/
def Regular (standard : List (String × Json)) : {ρ σ : Type} → Layout ρ σ → Prop
  | _, _, .done => True
  | _, _, .field name codec fallback rest =>
      codec.Regular ∧ name ∉ rest.names ∧
        (match fallback with
          | none => name ∉ standard.map Prod.fst
          | some filler =>
              (∀ content, (name, content) ∈ standard → content = codec.write filler) ∧
                ∀ value ∈ codec.absent, value = filler) ∧
        rest.Regular standard

variable {standard : List (String × Json)} {layout : Layout ρ σ}

@[simp]
theorem regular_done : done.Regular standard := trivial

@[simp]
theorem regular_required {α : Type} {name : String} {codec : Codec α} :
    (required name codec layout).Regular standard ↔
      codec.Regular ∧ name ∉ layout.names ∧ name ∉ standard.map Prod.fst ∧
        layout.Regular standard :=
  Iff.rfl

@[simp]
theorem regular_defaulted {α : Type} {name : String} {codec : Codec α} {filler : α} :
    (defaulted name codec filler layout).Regular standard ↔
      codec.Regular ∧ name ∉ layout.names ∧
        ((∀ content, (name, content) ∈ standard → content = codec.write filler) ∧
          ∀ value ∈ codec.absent, value = filler) ∧
        layout.Regular standard :=
  Iff.rfl

theorem Regular.faithful (regular : layout.Regular standard) : layout.Faithful := by
  induction layout with
  | done => trivial
  | field name codec fallback rest ih =>
      obtain ⟨readable, fresh, -, later⟩ := regular
      exact ⟨readable.faithful, fresh, ih later⟩

theorem Regular.distinct (regular : layout.Regular standard) : layout.Distinct := by
  induction layout with
  | done => exact List.nodup_nil
  | field name codec fallback rest ih =>
      obtain ⟨-, fresh, -, later⟩ := regular
      exact List.nodup_cons.mpr ⟨fresh, ih later⟩

theorem Regular.plain (regular : layout.Regular standard) : layout.Plain 1 := by
  induction layout with
  | done => trivial
  | field name codec fallback rest ih =>
      obtain ⟨readable, -, -, later⟩ := regular
      exact ⟨readable.plain, ih later⟩

/-- An object has written entries, in any order and among others. An entry may be left out if it is
`null` or the default of its field. -/
def Covers (standard written fields : List (String × Json)) : Prop :=
  (fields.map Prod.fst).Nodup ∧ ∀ entry ∈ written, entry ∈ fields ∨
    (entry.1 ∉ fields.map Prod.fst ∧ (entry.2 = .null ∨ entry ∈ standard))

theorem Regular.holds (regular : layout.Regular standard) {row : ρ} {fields : List (String × Json)}
    (covers : Covers standard (layout.write row) fields) (origin : Origin) :
    layout.Holds origin fields row := by
  induction layout with
  | done => trivial
  | field name codec fallback rest ih =>
      obtain ⟨value, row⟩ := row
      obtain ⟨readable, fresh, stands, later⟩ := regular
      obtain ⟨distinct, present⟩ := covers
      refine ⟨?_, ih later ⟨distinct, fun entry member => present entry (.tail _ member)⟩⟩
      rcases present (name, codec.write value) List.mem_cons_self with member | ⟨missing, omitted⟩
      · rw [Json.lookup_eq_some_of_mem distinct member]
        exact readable.faithful origin value
      · rw [lookup_eq_none_iff_notMem.mpr missing]
        cases fallback with
        | none =>
            rcases omitted with written | member
            · exact readable.null value written
            · exact absurd (List.mem_map_of_mem member) stands
        | some filler =>
            rcases omitted with written | member
            · rw [stands.2 value (readable.null value written)]
              rfl
            · rw [readable.faithful.write_injective (stands.1 _ member)]
              rfl

theorem Regular.inOrder (regular : layout.Regular standard) {row : ρ} {count : Nat}
    (omitted : ∀ entry ∈ (layout.write row).drop count, entry ∈ standard) (origin : Origin) :
    layout.InOrder origin (((layout.write row).take count).map Prod.snd) row := by
  induction layout generalizing count with
  | done =>
      change (List.take count []).map Prod.snd = []
      rw [List.take_nil, List.map_nil]
  | field name codec fallback rest ih =>
      obtain ⟨value, row⟩ := row
      obtain ⟨readable, fresh, stands, later⟩ := regular
      cases count with
      | zero =>
          have first := omitted (name, codec.write value) List.mem_cons_self
          have left : ∀ entry ∈ (rest.write row).drop 0, entry ∈ standard :=
            fun entry member => omitted entry (.tail _ member)
          have others := ih later left
          cases fallback with
          | none => exact absurd (List.mem_map_of_mem first) stands
          | some filler =>
              have same := readable.faithful.write_injective (stands.1 _ first)
              exact ⟨congrArg some same.symm, others⟩
      | succ count => exact ⟨readable.faithful origin value, ih later omitted⟩

end Layout

/-! ### Values and texts -/

namespace Codec

variable {α : Type} {codec : Codec α}

/-- A value is read from JSON, and from every text that prints the JSON. -/
def Yields (codec : Codec α) (json : Json) (value : α) : Prop :=
  codec.decode json = .ok value ∧
    ∀ text : String, json.Printing text.toList → json.nesting ≤ Document.depthLimit →
      codec.decodeText text = .ok value

theorem yields_of_read {json : Json} {value : α}
    (read : ∀ origin, codec.read origin (.ofJson json) = .ok value) : codec.Yields json value := by
  refine ⟨read .value, fun text printing shallow => ?_⟩
  rw [codec.decodeText_printing printing shallow, read]

/-- The forms of a record beside the one that is written. -/
def AnyForm (codec : Codec α) (standard : List (String × Json)) : Prop :=
  ∀ value, ∃ written, codec.write value = .object written ∧
    (∀ fields, Layout.Covers standard written fields → codec.Yields (.object fields) value) ∧
    ∀ count, (∀ entry ∈ written.drop count, entry ∈ standard) →
      codec.Yields (.array ((written.take count).map Prod.snd)) value

variable {ρ σ : Type} {typeName : String} {layout : Layout ρ σ} {ofRow : ρ → α} {toRow : α → ρ}
  {standard : List (String × Json)}

theorem anyForm_record (regular : layout.Regular standard)
    (restored : ∀ value, ofRow (toRow value) = value) :
    (Codec.record typeName layout ofRow toRow).AnyForm standard := by
  intro value
  refine ⟨layout.write (toRow value), rfl, fun fields covers => ?_, fun count omitted => ?_⟩
  · refine yields_of_read fun origin => ?_
    have read := (regular.holds covers origin).read_object regular.distinct covers.1 typeName
    change (layout.read typeName origin (.ofJson (.object fields))).map ofRow = _
    rw [read, Except.map, restored]
  · refine yields_of_read fun origin => ?_
    have read := (regular.inOrder omitted origin).read_array typeName
    change (layout.read typeName origin (.ofJson (.array _))).map ofRow = _
    rw [read, Except.map, restored]

/-- A name may also be the only key of an object. -/
def Tagged (codec : Codec α) : Prop :=
  ∀ value name, codec.write value = .string name → codec.Yields (.object [(name, .null)]) value

theorem tagged_enumeration {variants : List (String × α)} {nameOf : α → String}
    (named : ∀ value, variants.lookup (nameOf value) = some value) :
    (enumeration variants nameOf).Tagged := by
  rintro value _ ⟨⟩
  refine yields_of_read fun origin => ?_
  have unit : readUnit origin .null = .ok () := by cases origin <;> rfl
  have found : variantNamed variants (nameOf value) = .ok value := by rw [variantNamed, named]
  simp [enumeration, Document.ofJson, Document.ofFields, found, unit, Except.map]

/-- The forms of JSON from which a type is read: those of a record, for which defaults stand in,
or those of a choice between names. -/
def Forms (codec : Codec α) : Option (List (String × Json)) → Prop
  | some standard => codec.AnyForm standard
  | none => codec.Tagged

/-- What every published type satisfies. -/
structure Lawful (codec : Codec α) (standard : Option (List (String × Json))) : Prop where
  faithful : codec.Faithful
  plain : codec.Plain 2
  forms : codec.Forms standard

theorem lawful_record (regular : layout.Regular standard)
    (restored : ∀ value, ofRow (toRow value) = value) :
    (Codec.record typeName layout ofRow toRow).Lawful (some standard) where
  faithful := faithful_record regular.faithful restored
  plain := plain_record regular.plain
  forms := anyForm_record regular restored

theorem lawful_enumeration {variants : List (String × α)} {nameOf : α → String}
    (named : ∀ value, variants.lookup (nameOf value) = some value) :
    (enumeration variants nameOf).Lawful none where
  faithful := faithful_enumeration named
  plain := plain_enumeration 2 variants nameOf
  forms := tagged_enumeration named

@[simp]
theorem write_text (value : String) : text.write value = .string value := rfl

@[simp]
theorem absent_text : text.absent = none := rfl

@[simp]
theorem write_boolean (value : Bool) : boolean.write value = .bool value := rfl

@[simp]
theorem absent_boolean : boolean.absent = none := rfl

@[simp]
theorem write_optional_none : (optional codec).write none = .null := rfl

@[simp]
theorem absent_optional : (optional codec).absent = some none := rfl

end Codec

/-! ### Published types -/

theorem InvoiceState.lookup_name (state : InvoiceState) : named.lookup state.name = some state := by
  cases state <;> rfl

theorem PaymentStatus.lookup_name (status : PaymentStatus) :
    named.lookup status.name = some status := by
  cases status <;> rfl

theorem Direction.lookup_name (direction : Direction) :
    named.lookup direction.name = some direction := by
  cases direction <;> rfl

theorem Category.lookup_name (category : Category) :
    named.lookup category.name = some category := by
  cases category <;> rfl

theorem EntryStatus.lookup_name (status : EntryStatus) :
    named.lookup status.name = some status := by
  cases status <;> rfl

theorem ChannelState.lookup_name (state : ChannelState) : named.lookup state.name = some state := by
  cases state <;> rfl

theorem LifecycleStage.lookup_name (stage : LifecycleStage) :
    named.lookup stage.name = some stage := by
  cases stage <;> rfl

theorem AddressType.lookup_name (kind : AddressType) : named.lookup kind.name = some kind := by
  cases kind <;> rfl

theorem Implementation.lookup_name (implementation : Implementation) :
    named.lookup implementation.name = some implementation := by
  cases implementation
  rfl

@[simp]
theorem InvoiceState.regular_codec : InvoiceState.codec.Regular :=
  Codec.regular_enumeration lookup_name

@[simp]
theorem PaymentStatus.regular_codec : PaymentStatus.codec.Regular :=
  Codec.regular_enumeration lookup_name

@[simp]
theorem Direction.regular_codec : Direction.codec.Regular :=
  Codec.regular_enumeration lookup_name

@[simp]
theorem Category.regular_codec : Category.codec.Regular :=
  Codec.regular_enumeration lookup_name

@[simp]
theorem EntryStatus.regular_codec : EntryStatus.codec.Regular :=
  Codec.regular_enumeration lookup_name

@[simp]
theorem ChannelState.regular_codec : ChannelState.codec.Regular :=
  Codec.regular_enumeration lookup_name

@[simp]
theorem LifecycleStage.regular_codec : LifecycleStage.codec.Regular :=
  Codec.regular_enumeration lookup_name

@[simp]
theorem AddressType.regular_codec : AddressType.codec.Regular :=
  Codec.regular_enumeration lookup_name

theorem Invoice.regular_layout : Invoice.layout.Regular [] := by
  simp [Invoice.layout]

theorem Payment.regular_layout : Payment.layout.Regular [] := by
  simp [Payment.layout]

theorem PaymentRequest.regular_layout : PaymentRequest.layout.Regular [] := by
  simp [PaymentRequest.layout]

theorem OnChainTransaction.regular_layout : OnChainTransaction.layout.Regular [] := by
  simp [OnChainTransaction.layout]

theorem TimelineEntry.regular_layout : TimelineEntry.layout.Regular [] := by
  simp [TimelineEntry.layout]

theorem Channel.regular_layout : Channel.layout.Regular [] := by
  simp [Channel.layout]

theorem ForwardEvent.regular_layout : ForwardEvent.layout.Regular [] := by
  simp [ForwardEvent.layout]

theorem FeeRevenue.regular_layout : FeeRevenue.layout.Regular [] := by
  simp [FeeRevenue.layout]

theorem NodeInfo.regular_layout : NodeInfo.layout.Regular [] := by
  simp [NodeInfo.layout]

theorem WalletBalance.regular_layout : WalletBalance.layout.Regular [] := by
  simp [WalletBalance.layout]

theorem LifecycleUpdate.regular_layout : LifecycleUpdate.layout.Regular [] := by
  simp [LifecycleUpdate.layout]

theorem SendCoinsResponse.regular_layout : SendCoinsResponse.layout.Regular [] := by
  simp [SendCoinsResponse.layout]

/-- What stands in for fields of a new address that are left out. -/
def NewAddressInput.standard : List (String × Json) := [("type", .string "p2wkh")]

theorem NewAddressInput.regular_layout :
    NewAddressInput.layout.Regular NewAddressInput.standard := by
  have written : AddressType.codec.write .p2wkh = .string "p2wkh" := rfl
  have absent : AddressType.codec.absent = none := rfl
  simp [NewAddressInput.layout, standard, written, absent]

/-- What stands in for fields of a request to send coins that are left out. -/
def SendCoinsInput.standard : List (String × Json) :=
  [("target_conf", .null), ("sat_per_vbyte", .null), ("min_confs", .null), ("label", .string ""),
    ("send_all", .bool false)]

theorem SendCoinsInput.regular_layout : SendCoinsInput.layout.Regular SendCoinsInput.standard := by
  simp [SendCoinsInput.layout, standard]

namespace FeeRate

theorem faithful_codec : codec.Faithful := by
  intro origin rate
  cases rate with
  | satPerVbyte rate =>
      have opened (document : Document) :
          codec.read origin (.object [(some "sat_per_vbyte", document)] true) =
            (Codec.word64.read origin document).map satPerVbyte := rfl
      have written : Document.ofJson (codec.write (satPerVbyte rate)) =
          .object [(some "sat_per_vbyte", .ofJson (Codec.word64.write rate))] true := rfl
      rw [written, opened, Codec.faithful_word64, Except.map]
  | _ => rfl

theorem plain_codec : codec.Plain 2 := by
  intro rate
  cases rate with
  | satPerVbyte rate => exact ⟨Codec.plain_word64 1 rate, trivial⟩
  | _ => trivial

theorem tagged_codec : codec.Tagged := by
  intro rate name written
  refine Codec.yields_of_read fun origin => ?_
  have unit : Codec.readUnit origin .null = .ok () := by cases origin <;> rfl
  cases rate with
  | satPerVbyte rate => cases written
  | _ =>
      cases written
      exact congrArg (Except.map _) unit

theorem lawful_codec : codec.Lawful none := ⟨faithful_codec, plain_codec, tagged_codec⟩

end FeeRate

/-- The types that the gateway publishes. -/
inductive Published where
  | invoice | invoiceState | payment | paymentStatus | paymentRequest
  | onChainTransaction | direction | timelineEntry | category | entryStatus
  | channel | channelState | forwardEvent | feeRevenue
  | nodeInfo | implementation | walletBalance | lifecycleUpdate | lifecycleStage
  | newAddressInput | addressType | sendCoinsInput | sendCoinsResponse | feeRate

namespace Published

def Value : Published → Type
  | invoice => Invoice
  | invoiceState => InvoiceState
  | payment => Payment
  | paymentStatus => PaymentStatus
  | paymentRequest => PaymentRequest
  | onChainTransaction => OnChainTransaction
  | direction => Direction
  | timelineEntry => TimelineEntry
  | category => Category
  | entryStatus => EntryStatus
  | channel => Channel
  | channelState => ChannelState
  | forwardEvent => ForwardEvent
  | feeRevenue => FeeRevenue
  | nodeInfo => NodeInfo
  | implementation => Implementation
  | walletBalance => WalletBalance
  | lifecycleUpdate => LifecycleUpdate
  | lifecycleStage => LifecycleStage
  | newAddressInput => NewAddressInput
  | addressType => AddressType
  | sendCoinsInput => SendCoinsInput
  | sendCoinsResponse => SendCoinsResponse
  | feeRate => FeeRate

def codec : (published : Published) → Codec published.Value
  | invoice => Invoice.codec
  | invoiceState => InvoiceState.codec
  | payment => Payment.codec
  | paymentStatus => PaymentStatus.codec
  | paymentRequest => PaymentRequest.codec
  | onChainTransaction => OnChainTransaction.codec
  | direction => Direction.codec
  | timelineEntry => TimelineEntry.codec
  | category => Category.codec
  | entryStatus => EntryStatus.codec
  | channel => Channel.codec
  | channelState => ChannelState.codec
  | forwardEvent => ForwardEvent.codec
  | feeRevenue => FeeRevenue.codec
  | nodeInfo => NodeInfo.codec
  | implementation => Implementation.codec
  | walletBalance => WalletBalance.codec
  | lifecycleUpdate => LifecycleUpdate.codec
  | lifecycleStage => LifecycleStage.codec
  | newAddressInput => NewAddressInput.codec
  | addressType => AddressType.codec
  | sendCoinsInput => SendCoinsInput.codec
  | sendCoinsResponse => SendCoinsResponse.codec
  | feeRate => FeeRate.codec

/-- What stands in for the fields of a record; a choice between names has no fields. -/
def standard : Published → Option (List (String × Json))
  | invoiceState | paymentStatus | direction | category | entryStatus | channelState
  | implementation | lifecycleStage | addressType | feeRate => none
  | newAddressInput => some NewAddressInput.standard
  | sendCoinsInput => some SendCoinsInput.standard
  | _ => some []

theorem lawful_codec (published : Published) : published.codec.Lawful published.standard := by
  cases published with
  | invoice => exact Codec.lawful_record Invoice.regular_layout fun _ => rfl
  | invoiceState => exact Codec.lawful_enumeration InvoiceState.lookup_name
  | payment => exact Codec.lawful_record Payment.regular_layout fun _ => rfl
  | paymentStatus => exact Codec.lawful_enumeration PaymentStatus.lookup_name
  | paymentRequest => exact Codec.lawful_record PaymentRequest.regular_layout fun _ => rfl
  | onChainTransaction => exact Codec.lawful_record OnChainTransaction.regular_layout fun _ => rfl
  | direction => exact Codec.lawful_enumeration Direction.lookup_name
  | timelineEntry => exact Codec.lawful_record TimelineEntry.regular_layout fun _ => rfl
  | category => exact Codec.lawful_enumeration Category.lookup_name
  | entryStatus => exact Codec.lawful_enumeration EntryStatus.lookup_name
  | channel => exact Codec.lawful_record Channel.regular_layout fun _ => rfl
  | channelState => exact Codec.lawful_enumeration ChannelState.lookup_name
  | forwardEvent => exact Codec.lawful_record ForwardEvent.regular_layout fun _ => rfl
  | feeRevenue => exact Codec.lawful_record FeeRevenue.regular_layout fun _ => rfl
  | nodeInfo => exact Codec.lawful_record NodeInfo.regular_layout fun _ => rfl
  | implementation => exact Codec.lawful_enumeration Implementation.lookup_name
  | walletBalance => exact Codec.lawful_record WalletBalance.regular_layout fun _ => rfl
  | lifecycleUpdate => exact Codec.lawful_record LifecycleUpdate.regular_layout fun _ => rfl
  | lifecycleStage => exact Codec.lawful_enumeration LifecycleStage.lookup_name
  | newAddressInput => exact Codec.lawful_record NewAddressInput.regular_layout fun _ => rfl
  | addressType => exact Codec.lawful_enumeration AddressType.lookup_name
  | sendCoinsInput => exact Codec.lawful_record SendCoinsInput.regular_layout fun _ => rfl
  | sendCoinsResponse => exact Codec.lawful_record SendCoinsResponse.regular_layout fun _ => rfl
  | feeRate => exact FeeRate.lawful_codec

end Published

/-- Reads JSON and writes the value again. -/
def Codec.reencode {α : Type} (codec : Codec α) (json : Json) : Except DecodeError Json :=
  (codec.decode json).map codec.write

namespace Published

/-- What is written for a published value is read back as that value, from JSON, from the compact
text and from every other text that prints the JSON. Whatever was read and is written again is read
as the same value, so writing again changes nothing more. A record is read from its entries in any
order and among others, with entries left out that are `null` or a default, and from its values in
the order of declaration. -/
theorem read_back_in_any_form (published : Published) :
    (∀ value, published.codec.Yields (published.codec.write value) value ∧
      (published.codec.write value).nesting ≤ Document.depthLimit ∧
      published.codec.decodeText (published.codec.write value).compact = .ok value) ∧
    (∀ json value, published.codec.decode json = .ok value →
      published.codec.decode (published.codec.write value) = .ok value) ∧
    (∀ text value, published.codec.decodeText text = .ok value →
      published.codec.decodeText (published.codec.write value).compact = .ok value) ∧
    (∀ json written, published.codec.reencode json = .ok written →
      published.codec.reencode written = .ok written) ∧
    published.codec.Forms published.standard := by
  obtain ⟨faithful, plain, forms⟩ := published.lawful_codec
  have shallow (value) : (published.codec.write value).nesting ≤ Document.depthLimit :=
    (Json.nesting_le_of_plain _ (plain value)).trans (by decide)
  have compact (value) := published.codec.decodeText_printing
    (Json.printing_compact (plain value)) (shallow value)
  have back (value) := (compact value).trans (faithful .text value)
  refine ⟨fun value => ⟨?_, shallow value, back value⟩, fun _ value _ => faithful .value value,
    fun _ value _ => back value, fun json written again => ?_, forms⟩
  · exact Codec.yields_of_read fun origin => faithful origin value
  · cases decoded : published.codec.decode json with
    | error error =>
        rw [Codec.reencode, decoded] at again
        cases again
    | ok value =>
        rw [Codec.reencode, decoded] at again
        obtain rfl := Except.ok.inj again
        rw [Codec.reencode, faithful.decode_write, Except.map]

/-- A request to send everything that is there, with its fields in another order, a field that no
request has, and most fields left out. -/
def sweepJson : Json :=
  .object [("comment", .array [.object [("address", .null)]]), ("send_all", .bool true),
    ("amount_msat", .number (.integer 18446744073709551615)), ("address", .string "bc1q")]

def sweep : SendCoinsInput where
  address := "bc1q"
  amount := 18446744073709551615
  targetConfirmations := none
  satPerVbyte := none
  minConfirmations := none
  label := ""
  sendAll := true

theorem read_back_in_any_form_sweep :
    sendCoinsInput.codec.decode sweepJson = .ok sweep ∧
      sendCoinsInput.codec.decode (sendCoinsInput.codec.write sweep) = .ok sweep ∧
      sendCoinsInput.codec.reencode sweepJson = .ok (sendCoinsInput.codec.write sweep) ∧
      sendCoinsInput.codec.reencode (sendCoinsInput.codec.write sweep) =
        .ok (sendCoinsInput.codec.write sweep) := by
  obtain ⟨-, again, -, idempotent, -⟩ := read_back_in_any_form sendCoinsInput
  have decoded : sendCoinsInput.codec.decode sweepJson = .ok sweep := rfl
  have written : sendCoinsInput.codec.reencode sweepJson = .ok (sendCoinsInput.codec.write sweep) :=
    congrArg (Except.map sendCoinsInput.codec.write) decoded
  exact ⟨decoded, again _ _ decoded, written, idempotent _ _ written⟩

end Published

end LightningGateway
