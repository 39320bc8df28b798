import LightningGateway.Exchange
import LightningGateway.Gateway.Payments
import LightningGateway.Proofs.Objects
import LightningGateway.Proofs.Outcome
import LightningGateway.Proofs.Texts

/-!
# Transports that agree

A daemon answers with a result or with an error object. Over its socket the answer comes in an
envelope and in pieces, over HTTP it comes with a status. A call comes to the same either way, and
so does every operation of the gateway.
-/

namespace LightningGateway

namespace Text

/-! ### Bytes of characters -/

def utf8 (characters : List Char) : List UInt8 := characters.flatMap String.utf8EncodeChar

theorem utf8?_utf8 (characters : List Char) :
    utf8? (utf8 characters) = some (String.ofList characters) := by
  have bytes : (⟨(utf8 characters).toArray⟩ : ByteArray) = characters.utf8Encode := by
    refine ByteArray.ext ?_
    rw [← Array.toList_inj, List.utf8Encode, List.toList_data_toByteArray]
    rfl
  have valid : ByteArray.IsValidUTF8 ⟨(utf8 characters).toArray⟩ := ⟨characters, bytes⟩
  rw [utf8?, String.fromUTF8?, dif_pos valid, Option.some.injEq, ← String.toByteArray_inj,
    String.toByteArray_ofList, ← bytes]
  rfl

theorem utf8_append (first second : List Char) :
    utf8 (first ++ second) = utf8 first ++ utf8 second :=
  List.flatMap_append

theorem utf8_injective : Function.Injective utf8 := by
  intro first second same
  have read := utf8?_utf8 first
  rw [same, utf8?_utf8, Option.some.injEq, String.ofList_inj] at read
  exact read.symm

/-- Only a line break is encoded with the byte of a line break. -/
theorem eq_lineBreak_of_mem {character : Char}
    (member : (0x0A : UInt8) ∈ String.utf8EncodeChar character) : character = '\n' := by
  have bytes (value : Nat) (found : (0x0A : UInt8) = UInt8.ofNat value) : value % 256 = 10 := by
    simpa using (congrArg UInt8.toNat found).symm
  unfold String.utf8EncodeChar at member
  simp only at member
  split at member
  · next small =>
      have value := bytes _ (List.mem_singleton.mp member)
      refine Char.ext (UInt32.toNat_inj.mp ?_)
      change character.val.toNat = 10
      omega
  · exfalso
    split at member
    · simp only [List.mem_cons, List.not_mem_nil, or_false] at member
      rcases member with found | found <;> have value := bytes _ found <;> omega
    · split at member
      · simp only [List.mem_cons, List.not_mem_nil, or_false] at member
        rcases member with found | found | found <;> have value := bytes _ found <;> omega
      · simp only [List.mem_cons, List.not_mem_nil, or_false] at member
        rcases member with found | found | found | found <;> have value := bytes _ found <;> omega

/-- The byte of a line break stands between two characters. -/
theorem exists_of_lineBreak {before : List UInt8} {characters : List Char}
    (begins : before ++ [0x0A] <+: utf8 characters) :
    ∃ front, before = utf8 front ∧ front ++ ['\n'] <+: characters := by
  induction characters generalizing before with
  | nil => simp [utf8] at begins
  | cons character rest ih =>
      have split : utf8 (character :: rest) = String.utf8EncodeChar character ++ utf8 rest := rfl
      rw [split] at begins
      have atBreak (ends : before ++ [0x0A] <+: String.utf8EncodeChar character) :
          ∃ front, before = utf8 front ∧ front ++ ['\n'] <+: character :: rest := by
        obtain rfl := eq_lineBreak_of_mem (ends.subset (by simp))
        have empty : before = [] := by
          have short := ends.length_le
          have single : (String.utf8EncodeChar '\n').length = 1 := rfl
          rw [List.length_append, List.length_singleton, single] at short
          exact List.eq_nil_of_length_eq_zero (by omega)
        exact ⟨[], empty, List.prefix_append ['\n'] rest⟩
      rcases List.prefix_or_prefix_of_prefix begins (List.prefix_append _ (utf8 rest)) with
        ends | passes
      · exact atBreak ends
      · rcases List.prefix_concat_iff.mp passes with same | ⟨after, rfl⟩
        · exact atBreak (same ▸ List.prefix_rfl)
        · rw [List.append_assoc, List.prefix_append_right_inj] at begins
          obtain ⟨front, rfl, starts⟩ := ih begins
          exact ⟨character :: front, rfl, List.cons_prefix_cons.mpr ⟨rfl, starts⟩⟩

/-- Where an empty line ends a part of characters that have no empty line before their end. -/
theorem exists_of_emptyLine {stop : List UInt8} {characters : List Char}
    (noEmptyLine : ¬ ['\n', '\n'] <:+: characters)
    (begins : stop <+: utf8 (characters ++ ['\n', '\n'])) (ends : [0x0A, 0x0A] <:+ stop) :
    stop = utf8 (characters ++ ['\n']) ∨ stop = utf8 (characters ++ ['\n', '\n']) := by
  obtain ⟨before, rfl⟩ := ends
  have split : before ++ [0x0A, 0x0A] = (before ++ [0x0A]) ++ [0x0A] := by simp
  rw [split] at begins
  obtain ⟨second, same, starts⟩ := exists_of_lineBreak begins
  have again : before ++ [0x0A] <+: utf8 second := same ▸ List.prefix_rfl
  obtain ⟨first, rfl, -⟩ := exists_of_lineBreak again
  obtain rfl : first ++ ['\n'] = second := utf8_injective ((utf8_append first ['\n']).trans same)
  have written : utf8 first ++ [0x0A, 0x0A] = utf8 (first ++ ['\n', '\n']) := by
    rw [utf8_append]
    rfl
  have parts : first ++ ['\n'] ++ ['\n'] = first ++ ['\n', '\n'] := by simp
  have last : characters ++ ['\n', '\n'] = (characters ++ ['\n']) ++ ['\n'] := by simp
  rw [parts, last] at starts
  rw [written]
  rcases List.prefix_concat_iff.mp starts with all | some
  · exact .inr (by rw [all, last])
  · rcases List.prefix_concat_iff.mp some with most | inside
    · exact .inl (by rw [most])
    · have across := (List.suffix_append first ['\n', '\n']).isInfix.trans inside.isInfix
      exact absurd across noEmptyLine

end Text

/-! ### Pieces of an answer -/

namespace Socket

/-- Reading stops at the end of a piece where the bytes so far end with an empty line. -/
theorem exists_stop (connectionEnds : Bool) {received : List UInt8} {pieces : List (List UInt8)}
    (unended : ¬ terminator <:+ received) (ends : terminator <:+ received ++ pieces.flatten) :
    ∃ stop, stop <+: received ++ pieces.flatten ∧ terminator <:+ stop ∧
      read connectionEnds received pieces = .answered (parse stop) := by
  induction pieces generalizing received with
  | nil =>
      rw [List.flatten_nil, List.append_nil] at ends
      exact absurd ends unended
  | cons piece rest ih =>
      rw [List.flatten_cons, ← List.append_assoc] at ends ⊢
      by_cases ended : terminator <:+ received ++ piece
      · refine ⟨received ++ piece, List.prefix_append _ _, ended, ?_⟩
        rw [read, if_pos (List.isSuffixOf_iff_suffix.mpr ended)]
      · obtain ⟨stop, within, last, answered⟩ := ih ended ends
        refine ⟨stop, within, last, ?_⟩
        rw [read, if_neg fun suffix => ended (List.isSuffixOf_iff_suffix.mp suffix), answered]

/-- However an answer is cut into pieces, the value that it prints is read. -/
theorem read_printing (connectionEnds : Bool) {value : Json} {characters : List Char}
    {pieces : List (List UInt8)} (printing : value.Printing characters)
    (shallow : value.nesting ≤ Document.depthLimit) (noEmptyLine : ¬ ['\n', '\n'] <:+: characters)
    (collected : pieces.flatten = Text.utf8 (characters ++ ['\n', '\n'])) :
    read connectionEnds [] pieces = .answered (.ok value.sortFields) := by
  have parsed {more : List Char} (longer : value.Printing (characters ++ more)) :
      parse (Text.utf8 (characters ++ more)) = .ok value.sortFields := by
    have text : value.Printing (String.ofList (characters ++ more)).toList := by
      rwa [String.toList_ofList]
    rw [parse, Text.utf8?_utf8, Option.bind_some, Json.ofText?_printing text shallow]
  have one : value.Printing (characters ++ ['\n']) := .behind (.inr (.inl rfl)) printing
  have two : value.Printing (characters ++ ['\n', '\n']) := by
    have again := Json.Printing.behind (.inr (.inl rfl)) one
    rwa [List.append_assoc] at again
  have ends : terminator <:+ [] ++ pieces.flatten := by
    rw [List.nil_append, collected, Text.utf8_append]
    exact List.suffix_append _ _
  obtain ⟨stop, within, last, answered⟩ := exists_stop connectionEnds (by decide) ends
  rw [List.nil_append, collected] at within
  rw [answered]
  rcases Text.exists_of_emptyLine noEmptyLine within last with rfl | rfl
  · rw [parsed one]
  · rw [parsed two]

end Socket

/-! ### Answers -/

/-- The fields of an error object say this code and message. -/
structure RemoteError.Described (error : RemoteError) (fields : List (String × Json)) : Prop where
  distinct : (fields.map Prod.fst).Nodup
  message : fields.lookup "message" = some (.string error.message)
  code : match error.code with
    | some code => fields.lookup "code" = some (.number (.integer code)) ∧
        -(Bound.signed64 : Int) ≤ code ∧ code < Bound.signed64
    | none => fields.lookup "code" = none ∨ fields.lookup "code" = some .null

theorem RemoteError.Described.holds {error : RemoteError} {fields : List (String × Json)}
    (described : error.Described fields) :
    RemoteError.layout.Holds .value (Json.sortedFields fields) (error.code, error.message, ()) := by
  obtain ⟨distinct, message, code⟩ := described
  obtain ⟨errorCode, text⟩ := error
  refine ⟨?_, ?_, trivial⟩
  · rw [Json.lookup_sortedFields distinct]
    cases errorCode with
    | none =>
        rcases code with absent | null
        · rw [absent]
          rfl
        · rw [null]
          rfl
    | some value =>
        obtain ⟨found, -, small⟩ := code
        rw [found]
        change (if value < Bound.signed64 then Except.ok value else _).map some = _
        rw [if_pos small, Except.map]
  · rw [Json.lookup_sortedFields distinct, message]
    rfl

theorem RemoteError.Described.decode {error : RemoteError} {fields : List (String × Json)}
    (described : error.Described fields) :
    RemoteError.codec.decode (Json.object fields).sortFields = .ok error := by
  have read := described.holds.read_object (by decide) (Json.nodup_sortedFields fields)
    "JsonRpcError"
  change (RemoteError.layout.read "JsonRpcError" .value
    (.ofJson (.object (Json.sortedFields fields)))).map _ = _
  rw [read, Except.map]

/-- Looking into the fields of an error object one by one finds the same as decoding it. -/
theorem RemoteError.Described.remoteError {error : RemoteError} {fields : List (String × Json)}
    (described : error.Described fields) :
    HttpReply.remoteError? (Json.object fields).sortFields =
      some (.rpc error.code error.message) := by
  obtain ⟨distinct, message, code⟩ := described
  obtain ⟨errorCode, text⟩ := error
  have field (name : String) :
      (Json.object fields).sortFields.field? name = (fields.lookup name).map Json.sortFields :=
    Json.lookup_sortedFields distinct name
  rw [HttpReply.remoteError?, field, field, message]
  cases errorCode with
  | none =>
      rcases code with absent | null
      · rw [absent]
        rfl
      · rw [null]
        rfl
  | some value =>
      obtain ⟨found, -, small⟩ := code
      rw [found]
      change some (TransportError.rpc
        (if value < Bound.signed64 then some value else none) text) = _
      rw [if_pos small]

/-- What a daemon says in reply to a call: a result, or an error object with its code and its
message. -/
inductive Saying where
  | result (value : Json)
  | refusal (fields : List (String × Json)) (error : RemoteError)

namespace Saying

/-- The JSON that says it. -/
def json : Saying → Json
  | result value => value
  | refusal fields _ => .object fields

/-- There is a result, or the error object is one of the usual kind, and neither is nested too
deeply. -/
structure Proper (saying : Saying) : Prop where
  meaningful : match saying with
    | result value => value ≠ .null
    | refusal fields error => error.Described fields
  shallow : saying.json.nesting < 100

/-- What a call comes to. -/
def outcome : Saying → Except TransportError Json
  | result value => .ok value.sortFields
  | refusal _ error => .error (.rpc error.code error.message)

/-- The fields of an envelope around what is said. -/
structure Enveloped (saying : Saying) (fields : List (String × Json)) : Prop where
  distinct : (fields.map Prod.fst).Nodup
  content : match saying with
    | result value => fields.lookup "result" = some value ∧
        (fields.lookup "error" = none ∨ fields.lookup "error" = some .null)
    | refusal error _ => fields.lookup "error" = some (.object error)
  shallow : ∀ field ∈ fields, field.2.nesting < 100

/-- Pieces that come over a socket: an envelope without empty lines, and an empty line. -/
def Collected (saying : Saying) (pieces : List (List UInt8)) : Prop :=
  ∃ fields characters, saying.Enveloped fields ∧ (Json.object fields).Printing characters ∧
    ¬ ['\n', '\n'] <:+: characters ∧
    pieces.flatten = Text.utf8 (characters ++ ['\n', '\n'])

/-- An answer over HTTP: the result with a status of success, or the error object with a status of
a client or server error other than the two that refuse access. -/
structure Answered (saying : Saying) (reply : HttpReply) : Prop where
  status : match saying with
    | result _ => 200 ≤ reply.status ∧ reply.status < 300
    | refusal _ _ => 400 ≤ reply.status ∧ reply.status < 600 ∧ reply.status ≠ 401 ∧
        reply.status ≠ 403
  body : saying.json.Printing reply.body.toList

variable {saying : Saying}

theorem Enveloped.nesting_le {fields : List (String × Json)} (enveloped : saying.Enveloped fields) :
    (Json.object fields).nesting ≤ Document.depthLimit := by
  have inner : Json.fieldsNesting fields ≤ 100 :=
    Json.fieldsNesting_le fun field member => (enveloped.shallow field member).le
  rw [Json.nesting]
  exact (Nat.succ_le_succ inner).trans (by decide)

/-- A field of an envelope, where `null` is the same as nothing. -/
def given : Option Json → Option Json
  | none | some .null => none
  | some value => some value.sortFields

theorem given_of_ne_null {value : Json} (present : value ≠ .null) :
    given (some value) = some value.sortFields := by
  cases value with
  | null => exact absurd rfl present
  | _ => rfl

theorem ofJson_sortFields_ne_null {value : Json} (present : value ≠ .null) :
    Document.ofJson value.sortFields ≠ .null := by
  apply Document.ofJson_ne_null
  cases value with
  | null => exact absurd rfl present
  | _ => nofun

theorem read_json_sortFields (origin : Origin) (value : Json) :
    Codec.json.read origin (.ofJson value.sortFields) = .ok value.sortFields := by
  simp only [Codec.json, Document.toJson?_ofJson, Json.sortFields_sortFields]

theorem read_given (origin : Origin) (value : Json) :
    (Codec.optional Codec.json).read origin (.ofJson value.sortFields) =
      .ok (given (some value)) := by
  by_cases null : value = .null
  · subst null
    rfl
  · rw [Codec.read_optional (ofJson_sortFields_ne_null null), given_of_ne_null null,
      read_json_sortFields]
    rfl

theorem holds_envelope {fields : List (String × Json)} (distinct : (fields.map Prod.fst).Nodup) :
    Envelope.layout.Holds .value (Json.sortedFields fields)
      (given (fields.lookup "result"), given (fields.lookup "error"),
        ((fields.lookup "id").map Json.sortFields).getD .null, ()) := by
  refine ⟨?_, ?_, ?_, trivial⟩
  · rw [Json.lookup_sortedFields distinct]
    cases fields.lookup "result" with
    | none => rfl
    | some value => exact read_given .value value
  · rw [Json.lookup_sortedFields distinct]
    cases fields.lookup "error" with
    | none => rfl
    | some value => exact read_given .value value
  · rw [Json.lookup_sortedFields distinct]
    cases fields.lookup "id" with
    | none => rfl
    | some value => exact read_json_sortFields .value value

theorem Enveloped.outcome {fields : List (String × Json)} (proper : saying.Proper)
    (enveloped : saying.Enveloped fields) :
    Socket.outcome (.ok (Json.object fields).sortFields) = saying.outcome := by
  have read := (holds_envelope enveloped.distinct).read_object (by decide)
    (Json.nodup_sortedFields fields) "JsonRpcResponse"
  have decoded : Envelope.codec.decode (Json.object fields).sortFields =
      .ok ⟨given (fields.lookup "result"), given (fields.lookup "error"),
        ((fields.lookup "id").map Json.sortFields).getD .null⟩ :=
    (congrArg (Except.map _) read).trans rfl
  have content := enveloped.content
  have meaningful := proper.meaningful
  rw [Socket.outcome, decoded]
  cases saying with
  | result value =>
      obtain ⟨found, noError⟩ := content
      have kept := given_of_ne_null meaningful
      have none : given (fields.lookup "error") = none := by
        rcases noError with absent | null
        · rw [absent, given]
        · rw [null, given]
      simp only [Envelope.outcome, found, none, kept, Saying.outcome]
  | refusal error described =>
      have decodedError := RemoteError.Described.decode meaningful
      have kept : given (some (.object error)) = some (Json.object error).sortFields := rfl
      simp only [Envelope.outcome, content, kept, Envelope.errorOf, decodedError, Saying.outcome]

/-! ### Both transports -/

theorem Collected.outcome {pieces : List (List UInt8)} (proper : saying.Proper)
    (collected : saying.Collected pieces) (connectionEnds : Bool) :
    ∃ value, Socket.read connectionEnds [] pieces = .answered (.ok value) ∧
      Socket.outcome (.ok value) = saying.outcome := by
  obtain ⟨fields, characters, enveloped, printing, noEmptyLine, cut⟩ := collected
  exact ⟨_, Socket.read_printing connectionEnds printing enveloped.nesting_le noEmptyLine cut,
    enveloped.outcome proper⟩

theorem Proper.nesting_le (proper : saying.Proper) : saying.json.nesting ≤ Document.depthLimit :=
  proper.shallow.le.trans (by decide)

theorem Answered.outcome {reply : HttpReply} (proper : saying.Proper)
    (answered : saying.Answered reply) : reply.fromDaemon = saying.outcome := by
  obtain ⟨status, body⟩ := answered
  have read := Json.ofText?_printing body proper.nesting_le
  have meaningful := proper.meaningful
  cases saying with
  | result value =>
      have success : HttpStatus.isSuccess reply.status = true := by
        simpa [HttpStatus.isSuccess] using status
      rw [HttpReply.fromDaemon, if_pos success, read]
      rfl
  | refusal fields error =>
      obtain ⟨atLeast, below, notUnauthorized, notForbidden⟩ := status
      have failure : ¬ HttpStatus.isSuccess reply.status = true := by
        simp only [HttpStatus.isSuccess, Bool.and_eq_true, decide_eq_true_eq]
        omega
      have noRefusal : ¬ HttpStatus.isRefusal reply.status = true := by
        simp [HttpStatus.isRefusal, notUnauthorized, notForbidden]
      rw [HttpReply.fromDaemon, if_neg failure, if_neg noRefusal, read, Option.bind_some]
      have reported := RemoteError.Described.remoteError meaningful
      rw [Saying.json, reported]
      rfl

end Saying

/-- Two surroundings of a gateway, in which the same daemon is reached over its socket and over
HTTP: what it says in reply to a call comes back in either way, and all else is the same. -/
structure SameDaemon {ω : Type} (path url rune : String) (caCert : Option String)
    (first second : Surroundings ω) : Prop where
  calls : ∀ handle method parameters world, ∃ (saying : Saying) (pieces : List (List UInt8))
    (reply : HttpReply), saying.Proper ∧ saying.Collected pieces ∧ saying.Answered reply ∧
      (first (.call handle method parameters) world).1 =
        (Endpoint.socket path).outcome (.collected pieces) ∧
      (second (.call handle method parameters) world).1 =
        (Endpoint.rest url rune caCert).outcome (.answered reply)
  others : ∀ query world, (∀ handle method parameters, query ≠ .call handle method parameters) →
    (first query world).1 = (second query world).1
  afterwards : ∀ query world, (first query world).2 = (second query world).2

section Agreement

variable {saying : Saying} {pieces : List (List UInt8)} {reply : HttpReply}

theorem outcome_socket (proper : saying.Proper) (collected : saying.Collected pieces)
    (path : String) : (Endpoint.socket path).outcome (.collected pieces) = saying.outcome := by
  obtain ⟨value, read, outcome⟩ := collected.outcome proper true
  rw [Endpoint.outcome, read]
  exact outcome

theorem outcome_rest (proper : saying.Proper) (answered : saying.Answered reply)
    (url rune : String) (caCert : Option String) :
    (Endpoint.rest url rune caCert).outcome (.answered reply) = saying.outcome :=
  answered.outcome proper

theorem SameDaemon.eq {ω : Type} {path url rune : String} {caCert : Option String}
    {first second : Surroundings ω} (same : SameDaemon path url rune caCert first second) :
    first = second := by
  funext query world
  refine Prod.ext ?_ (same.afterwards query world)
  cases query with
  | call handle method parameters =>
      obtain ⟨saying, pieces, reply, proper, collected, answered, one, other⟩ :=
        same.calls handle method parameters world
      rw [one, other, outcome_socket proper collected, outcome_rest proper answered]
  | _ => exact same.others _ world nofun

end Agreement

/-- A call comes to the same over a socket and over HTTP: the value of the result, or an error with
the code and the message of the error object. However the answer over the socket is printed and cut
into pieces, it is complete with its empty line, whether or not the connection ends. Every operation
makes the same failure of the error, and a whole operation has the same outcome either way. -/
theorem transports_agree (path url rune : String) (caCert : Option String) :
    (∀ (saying : Saying) (pieces : List (List UInt8)) (reply : HttpReply),
      saying.Proper → saying.Collected pieces → saying.Answered reply →
        (∀ connectionEnds, ∃ value,
          Socket.read connectionEnds [] pieces = .answered (.ok value) ∧
            Socket.outcome (.ok value) = saying.outcome) ∧
        (∀ (plan other : Plan) (files : FileSystem) (counters : Counters) (handle : Handle)
          (method : String) (parameters : Json), plan.endpoint = .socket path →
            other.endpoint = .rest url rune caCert → ∃ answer answerOther,
              Exchange.step plan files counters (.call handle method parameters) =
                .errand (plan.endpoint.errand counters.number method parameters) answer ∧
              Exchange.step other files counters (.call handle method parameters) =
                .errand (other.endpoint.errand counters.number method parameters) answerOther ∧
              (answer (.collected pieces)).1 = saying.outcome ∧
              (answerOther (.answered reply)).1 = saying.outcome) ∧
        ∀ operation,
          Gateway.classified operation ((Endpoint.socket path).outcome (.collected pieces)) =
            Gateway.classified operation saying.outcome ∧
          Gateway.classified operation
              ((Endpoint.rest url rune caCert).outcome (.answered reply)) =
            Gateway.classified operation saying.outcome) ∧
    ∀ {ω α : Type} (first second : Surroundings ω), SameDaemon path url rune caCert first second →
      ∀ (operation : Gateway α) (settings : Settings) (session : Session) (world : ω),
        Gateway.outcome first settings operation session world =
          Gateway.outcome second settings operation session world := by
  constructor
  · intro saying pieces reply proper collected answered
    have overSocket := outcome_socket proper collected path
    have overHttp := outcome_rest proper answered url rune caCert
    refine ⟨collected.outcome proper, ?_, fun operation => ?_⟩
    · intro plan other files counters handle method parameters isSocket isRest
      refine ⟨_, _, rfl, rfl, ?_, ?_⟩
      · change plan.endpoint.outcome (.collected pieces) = _
        rw [isSocket, overSocket]
      · change other.endpoint.outcome (.answered reply) = _
        rw [isRest, overHttp]
    · rw [overSocket, overHttp]
      exact ⟨rfl, rfl⟩
  · intro ω α first second same operation settings session world
    rw [same.eq]

/-! ### A refusal over both transports -/

def refusedFields : List (String × Json) :=
  [("code", .number (.integer (-32602))),
    ("message", .string "⚡ amount_msat parameter unnecessary"),
    ("data", .object [("hint", .array [])])]

def refused : Saying :=
  .refusal refusedFields ⟨some (-32602), "⚡ amount_msat parameter unnecessary"⟩

def refusedEnvelope : List (String × Json) :=
  [("jsonrpc", .string "2.0"), ("error", .object refusedFields), ("id", .ofNat 7)]

def refusedCharacters : List Char := '\n' :: (Json.object refusedEnvelope).compactCharacters

def refusedBytes : List UInt8 := Text.utf8 (refusedCharacters ++ ['\n', '\n'])

/-- The second piece begins within a character, the third one between two line breaks. -/
def refusedPieces : List (List UInt8) :=
  [refusedBytes.take 54, (refusedBytes.drop 54).take 65, (refusedBytes.drop 54).drop 65]

def refusedReply : HttpReply := ⟨500, (Json.object refusedFields).compact⟩

theorem proper_refused : refused.Proper :=
  ⟨⟨by decide, rfl, rfl, by decide, by decide⟩, by decide⟩

theorem plain_refusedFields (depth : Nat) : (Json.object refusedFields).Plain (depth + 3) := by
  simp [Json.Plain, Json.PlainFields, Json.PlainItems, refusedFields, Bound.signed64, Bound.word64]

theorem plain_refusedEnvelope : (Json.object refusedEnvelope).Plain 4 := by
  have error := plain_refusedFields 0
  have number : (Json.ofNat 7).Plain 3 := Codec.plain_ofNat 3 (by decide)
  exact ⟨trivial, error, number, trivial⟩

theorem collected_refused : refused.Collected refusedPieces := by
  have printing := Json.printing_compactCharacters _ plain_refusedEnvelope
  refine ⟨refusedEnvelope, refusedCharacters, ⟨by decide, rfl, by decide⟩,
    .before (.inr (.inl rfl)) printing, ?_, ?_⟩
  · decide +kernel
  · change refusedBytes.take 54 ++ ((refusedBytes.drop 54).take 65 ++
      ((refusedBytes.drop 54).drop 65 ++ [])) = refusedBytes
    rw [List.append_nil, List.take_append_drop, List.take_append_drop]

theorem answered_refused : refused.Answered refusedReply :=
  ⟨⟨by decide, by decide, by decide, by decide⟩, Json.printing_compact (plain_refusedFields 0)⟩

def refusedOverSocket : Except TransportError Json :=
  (Endpoint.socket "lightning-rpc").outcome (.collected refusedPieces)

def refusedOverHttp : Except TransportError Json :=
  (Endpoint.rest "https://node" "rune" none).outcome (.answered refusedReply)

/-- A daemon that replies to every call in the same way. -/
def Replies.always (reply : Except TransportError Json) : Replies :=
  .answering (.ok 0) (fun _ => reply) fun _ => .ok ""

theorem sameDaemon_always {saying : Saying} {pieces : List (List UInt8)} {reply : HttpReply}
    {path url rune : String} {caCert : Option String} {first second : Except TransportError Json}
    (proper : saying.Proper) (collected : saying.Collected pieces)
    (answered : saying.Answered reply)
    (overSocket : first = (Endpoint.socket path).outcome (.collected pieces))
    (overHttp : second = (Endpoint.rest url rune caCert).outcome (.answered reply)) :
    SameDaemon path url rune caCert (Replies.always first).surroundings
      (Replies.always second).surroundings where
  calls _ _ _ _ := ⟨saying, pieces, reply, proper, collected, answered, overSocket, overHttp⟩
  others query _ other := by
    cases query with
    | call handle method parameters => exact absurd rfl (other handle method parameters)
    | _ => rfl
  afterwards _ _ := rfl

/-- The call comes to the same failure either way, and so does a payment. -/
theorem transports_agree_refused :
    Gateway.classified .sendPayment refusedOverSocket = .error ⟨.invalidArgument,
        "amount must not be specified when paying a non-zero amount invoice"⟩ ∧
      Gateway.classified .sendPayment refusedOverHttp = .error ⟨.invalidArgument,
        "amount must not be specified when paying a non-zero amount invoice"⟩ ∧
      ∀ settings session, Gateway.outcome (Replies.always refusedOverSocket).surroundings settings
          (Gateway.sendPayment "lnbc1" 60 5000 (some 1)) session () =
        Gateway.outcome (Replies.always refusedOverHttp).surroundings settings
          (Gateway.sendPayment "lnbc1" 60 5000 (some 1)) session () := by
  obtain ⟨calls, operations⟩ := transports_agree "lightning-rpc" "https://node" "rune" none
  obtain ⟨-, -, classified⟩ :=
    calls refused refusedPieces refusedReply proper_refused collected_refused answered_refused
  have expected : Gateway.classified .sendPayment refused.outcome = .error ⟨.invalidArgument,
      "amount must not be specified when paying a non-zero amount invoice"⟩ :=
    congrArg Except.error (by decide +kernel)
  have same : SameDaemon "lightning-rpc" "https://node" "rune" none
      (Replies.always refusedOverSocket).surroundings
      (Replies.always refusedOverHttp).surroundings :=
    sameDaemon_always proper_refused collected_refused answered_refused rfl rfl
  exact ⟨(classified .sendPayment).1.trans expected, (classified .sendPayment).2.trans expected,
    fun settings session => operations _ _ same _ settings session ()⟩

end LightningGateway
