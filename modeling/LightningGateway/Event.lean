import LightningGateway.Wallet

/-!
# Events

What the gateway tells others after it has changed something.
-/

namespace LightningGateway

/-- An event that the gateway publishes. -/
inductive NodeEvent where
  /-- Coins are on their way. -/
  | onchainPaymentStatus (response : SendCoinsResponse)
  deriving Repr, BEq, DecidableEq

namespace NodeEvent

def variants : List (String × Unit) := [("onchain_payment_status", ())]

def tagCodec : Codec Unit := .enumeration variants fun _ => "onchain_payment_status"

/-- Finds the tag and the content among the fields; other fields are passed over. A content that
comes before the tag is kept until the tag is known. -/
def split (origin : Origin) : List (Option String × Document) →
    Option Unit × Option (Origin × Document) →
    Except DecodeError (Option Unit × Option (Origin × Document))
  | [], found => .ok found
  | (none, _) :: _, _ => .error .malformed
  | (some key, document) :: rest, (tag, content) =>
      if key = "event" then
        if tag.isSome then .error (.duplicateField "event")
        else
          match tagCodec.read origin document with
          | .error error => .error error
          | .ok tag => split origin rest (some tag, content)
      else if key = "data" then
        if content.isSome then .error (.duplicateField "data")
        else split origin rest (tag, some (if tag.isSome then origin else .kept, document))
      else split origin rest (tag, content)

/-- What an event is, in messages. -/
def expectation : String := "adjacently tagged enum NodeEvent"

def readContent (origin : Origin) (document : Document) : Except DecodeError NodeEvent :=
  (SendCoinsResponse.codec.read origin document).map onchainPaymentStatus

/-- Reads an event from an object with a tag and a content, or from an array of both. -/
def read (origin : Origin) : Document → Except DecodeError NodeEvent
  | .object fields complete =>
      match split origin fields (none, none) with
      | .error error => .error error
      | .ok (tag, content) =>
          if !complete then .error .malformed
          else
            match tag, content with
            | none, _ => .error (.missingField "event")
            | some (), none => .error (.missingField "data")
            | some (), some (origin, document) => readContent origin document
  | .array [] complete => .error (if complete then .invalidLength 0 expectation else .malformed)
  | .array (tag :: rest) complete =>
      match tagCodec.read origin tag with
      | .error error => .error error
      | .ok () =>
          match rest with
          | [] => .error (if complete then .invalidLength 1 expectation else .malformed)
          | content :: left =>
              match readContent origin content with
              | .error error => .error error
              | .ok event =>
                  match left, Layout.surplus? origin 2 (left.length + 2) with
                  | _ :: _, some error => .error error
                  | _, _ => if complete then .ok event else .error .malformed
  | document => .error (.mismatch expectation document)

/-- Events in JSON: the name of the variant beside its content. -/
def codec : Codec NodeEvent where
  read := read
  write
    | onchainPaymentStatus response =>
        .object [("event", .string "onchain_payment_status"),
          ("data", SendCoinsResponse.codec.write response)]
  absent := none

end NodeEvent

end LightningGateway
