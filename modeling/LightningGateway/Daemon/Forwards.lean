import LightningGateway.Channel
import LightningGateway.Daemon.Timestamp

/-!
# Reported forwards

Payments that the daemon has forwarded, as events, and the fees they have earned.
-/

namespace LightningGateway.Daemon

/-- A forwarded payment as the daemon lists it. -/
structure Forward where
  channelIn : String
  channelOut : String
  amountIn : Msat
  amountOut : Option Msat
  reportedFee : Option Msat
  receivedTime : UInt64
  resolvedTime : Option UInt64
  deriving Repr, BEq, DecidableEq

def Forward.layout :=
  Layout.required "in_channel" Codec.text <|
    Layout.defaulted "out_channel" Codec.text "" <|
    Layout.required "in_msat" Amount.codec <|
    Layout.defaulted "out_msat" Amount.anyCodec none <|
    Layout.defaulted "fee_msat" Amount.anyCodec none <|
    Layout.required "received_time" Timestamp.codec <|
    Layout.defaulted "resolved_time" Timestamp.optionalCodec none <|
    Layout.done

def Forward.codec : Codec Forward :=
  .record "Forward" layout
    (fun (channelIn, channelOut, amountIn, amountOut, reportedFee, receivedTime, resolvedTime,
      ()) =>
      { channelIn, channelOut, amountIn, amountOut, reportedFee, receivedTime, resolvedTime })
    (fun value => (value.channelIn, value.channelOut, value.amountIn, value.amountOut,
      value.reportedFee, value.receivedTime, value.resolvedTime, ()))

/-- All forwarded payments. -/
structure ForwardListing where
  forwards : List Forward
  deriving Repr, BEq, DecidableEq

def ForwardListing.layout :=
  Layout.defaulted "forwards" (Codec.list Forward.codec) [] <|
    Layout.done

def ForwardListing.codec : Codec ForwardListing :=
  .record "ListForwards" layout
    (fun (forwards, ()) =>
      { forwards })
    (fun value => (value.forwards, ()))

namespace Forward

/-- The fee, from the amounts if it is not reported. -/
def fee (forward : Forward) : Msat :=
  match forward.reportedFee with
  | some fee => fee
  | none => Word.minus forward.amountIn (forward.amountOut.getD forward.amountIn)

/-- The time that dates the forward: its end, or its beginning if no end is reported. -/
def date (forward : Forward) : UInt64 := forward.resolvedTime.getD forward.receivedTime

/-- The seconds since the forward; none if it is dated later. -/
def age (now : UInt64) (forward : Forward) : UInt64 := Word.minus now forward.date

def toEvent (forward : Forward) : ForwardEvent where
  received := forward.receivedTime
  resolved := forward.date
  channelIn := forward.channelIn
  channelOut := forward.channelOut
  amountIn := forward.amountIn
  amountOut := forward.amountOut.getD 0
  fee := forward.fee

def totalFee (forwards : List Forward) : Msat :=
  (forwards.map fee).foldl (· + ·) 0

def day : UInt64 := 24 * 60 * 60

/-- The sum of the fees of the forwards that are younger than a period. -/
def feesWithin (period now : UInt64) (forwards : List Forward) : Msat :=
  totalFee (forwards.filter fun forward => forward.age now < period)

/-- The fees earned in the last day, week, month and year, and ever. -/
def revenue (now : UInt64) (forwards : List Forward) : FeeRevenue where
  day := feesWithin day now forwards
  week := feesWithin (7 * day) now forwards
  month := feesWithin (30 * day) now forwards
  year := feesWithin (365 * day) now forwards
  total := totalFee forwards

end Forward

end LightningGateway.Daemon
