import LightningGateway.Json.Record

/-!
# Short answers

What the daemon answers to commands, and to questions about other nodes.
-/

namespace LightningGateway.Daemon

/-- A transaction that sends coins. -/
structure Withdrawal where
  txid : String
  deriving Repr, BEq, DecidableEq

def Withdrawal.layout :=
  Layout.required "txid" Codec.text <|
    Layout.done

def Withdrawal.codec : Codec Withdrawal :=
  .record "Withdraw" layout
    (fun (txid, ()) =>
      { txid })
    (fun value => (value.txid, ()))

/-- A transaction that opens a channel. -/
structure FundedTransaction where
  txid : String
  deriving Repr, BEq, DecidableEq

def FundedTransaction.layout :=
  Layout.required "txid" Codec.text <|
    Layout.done

def FundedTransaction.codec : Codec FundedTransaction :=
  .record "FundChannelResult" layout
    (fun (txid, ()) =>
      { txid })
    (fun value => (value.txid, ()))

/-- How a channel was closed. -/
inductive CloseKind where
  /-- Both sides agreed. -/
  | agreed
  | unilateral
  /-- It was not open yet. -/
  | unopened
  deriving Repr, BEq, DecidableEq

namespace CloseKind

def named : List (String × CloseKind) :=
  [("mutual", agreed), ("unilateral", unilateral), ("unopened", unopened)]

def name : CloseKind → String
  | agreed => "mutual"
  | unilateral => "unilateral"
  | unopened => "unopened"

def codec : Codec CloseKind := .enumeration named name

end CloseKind

/-- The answer to a request to close a channel. -/
structure Closing where
  kind : CloseKind
  txid : Option String
  deriving Repr, BEq, DecidableEq

def Closing.layout :=
  Layout.required "type" CloseKind.codec <|
    Layout.required "txid" (Codec.optional Codec.text) <|
    Layout.done

def Closing.codec : Codec Closing :=
  .record "Close" layout
    (fun (kind, txid, ()) =>
      { kind, txid })
    (fun value => (value.kind, value.txid, ()))

/-- A node of the network. -/
structure GraphNode where
  nodeAlias : Option String
  deriving Repr, BEq, DecidableEq

def GraphNode.layout :=
  Layout.required "alias" (Codec.optional Codec.text) <|
    Layout.done

def GraphNode.codec : Codec GraphNode :=
  .record "NodeEntry" layout
    (fun (nodeAlias, ()) =>
      { nodeAlias })
    (fun value => (value.nodeAlias, ()))

/-- The nodes that fit a question. -/
structure GraphListing where
  nodes : List GraphNode
  deriving Repr, BEq, DecidableEq

def GraphListing.layout :=
  Layout.defaulted "nodes" (Codec.list GraphNode.codec) [] <|
    Layout.done

def GraphListing.codec : Codec GraphListing :=
  .record "ListNodes" layout
    (fun (nodes, ()) =>
      { nodes })
    (fun value => (value.nodes, ()))

/-- A new address, in the form that was asked for. -/
structure FreshAddress where
  bech32 : Option String
  p2tr : Option String
  deriving Repr, BEq, DecidableEq

def FreshAddress.layout :=
  Layout.required "bech32" (Codec.optional Codec.text) <|
    Layout.required "p2tr" (Codec.optional Codec.text) <|
    Layout.done

def FreshAddress.codec : Codec FreshAddress :=
  .record "NewAddr" layout
    (fun (bech32, p2tr, ()) =>
      { bech32, p2tr })
    (fun value => (value.bech32, value.p2tr, ()))

end LightningGateway.Daemon
