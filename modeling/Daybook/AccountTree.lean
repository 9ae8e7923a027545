import Daybook.Balance
import Daybook.Text.Words

set_option relaxedAutoImplicit false
set_option autoImplicit false

/-!
# The tree of accounts

Account names are paths, their segments separated by colons. Every node of the tree stands for the
accounts below a path and holds the sums of their balances.

## Main definitions

* `segments` — the segments of an account name.
* `AccountNode` — a node with the nodes below it.
* `AccountNode.insert` — a balance added along a path.
* `AccountNode.forest` — the tree of all accounts.
* `AccountNode.find?` — the node of a path.

## Design

Accounts are inserted in the order of their names, and siblings stand in the order in which they
were inserted first. The path of a node is what its segments are joined to by colons; no colon is
put behind an empty path, so that empty segments at the beginning of a name leave no trace in it.
-/

namespace Daybook

/-- The segments of an account name. -/
def segments (account : String) : List String :=
  (Text.pieces (· == ':') account.toList).map String.ofList

/-- A node of the tree of accounts. -/
structure AccountNode where
  segment : String
  path : String
  /-- The sums of the account itself and of all accounts below it. -/
  amount : Balance
  children : List AccountNode

namespace AccountNode

/-- Whether nothing stands below the node. -/
def isLeaf (n : AccountNode) : Bool :=
  n.children.isEmpty

/-- A path continued by a segment. -/
def extendPath (path segment : String) : String :=
  if path.isEmpty then segment else path ++ ":" ++ segment

/-- Changes the first node with the segment of `fresh`; if there is none, `fresh` is changed and put
last. -/
def alterFirst (fresh : AccountNode) (change : AccountNode → AccountNode) :
    List AccountNode → List AccountNode
  | [] => [change fresh]
  | n :: rest =>
    if n.segment = fresh.segment then change n :: rest
    else n :: alterFirst fresh change rest

/-- Adds a balance to the nodes along the given segments, which continue a path. -/
def insert (amount : Balance) : (path : String) → List String → List AccountNode → List AccountNode
  | _, [], nodes => nodes
  | path, segment :: rest, nodes =>
    let here := extendPath path segment
    alterFirst ⟨segment, here, ∅, []⟩
      (fun n => { n with
        amount := n.amount.add amount
        children := insert amount here rest n.children })
      nodes

/-- Adds the balance of an account. -/
def insertAccount (nodes : List AccountNode) (account : String) (amount : Balance) :
    List AccountNode :=
  insert amount "" (segments account) nodes

/-- The tree of all accounts, which are inserted in the order of their names. -/
def forest (balance : Std.TreeMap String Balance) : List AccountNode :=
  balance.toList.foldl (fun nodes account => insertAccount nodes account.1 account.2) []

/-- The node that segments lead to. -/
def findSegments : List String → List AccountNode → Option AccountNode
  | [], _ => none
  | segment :: rest, nodes =>
    match nodes.find? fun n => n.segment == segment with
    | none => none
    | some n => if rest.isEmpty then some n else findSegments rest n.children

/-- The node of a path. -/
def find? (nodes : List AccountNode) (path : String) : Option AccountNode :=
  findSegments (segments path) nodes

end AccountNode

end Daybook
