/-
# GeoFeed.Toml.Node -- tables under construction

The tables of a document come about in three ways: a header defines its table
and implies those above it, and a dotted key makes tables of its own.  A table is
defined once.  A header may define an implied table, but not one made by dotted
keys; dotted keys add to tables made by dotted keys, but not to those that a
header has defined.  A header in double brackets adds a table to a list, and
whatever goes on below such a list goes on in its last table.

A value that has been written out is closed: nothing can be added to its tables.
-/
import GeoFeed.Toml.Value

namespace GeoFeed.Toml

set_option autoImplicit false

/-- How a table came about. -/
inductive Origin where
  | defined
  | implied
  | dotted
deriving Repr, DecidableEq

inductive Node where
  | value (v : Value)
  | table (origin : Origin) (entries : List (String × Node))
  /-- The last table of a list and those before it, the latest first. -/
  | tables (last : List (String × Node)) (before : List (List (String × Node)))

/-- The nodes of a table under construction. -/
abbrev Nodes := List (String × Node)

namespace Nodes

/-- Put a node under a key that has none or in place of its node. -/
def put (nodes : Nodes) (key : String) (node : Node) : Nodes :=
  match nodes with
  | [] => [(key, node)]
  | (other, kept) :: rest =>
      if other = key then (key, node) :: rest else (other, kept) :: put rest key node

/-- Change the table that a path leads to; `byKey` says that the path comes from a
dotted key.  The change is told the origin of the table. -/
def changeAt (byKey : Bool) (change : Origin → Nodes → Option Nodes) :
    (path : List String) → Origin → Nodes → Option Nodes
  | [], origin, nodes => change origin nodes
  | key :: path, _, nodes => do
      let node ← match nodes.lookup key with
        | none =>
            let origin := if byKey then .dotted else .implied
            pure (.table origin (← changeAt byKey change path origin []))
        | some (.value _) => none
        | some (.table origin inner) =>
            if byKey && origin == .defined then none
            else pure (.table origin (← changeAt byKey change path origin inner))
        | some (.tables last before) =>
            pure (.tables (← changeAt byKey change path .defined last) before)
      pure (nodes.put key node)

/-- Give a key below a table a value. -/
def assign (key : List String) (v : Value) (nodes : Nodes) : Option Nodes :=
  match key.reverse with
  | [] => none
  | last :: front =>
      changeAt true
        (fun origin nodes =>
          if (origin == .dotted) == front.isEmpty then none
          else if (nodes.lookup last).isSome then none
          else some (nodes.put last (.value v)))
        front.reverse .defined nodes

/-- Define the table of a header. -/
def define (path : List String) (nodes : Nodes) : Option Nodes :=
  match path.reverse with
  | [] => none
  | last :: front =>
      changeAt false
        (fun _ nodes =>
          match nodes.lookup last with
          | none => some (nodes.put last (.table .defined []))
          | some (.table .implied inner) => some (nodes.put last (.table .defined inner))
          | some _ => none)
        front.reverse .defined nodes

/-- Add a table to the list of a header in double brackets. -/
def append (path : List String) (nodes : Nodes) : Option Nodes :=
  match path.reverse with
  | [] => none
  | last :: front =>
      changeAt false
        (fun _ nodes =>
          match nodes.lookup last with
          | none => some (nodes.put last (.tables [] []))
          | some (.tables latest before) => some (nodes.put last (.tables [] (latest :: before)))
          | some _ => none)
        front.reverse .defined nodes

/-- Give a key a value in the table of a header. -/
def assignUnder (header key : List String) (v : Value) (nodes : Nodes) : Option Nodes :=
  changeAt false (fun _ nodes => nodes.assign key v) header .defined nodes

end Nodes

mutual

/-- The value that a finished node stands for. -/
def Node.toValue : Node → Value
  | .value v => v
  | .table _ entries => .table (nodeEntries entries)
  | .tables last before => .array (nodeTables [.table (nodeEntries last)] before)

def nodeEntries : List (String × Node) → List (String × Value)
  | [] => []
  | (key, node) :: rest => (key, node.toValue) :: nodeEntries rest

/-- Put tables, the latest first, in front of the values that follow them. -/
def nodeTables (after : List Value) : List (List (String × Node)) → List Value
  | [] => after
  | entries :: rest => nodeTables (.table (nodeEntries entries) :: after) rest

end

end GeoFeed.Toml
