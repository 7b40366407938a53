/-
# GeoFeed.Toml.Reader -- reading TOML documents

A document is a sequence of lines: blank lines and comments, headers, and keys
with values.  Arrays may go over several lines and end in a comma; tables within
a line may not.  A byte order mark at the front is passed over.
-/
import GeoFeed.Toml.Node
import GeoFeed.Toml.Scalar

namespace GeoFeed.Toml

set_option autoImplicit false

/-! ## Values -/

/-- The items of an array after its bracket, of which `seen` has been read, last
item first.  Each step reads one item. -/
def arrayItems? (item? : Reader Value) (seen : List Value) : (steps : Nat) → Reader (List Value)
  | 0, _ => none
  | steps + 1, cs =>
      match skipSpace? cs with
      | none => none
      | some (']' :: rest) => some (seen.reverse, rest)
      | some cs =>
          match item? cs with
          | none => none
          | some (v, rest) =>
              match skipSpace? rest with
              | some (',' :: rest) => arrayItems? item? (v :: seen) steps rest
              | some (']' :: rest) => some ((v :: seen).reverse, rest)
              | _ => none

/-- A key and its value, with the blanks around them. -/
def assignment? (item? : Reader Value) : Reader (List String × Value) := fun cs => do
  let (key, rest) ← key? cs
  let rest ← mark? '=' rest
  let (v, rest) ← item? (skipBlanks rest)
  some ((key, v), skipBlanks rest)

/-- The entries of a table within a line, after its brace. -/
def tableItems? (item? : Reader Value) (nodes : Nodes) : (steps : Nat) → Reader Nodes
  | 0, _ => none
  | steps + 1, cs =>
      match assignment? item? cs with
      | none => none
      | some ((key, v), rest) =>
          match nodes.assign key v with
          | none => none
          | some nodes =>
              match rest with
              | ',' :: rest => tableItems? item? nodes steps rest
              | '\x7d' :: rest => some (nodes, rest)
              | _ => none

/-- A table within a line, after its brace. -/
def inlineTable? (item? : Reader Value) : Reader Value := fun cs =>
  match skipBlanks cs with
  | '\x7d' :: rest => some (.table [], rest)
  | rest => (tableItems? item? [] (rest.length + 1) rest).map fun (nodes, rest) =>
      (.table (nodeEntries nodes), rest)

/-- A value in which arrays and tables may be nested `room` deep. -/
def value? : (room : Nat) → Reader Value
  | 0, cs => scalarValue? cs
  | room + 1, cs =>
      match cs with
      | '[' :: rest =>
          (arrayItems? (value? room) [] (rest.length + 1) rest).map fun (items, rest) =>
            (.array items, rest)
      | '\x7b' :: rest => inlineTable? (value? room) rest
      | _ => scalarValue? cs

/-! ## Lines -/

/-- What has been read of a document: the path of the header in force, and the
tables so far. -/
structure Draft where
  header : List String := []
  nodes : Nodes := []

/-- Read a header line, after its first bracket. -/
def headerLine? (d : Draft) (cs : List Char) : Option (Draft × List Char) :=
  match cs with
  | '[' :: rest => do
      let (path, rest) ← key? rest
      let rest ← endLine? (← mark? ']' (← mark? ']' rest))
      pure (⟨path, ← d.nodes.append path⟩, rest)
  | _ => do
      let (path, rest) ← key? cs
      let rest ← endLine? (← mark? ']' rest)
      pure (⟨path, ← d.nodes.define path⟩, rest)

/-- Read a line with a key and its value. -/
def valueLine? (d : Draft) (cs : List Char) : Option (Draft × List Char) := do
  let ((key, v), rest) ← assignment? (value? nestingLimit) cs
  let rest ← endLine? rest
  pure ({ d with nodes := ← d.nodes.assignUnder d.header key v }, rest)

/-- Read the lines of a document; each step reads one. -/
def documentLines? (d : Draft) : (steps : Nat) → List Char → Option Draft
  | 0, _ => none
  | steps + 1, cs =>
      match skipBlanks cs with
      | [] => some d
      | '#' :: rest =>
          match endLine? ('#' :: rest) with
          | some rest => documentLines? d steps rest
          | none => none
      | '[' :: rest =>
          match headerLine? d rest with
          | some (d, rest) => documentLines? d steps rest
          | none => none
      | c :: rest =>
          match afterLineEnd? (c :: rest) with
          | some rest => documentLines? d steps rest
          | none =>
              match valueLine? d (c :: rest) with
              | some (d, rest) => documentLines? d steps rest
              | none => none

/-- The entries of a document. -/
def document? (s : String) : Option Entries :=
  let cs := match s.toList with
    | '\uFEFF' :: rest => rest
    | cs => cs
  (documentLines? {} (cs.length + 1) cs).map fun d => nodeEntries d.nodes

end GeoFeed.Toml
