/-
# GeoFeed.Command.Arguments -- the command line

An option has a long name and takes one value, which is the next argument or
stands behind an equals sign; the format option also has a short name, behind
which its value may stand at once.  An argument that begins with a dash is never
the value of an option, a lone dash excepted, and after two dashes nothing is an
option any more.  All other arguments are inputs.

Type names and format options may be given repeatedly, the others once.  A path
must not be empty.  At least one type name and one input are needed.
-/
import GeoFeed.Feed.Delivery
import GeoFeed.Request.Options

namespace GeoFeed.Command

set_option autoImplicit false

/-- What is asked for on the command line. -/
structure Invocation where
  config : Option String := none
  baseUrl : Option String := none
  typeNames : List String := []
  namespaceUri : Option String := none
  outputFormat : Option String := none
  options : List (String × String) := []
  output : Option String := none
  inputs : List String := []
deriving Repr, DecidableEq

/-- Why an invocation is not carried out. -/
inductive Refusal where
  | usage
  /-- Help was asked for. -/
  | help
deriving Repr, DecidableEq

inductive Flag where
  | config
  | baseUrl
  | typeName
  | namespaceUri
  | outputFormat
  | formatOption
  | output
deriving Repr, DecidableEq

/-- The option of a long name. -/
def Flag.ofLong? (name : List Char) : Option Flag :=
  let name := String.ofList name
  if name = "config" then some .config
  else if name = "base-url" then some .baseUrl
  else if name = "type-name" then some .typeName
  else if name = "namespace" then some .namespaceUri
  else if name = "output-format" then some .outputFormat
  else if name = "format-option" then some .formatOption
  else if name = "output" then some .output
  else none

/-- An argument as it is read before any two dashes. -/
inductive Argument where
  | input (text : String)
  /-- Two dashes. -/
  | endOfOptions
  | help
  /-- An option, with the value that stands in the same argument. -/
  | option (flag : Flag) (value : Option String)
  | unknown
deriving Repr, DecidableEq

namespace Argument

/-- An argument that begins with two dashes, after them. -/
def ofLong (text : List Char) : Argument :=
  match Text.cut? '=' text with
  | some (name, value) =>
      match Flag.ofLong? name with
      | some flag => option flag (some (String.ofList value))
      | none => unknown
  | none =>
      if text = "help".toList then help
      else
        match Flag.ofLong? text with
        | some flag => option flag none
        | none => unknown

/-- An argument that begins with a single dash, after it. -/
def ofShort : List Char → Argument
  | 'h' :: _ => help
  | ['o'] => option .formatOption none
  | 'o' :: '=' :: value => option .formatOption (some (String.ofList value))
  | 'o' :: value => option .formatOption (some (String.ofList value))
  | _ => unknown

def ofText (text : String) : Argument :=
  match text.toList with
  | ['-'] => input text
  | ['-', '-'] => endOfOptions
  | '-' :: '-' :: rest => ofLong rest
  | '-' :: rest => ofShort rest
  | _ => input text

end Argument

namespace Invocation

/-- Set an option that may be given once. -/
def once (old : Option String) (value : String) : Option (Option String) :=
  if old.isSome then none else some (some value)

/-- A path, which must not be empty. -/
def path? (text : String) : Option String :=
  if text.isEmpty then none else some text

/-- Accept the value of an option. -/
def accept (i : Invocation) (flag : Flag) (value : String) : Option Invocation :=
  match flag with
  | .config => do pure { i with config := ← once i.config (← path? value) }
  | .baseUrl => do pure { i with baseUrl := ← once i.baseUrl value }
  | .typeName => some { i with typeNames := i.typeNames ++ [value] }
  | .namespaceUri => do pure { i with namespaceUri := ← once i.namespaceUri value }
  | .outputFormat => do pure { i with outputFormat := ← once i.outputFormat value }
  | .formatOption => do pure { i with options := i.options ++ [← Options.split? value] }
  | .output => do pure { i with output := ← once i.output (← path? value) }

def acceptInput (i : Invocation) (text : String) : Option Invocation := do
  pure { i with inputs := i.inputs ++ [← path? text] }

/-- A usable value or a refusal. -/
def orUsage {α : Type} : Option α → Except Refusal α
  | some a => .ok a
  | none => .error .usage

/-- Read arguments in order. -/
def readArguments (i : Invocation) : List String → Except Refusal Invocation
  | [] => .ok i
  | text :: rest =>
      match Argument.ofText text with
      | .input text => do (← orUsage (i.acceptInput text)).readArguments rest
      | .endOfOptions => orUsage (rest.foldlM acceptInput i)
      | .help => .error .help
      | .unknown => .error .usage
      | .option flag (some value) => do (← orUsage (i.accept flag value)).readArguments rest
      | .option flag none =>
          match rest with
          | next :: rest =>
              match Argument.ofText next with
              | .input value => do (← orUsage (i.accept flag value)).readArguments rest
              | _ => .error .usage
          | [] => .error .usage

/-- Read a command line. -/
def ofArguments (arguments : List String) : Except Refusal Invocation := do
  let i ← readArguments {} arguments
  if i.typeNames.isEmpty || i.inputs.isEmpty then .error .usage else .ok i

/-- The request that an invocation makes. -/
def request (i : Invocation) : Request where
  baseUrl := i.baseUrl.getD "http://localhost:8080/geoserver/"
  outputFormat := i.outputFormat.getD formatName
  types := i.typeNames.map fun name => TypeName.ofText name (i.namespaceUri.getD "")
  options := .ofList i.options

end Invocation

end GeoFeed.Command
