/-
# GeoFeed.Main -- the program

Reads the settings and the inputs, and writes the feed to the standard output or
to a file.  Everything that is decided is decided by `Command`; what is left to
do here is to read, to write and to say how it went.
-/
import GeoFeed.Command.Job

namespace GeoFeed.Command

set_option autoImplicit false

def usageText : String :=
  "Encode feature collections as GeoRSS feeds\n\n"
    ++ "Usage: georss [OPTIONS] --type-name <PREFIX:NAME> <INPUT>...\n\n"
    ++ "Arguments:\n"
    ++ "  <INPUT>...  Feature collection files (JSON arrays), encoded in order\n\n"
    ++ "Options:\n"
    ++ "      --config <FILE>              Config file (defaults to ~/.config/georss/config.toml)\n"
    ++ "      --base-url <URL>             Service base URL used for feed and item links\n"
    ++ "      --type-name <PREFIX:NAME>    Requested feature type(s), as prefix:name\n"
    ++ "      --namespace <URI>            Namespace URI bound to the type name prefixes\n"
    ++ "      --output-format <NAME>       Output format name echoed into the feed link\n"
    ++ "  -o, --format-option <KEY=VALUE>  Format option, e.g. -o encoding=gml\n"
    ++ "      --output <FILE>              Write the feed here instead of stdout\n"
    ++ "  -h, --help                       Print help\n"

/-- Read an open file. -/
def readOpen (handle : IO.FS.Handle) : IO FileContent := do
  match ← handle.readBinToEnd.toBaseIO with
  | .ok content => return .bytes content
  | .error _ => return .unreadable

/-- Read a file as far as that is possible. -/
def readFile (path : String) : IO FileContent := do
  match ← (IO.FS.Handle.mk path .read).toBaseIO with
  | .ok handle => readOpen handle
  | .error (.noFileOrDirectory ..) => return .missing
  | .error _ => return .closed

/-- Say why the program ends. -/
def report (message : String) : IO UInt32 := do
  IO.eprintln ("Error: " ++ message)
  return 1

/-- Write the document of a job. -/
def publish (job : Job) (output : Option String) : IO UInt32 := do
  let delivery := job.run.delivery
  let bytes : ByteArray := ⟨delivery.bytes.toArray⟩
  match output with
  | none =>
      let stdout ← IO.getStdout
      stdout.write bytes
      stdout.flush
  | some path =>
      match ← (IO.FS.writeBinFile path bytes).toBaseIO with
      | .ok _ => pure ()
      | .error _ => return ← report (Failure.createOutput path).message
  match delivery.failure with
  | none => return 0
  | some cause => report (Failure.feed cause).message

/-- Carry out an invocation. -/
def carryOut (i : Invocation) : IO UInt32 := do
  let home? ← IO.getEnv "HOME"
  match i.config.or home? with
  | none => report "HOME environment variable not set"
  | some _ =>
      let home := home?.getD ""
      let contents ← (i.settingsPath home :: i.inputs).mapM fun path =>
        return (path, ← readFile path)
      match i.prepare home fun path => (contents.lookup path).getD .missing with
      | .error failure => report failure.message
      | .ok job => publish job i.output

end GeoFeed.Command

open GeoFeed.Command in
def main (arguments : List String) : IO UInt32 := do
  match Invocation.ofArguments arguments with
  | .ok i => carryOut i
  | .error .help =>
      IO.print usageText
      return 0
  | .error .usage =>
      IO.eprint usageText
      return 2
