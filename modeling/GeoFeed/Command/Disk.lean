/-
# GeoFeed.Command.Disk -- running the program on a disk

A disk holds files under the names that lead to them from its root; the
directories are those that the files need, and the working directory with those
above it.  A path begins at the root or in the working directory, which is the
root itself where nothing else is said.  Running the program reads the disk as
it was at the start, and changes at most the file that is to hold the feed.
-/
import GeoFeed.Command.Job
import GeoFeed.Text.Cut

namespace GeoFeed.Command

set_option autoImplicit false

/-- Files by the names that lead to them. -/
structure Disk where
  files : List (List String × ByteArray)

/-- What a path leads to. -/
inductive Place where
  | file (names : List String) (content : ByteArray)
  | directory (names : List String)
  /-- Nothing, in a directory that is there. -/
  | vacant (names : List String)
  /-- Nothing, below a directory that is not there. -/
  | nowhere
  /-- Nothing that a path may lead to: something below a file, or too long a name. -/
  | blocked

namespace Disk

section Places

variable (d : Disk) (working : List String)

def isDirectory (names : List String) : Bool :=
  names.isPrefixOf working
    || d.files.any fun (path, _) => names.isPrefixOf path && names.length < path.length

/-- What is under exactly these names, in a directory that is there. -/
def placeOf (names : List String) : Place :=
  match d.files.lookup names with
  | some content => .file names content
  | none => if d.isDirectory working names then .directory names else .vacant names

/-- The longest name that an entry of a directory may have, in bytes. -/
def nameLimit : Nat := 255

/-- One step of a path.  Above the root there is the root. -/
def step (here : Place) (name : String) : Place :=
  match here with
  | .directory names =>
      if name.isEmpty || name = "." then here
      else if name = ".." then .directory names.dropLast
      else if nameLimit < name.utf8ByteSize then .blocked
      else d.placeOf working (names ++ [name])
  | .file _ _ => .blocked
  | .vacant _ => .nowhere
  | .nowhere => .nowhere
  | .blocked => .blocked

/-- What a path leads to from a directory. -/
def walk (start : List String) (path : List Char) : Place :=
  ((Text.pieces (· == '/') path).map String.ofList).foldl (d.step working) (.directory start)

/-- What a path leads to. -/
def find (path : String) : Place :=
  match path.toList with
  | [] => .nowhere
  | '/' :: rest => d.walk working [] rest
  | cs => d.walk working working cs

end Places

/-- The content of the file that a path leads to. -/
def read (d : Disk) (path : String) (working : List String := []) : FileContent :=
  match d.find working path with
  | .file _ content => .bytes content
  | .directory _ => .unreadable
  | .vacant _ => .missing
  | .nowhere => .missing
  | .blocked => .closed

/-- The disk with a file of the given content under names. -/
def put (d : Disk) (names : List String) (content : ByteArray) : Disk :=
  ⟨(names, content) :: d.files.filter fun (path, _) => path != names⟩

/-- The disk after a file has been written, where it can be. -/
def write? (d : Disk) (working : List String) (path : String) (content : ByteArray) : Option Disk :=
  match d.find working path with
  | .file names _ => some (d.put names content)
  | .vacant names => some (d.put names content)
  | _ => none

end Disk

/-- How a run of the program ended. -/
structure Outcome where
  /-- Nothing where the program has done its work. -/
  ending : Except Refusal (Option Failure)
  stdout : List UInt8
  disk : Disk

/-- The code that the program exits with. -/
def Outcome.exitCode (o : Outcome) : Nat :=
  match o.ending with
  | .ok none => 0
  | .ok (some _) => 1
  | .error .help => 0
  | .error .usage => 2

/-- The bytes of a list. -/
def byteArray (bytes : List UInt8) : ByteArray :=
  ⟨bytes.toArray⟩

/-- Publish a job, to a file or to the standard output. -/
def Job.publish (job : Job) (output : Option String) (d : Disk) (working : List String) : Outcome :=
  let delivery := job.run.delivery
  let ending := delivery.failure.map Failure.feed
  match output with
  | none => ⟨.ok ending, delivery.bytes, d⟩
  | some path =>
      match d.write? working path (byteArray delivery.bytes) with
      | some written => ⟨.ok ending, [], written⟩
      | none => ⟨.ok (some (.createOutput path)), [], d⟩

/-- Run the program in a working directory, at a place with its zone. -/
def Disk.run (d : Disk) (home : String) (arguments : List String) (working : List String := [])
    (zoneAt : Calendar.ZoneRule := Calendar.ZoneRule.utc) : Outcome :=
  match Invocation.ofArguments arguments with
  | .error refusal => ⟨.error refusal, [], d⟩
  | .ok i =>
      match i.prepare home (d.read · working) zoneAt with
      | .error failure => ⟨.ok (some failure), [], d⟩
      | .ok job => job.publish i.output d working

end GeoFeed.Command
