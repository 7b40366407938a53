/-
# GeoFeed.Command.Job -- from an invocation to a feed

The settings are loaded first, then the inputs are read in the order in which
they are named; the first of these steps that fails ends the program.  Only when
all of them have succeeded is there a job, and only a job has anything to
write.
-/
import GeoFeed.Command.Arguments
import GeoFeed.Feature.Decoding
import GeoFeed.Settings

namespace GeoFeed.Command

set_option autoImplicit false

/-- Why the program ends without a complete feed. -/
inductive Failure where
  | settings (path : String)
  | openInput (path : String)
  | parseInput (path : String)
  | createOutput (path : String)
  | feed (cause : FeedError)
deriving Repr, DecidableEq

def Failure.message : Failure → String
  | settings path => "Failed to load config from '" ++ path ++ "'"
  | openInput path => "Failed to open input '" ++ path ++ "'"
  | parseInput path => "Failed to parse features in '" ++ path ++ "'"
  | createOutput path => "Failed to create output '" ++ path ++ "'"
  | feed cause => cause.serviceMessage

/-- A feed that is ready to be published. -/
structure Job where
  publisher : Publisher
  request : Request
  collections : List (List Feature)

/-- The settings file of a user's home directory. -/
def standardConfig (home : String) : String :=
  let directory := if home.isEmpty || home.endsWith "/" then home else home ++ "/"
  directory ++ ".config/georss/config.toml"

/-- The features that an input holds. -/
def readInput (read : String → FileContent) (path : String) : Except Failure (List Feature) :=
  match read path with
  | .missing => .error (.openInput path)
  | .closed => .error (.openInput path)
  | .unreadable => .error (.parseInput path)
  | .bytes content =>
      match Feature.listOfBytes? content with
      | some features => .ok features
      | none => .error (.parseInput path)

/-- The publisher that settings describe, at a base URL. -/
def publisherOf (settings : Settings) (baseUrl : String) (zoneAt : Calendar.ZoneRule) :
    Publisher where
  templates := .ofAttributes settings.templates baseUrl zoneAt
  catalog := .ofTable settings.catalog
  systemName := settings.systemName
  standard := settings.scheme

namespace Invocation

/-- The settings file of an invocation. -/
def settingsPath (i : Invocation) (home : String) : String :=
  i.config.getD (standardConfig home)

/-- The job of an invocation, where `read` gives the content of files and `zoneAt` is the zone
of the place. -/
def prepare (i : Invocation) (home : String) (read : String → FileContent)
    (zoneAt : Calendar.ZoneRule := Calendar.ZoneRule.utc) : Except Failure Job := do
  let path := i.settingsPath home
  let settings ← match (Settings.load (read path)).value with
    | .ok settings => pure settings
    | .error _ => throw (.settings path)
  let collections ← i.inputs.mapM (readInput read)
  pure ⟨publisherOf settings i.request.baseUrl zoneAt, i.request, collections⟩

end Invocation

/-- Deliver the document of a job to an output that takes everything. -/
def Job.run (job : Job) : FeedRun :=
  job.publisher.deliverDocument {} none .standard job.request job.collections

end GeoFeed.Command
