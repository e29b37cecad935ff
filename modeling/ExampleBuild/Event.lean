import ExampleBuild.Command
import ExampleBuild.Entry
import ExampleBuild.Outcome
import ExampleBuild.Text.Quoted

namespace ExampleBuild

/-! The events that a run tells its log about. -/

inductive Level
  | error
  | warning
  | information
  | debugging
  | tracing
  deriving DecidableEq

namespace Level

def name : Level → String
  | .error => "ERROR"
  | .warning => "WARN"
  | .information => "INFO"
  | .debugging => "DEBUG"
  | .tracing => "TRACE"

/-- How much is told at a level: at a higher number, more events are worth telling. -/
def verbosity : Level → Nat
  | .error => 1
  | .warning => 2
  | .information => 3
  | .debugging => 4
  | .tracing => 5

end Level

inductive Event
  | resolvedConfig (config : Config)
  | ignoringUnreadableName (name : ByteText)
  | classified (entry : Entry)
  | discovered (directory : Path) (plan : Plan)
  | skippingExcluded (name : String) (platform : Platform)
  | buildingExample (name : String)
  | buildingProject (name : String)
  | buildFailed (name : String) (fault : Fault)
  | spawning (program : String) (arguments : List String) (directory : Path)
  | artifactRemoved (path : Path)
  | noArtifact (path : Path)
  | artifactKept (path : Path) (cause : SystemError)

namespace Event

def level : Event → Level
  | .resolvedConfig _ => .debugging
  | .ignoringUnreadableName _ => .debugging
  | .classified _ => .debugging
  | .discovered _ _ => .information
  | .skippingExcluded _ _ => .debugging
  | .buildingExample _ => .information
  | .buildingProject _ => .information
  | .buildFailed _ _ => .information
  | .spawning _ _ _ => .debugging
  | .artifactRemoved _ => .debugging
  | .noArtifact _ => .debugging
  | .artifactKept _ _ => .warning

def target : Event → String
  | .resolvedConfig _ => "build_examples"
  | .ignoringUnreadableName _ | .classified _ => "cxb_lib::entry"
  | .discovered _ _ | .skippingExcluded _ _ | .buildingExample _ | .buildingProject _
  | .buildFailed _ _ => "cxb_lib::driver"
  | .spawning _ _ _ | .artifactRemoved _ | .noArtifact _ | .artifactKept _ _ =>
      "cxb_lib::execute"

def message : Event → String
  | .resolvedConfig _ => "resolved configuration"
  | .ignoringUnreadableName _ => "ignoring non UTF-8 entry"
  | .classified _ => "classified entry"
  | .discovered _ _ => "discovered examples"
  | .skippingExcluded _ _ => "skipping excluded entry"
  | .buildingExample _ => "building example"
  | .buildingProject _ => "building project"
  | .buildFailed _ _ => "build failed"
  | .spawning _ _ _ => "spawning process"
  | .artifactRemoved _ => "removed build artifact"
  | .noArtifact _ => "no build artifact to remove"
  | .artifactKept _ _ => "failed to remove build artifact"

def fields : Event → List (String × String)
  | .resolvedConfig config =>
      [("compiler", config.compiler), ("dir", config.directory.shown),
       ("os", config.platform.name), ("extra_args", Quoted.list config.extraArguments)]
  | .ignoringUnreadableName name => [("name", Quoted.byteText name)]
  | .classified entry => [("entry", entry.shown)]
  | .discovered directory plan =>
      [("dir", directory.shown), ("entries", toString plan.entries.length),
       ("buildable", toString plan.buildCount)]
  | .skippingExcluded name platform => [("name", name), ("os", platform.name)]
  | .buildingExample name => [("name", name)]
  | .buildingProject name => [("name", name)]
  | .buildFailed name fault => [("name", name), ("reason", fault.shown)]
  | .spawning program arguments directory =>
      [("program", program), ("args", Quoted.list arguments), ("cwd", directory.shown)]
  | .artifactRemoved path => [("path", path.shown)]
  | .noArtifact path => [("path", path.shown)]
  | .artifactKept path cause => [("path", path.shown), ("error", cause.message)]

def hasField (event : Event) (name : String) : Bool :=
  name = "message" || event.fields.any fun field => field.1 = name

end Event

end ExampleBuild
