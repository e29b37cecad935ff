import ExampleBuild.Environment
import ExampleBuild.Text.Numeral

namespace ExampleBuild

/-! Whether a report is coloured. A report does not know whether people read it on a
terminal, so the environment has to ask for colours: either by force, or by saying that
the output may be taken for a terminal's and of what kind that is. -/

namespace Colours

/-- The value of a name, if it is set to anything but the value that switches it off. -/
def isOn (environment : Environment) (name off : String) : Bool :=
  match environment.text? name with
  | none => false
  | some value => value ≠ off

def hasValue (environment : Environment) (name : String) (values : List String) : Bool :=
  match environment.text? name with
  | none => false
  | some value => values.contains value

/-- Colours are forced by a level, of which only zero forces nothing. -/
def isForced (environment : Environment) : Bool :=
  match environment.text? "FORCE_COLOR" with
  | some level => level ≠ "false" && Numeral.value? level ≠ some 0
  | none => isOn environment "CLICOLOR_FORCE" "0"

/-- Colours are out of place where they are not wanted, and also where nothing says that
the output may be taken for a terminal's. -/
def isUnfit (environment : Environment) : Bool :=
  isOn environment "NO_COLOR" "0" || hasValue environment "TERM" ["dumb"]
    || !isOn environment "IGNORE_IS_TERMINAL" "0"

def serviceVariables : List String :=
  ["CI_NAME", "GITHUB_ACTION", "GITLAB_CI", "NETLIFY", "TRAVIS", "CODEBUILD_SRC_DIR",
   "BUILDER_OUTPUT", "GITLAB_DEPLOYMENT", "NOW_GITHUB_DEPLOYMENT", "NOW_BUILDER",
   "BITBUCKET_DEPLOYMENT", "GERRIT_PROJECT", "SYSTEM_TEAMFOUNDATIONCOLLECTIONURI",
   "BITRISE_IO", "BUDDY_WORKSPACE_ID", "BUILDKITE", "CIRRUS_CI", "APPVEYOR", "CIRCLECI",
   "SEMAPHORE", "DRONE", "DSARI", "TDDIUM", "STRIDER", "TASKCLUSTER_ROOT_URL",
   "JENKINS_URL", "bamboo.buildKey", "GO_PIPELINE_NAME", "HUDSON_URL", "WERCKER",
   "MAGNUM", "NEVERCODE", "RENDER", "SAIL_CI", "SHIPPABLE"]

def runsOnService (environment : Environment) : Bool :=
  hasValue environment "CI" ["true", "1", "woodpecker"]
    || serviceVariables.any fun name => (environment.text? name).isSome
    || endsIn "//heroku/node/bin/node" "NODE"
where
  endsIn (ending name : String) : Bool :=
    match environment.text? name with
    | none => false
    | some value => ending.toList.isSuffixOf value.toList

/-- A terminal shows colours if anything tells of its kind, or if a service reads them. -/
def isCapable (environment : Environment) : Bool :=
  (environment.text? "COLORTERM").isSome || (environment.text? "TERM").isSome
    || hasValue environment "TERM_PROGRAM" ["iTerm.app", "Apple_Terminal"]
    || isOn environment "CLICOLOR" "0" || runsOnService environment

def areWanted (environment : Environment) : Bool :=
  isForced environment || !isUnfit environment && isCapable environment

end Colours

end ExampleBuild
