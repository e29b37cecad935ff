import ExampleBuild.SystemError

namespace ExampleBuild

/-! How processes end, how builds fail, and what a run comes to. -/

inductive Ending
  | exited (code : Int)
  | killed
  | notStarted (cause : SystemError)
  deriving DecidableEq

/-- Why a build failed. A process killed by a signal leaves no exit code. -/
inductive Fault
  | exited (code : Option Int)
  | notLaunched (program message : String)
  deriving DecidableEq

namespace Fault

def shown : Fault → String
  | .exited (some code) => "exited with status " ++ toString code
  | .exited none => "terminated by signal"
  | .notLaunched program message => "failed to launch " ++ program ++ ": " ++ message

def isLaunchFailure : Fault → Bool
  | .notLaunched _ _ => true
  | .exited _ => false

end Fault

def Ending.fault? (program : String) : Ending → Option Fault
  | .exited code => if code = 0 then none else some (.exited (some code))
  | .killed => some (.exited none)
  | .notStarted cause => some (.notLaunched program cause.message)

/-! ## Outcomes -/

structure Summary where
  built : List String
  skipped : List String
  ignored : List String
  deriving DecidableEq

structure Failure where
  entry : String
  fault : Fault
  builtBefore : List String
  deriving DecidableEq

inductive Outcome
  | succeeded (summary : Summary)
  | failed (failure : Failure)
  deriving DecidableEq

namespace Outcome

def nothing : Outcome := .succeeded ⟨[], [], []⟩

def isSuccess : Outcome → Bool
  | .succeeded _ => true
  | .failed _ => false

def exitCode (outcome : Outcome) : Nat := if outcome.isSuccess then 0 else 1

/-! The outcome of a run that first does one entry and then the rest. -/

def afterBuilding (name : String) : Outcome → Outcome
  | .succeeded summary => .succeeded { summary with built := name :: summary.built }
  | .failed failure => .failed { failure with builtBefore := name :: failure.builtBefore }

def afterSkipping (name : String) : Outcome → Outcome
  | .succeeded summary => .succeeded { summary with skipped := name :: summary.skipped }
  | .failed failure => .failed failure

def afterIgnoring (name : String) : Outcome → Outcome
  | .succeeded summary => .succeeded { summary with ignored := name :: summary.ignored }
  | .failed failure => .failed failure

section

variable {name : String} {summary : Summary} {failure : Failure}

@[simp] theorem afterBuilding_succeeded : afterBuilding name (.succeeded summary) =
    .succeeded { summary with built := name :: summary.built } := rfl

@[simp] theorem afterBuilding_failed : afterBuilding name (.failed failure) =
    .failed { failure with builtBefore := name :: failure.builtBefore } := rfl

@[simp] theorem afterSkipping_succeeded : afterSkipping name (.succeeded summary) =
    .succeeded { summary with skipped := name :: summary.skipped } := rfl

@[simp] theorem afterSkipping_failed :
    afterSkipping name (.failed failure) = .failed failure := rfl

@[simp] theorem afterIgnoring_succeeded : afterIgnoring name (.succeeded summary) =
    .succeeded { summary with ignored := name :: summary.ignored } := rfl

@[simp] theorem afterIgnoring_failed :
    afterIgnoring name (.failed failure) = .failed failure := rfl

end

end Outcome

end ExampleBuild
