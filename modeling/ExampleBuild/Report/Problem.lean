import ExampleBuild.RunError
import ExampleBuild.Text.Parts

namespace ExampleBuild

/-! A problem is what ends a run that comes to no outcome: what could not be done, and
the causes of that, each the cause of the one before it. -/

structure Problem where
  message : String
  causes : List String
  deriving DecidableEq

namespace Problem

def ofRunError (error : RunError) : Problem := ⟨error.message, [error.cause]⟩

def within (activity : String) (problem : Problem) : Problem :=
  ⟨activity, problem.message :: problem.causes⟩

def rightAligned (width : Nat) (number : Nat) : String :=
  let digits := toString number
  String.ofList (List.replicate (width - digits.length) ' ') ++ digits

def numberedLines (number : Nat) : List String → List String
  | [] => []
  | cause :: causes =>
      (rightAligned 5 number ++ ": " ++ Parts.hanging "       " cause)
        :: numberedLines (number + 1) causes

def causeLines : List String → List String
  | [cause] => ["    " ++ Parts.hanging "    " cause]
  | causes => numberedLines 0 causes

def lines (problem : Problem) : List String :=
  let first := "Error: " ++ problem.message
  match problem.causes with
  | [] => [first]
  | causes => first :: "" :: "Caused by:" :: causeLines causes

end Problem

end ExampleBuild
