import ExampleBuild.Environment
import ExampleBuild.Text.Terminal

namespace ExampleBuild

/-! What the program says about its arguments is written with emphasis for a terminal.
The environment decides whether the emphasis is shown, and without it no other code is
shown either, not even one within an argument. -/

namespace Emphasis

def heading (text : String) : String := Terminal.styled ["1", "4"] text

/-- What is to be typed as it stands. -/
def literal (text : String) : String := Terminal.styled ["1"] text

def faulty (text : String) : String := Terminal.styled ["33"] text

def alarm (text : String) : String := Terminal.styled ["1", "31"] text

def isGiven (environment : Environment) (name : String) : Bool :=
  match environment.get? (utf8 name) with
  | none | some [] => false
  | some _ => true

/-- Emphasis has to be forced, since nothing is known of a terminal, and can be
forbidden. -/
def isWanted (environment : Environment) : Bool :=
  isGiven environment "CLICOLOR_FORCE" && !isGiven environment "NO_COLOR"

def shown (wanted : Bool) (text : String) : String :=
  if wanted then text else Terminal.plain text

end Emphasis

end ExampleBuild
