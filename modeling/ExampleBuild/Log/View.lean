import ExampleBuild.Log.Filter
import ExampleBuild.Text.Terminal

namespace ExampleBuild

/-! What is seen of a log: the events that a filter shows, each as a line. -/

namespace Log

structure View where
  filter : Filter
  coloured : Bool

namespace View

def filterVariable : String := "RUST_LOG"

def askedFor (verbose : Bool) (environment : Environment) : Option String :=
  if verbose then none else some ((environment.text? filterVariable).getD "")

/-- The view of a run. Verbose runs show everything up to debugging, and otherwise the
environment may ask for a filter. -/
def ofRun (verbose : Bool) (environment : Environment) : View where
  filter :=
    match askedFor verbose environment with
    | none => .debugging
    | some text => .ofText text
  coloured :=
    match environment.text? "NO_COLOR" with
    | none | some "" => true
    | some _ => false

def complaints (verbose : Bool) (environment : Environment) : List String :=
  match askedFor verbose environment with
  | none => []
  | some text => Filter.complaints text

/-! ## Lines -/

def inStyle (view : View) (number text : String) : String :=
  if view.coloured then Terminal.styled [number] text else text

def italic (view : View) (text : String) : String := view.inStyle "3" text

def dimmed (view : View) (text : String) : String := view.inStyle "2" text

def colourNumber : Level → String
  | .error => "31"
  | .warning => "33"
  | .information => "32"
  | .debugging => "34"
  | .tracing => "35"

def aligned (name : String) : String :=
  String.ofList (List.replicate (5 - name.length) ' ') ++ name

def fieldText (view : View) (field : String × String) : String :=
  " " ++ view.italic field.1 ++ view.dimmed "=" ++ field.2

def line (view : View) (event : Event) : String :=
  view.inStyle (colourNumber event.level) (aligned event.level.name) ++ " "
    ++ view.dimmed event.target ++ view.dimmed ":" ++ " " ++ event.message
    ++ String.join (event.fields.map view.fieldText)

def line? (view : View) (event : Event) : Option String :=
  if view.filter.shows event then some (view.line event) else none

end View

end Log

end ExampleBuild
