import ExampleBuild.Log.Directive
import ExampleBuild.Text.Parts

namespace ExampleBuild

/-! Filters are lists of directives, and decide which events a log shows. -/

namespace Log

abbrev Filter := List Directive

namespace Filter

def errorsOnly : Filter := [.everythingUpTo (some .error)]

def debugging : Filter := [.everythingUpTo (some .debugging)]

def closest? (filter : Filter) (event : Event) : Option Directive :=
  (filter.filter (Directive.covers · event)).foldl
    (fun best directive =>
      match best with
      | none => some directive
      | some earlier => if earlier.yieldsTo directive then some directive else some earlier)
    none

def shows (filter : Filter) (event : Event) : Bool :=
  match filter.closest? event with
  | none => false
  | some directive => directive.shows event.level

/-! ## Reading filters

A filter is written as directives with commas between them. -/

def directiveTexts (text : String) : List String :=
  (Parts.between ',' text).filter fun part => part ≠ ""

/-- The filter that a text describes. What is no directive is left out, and where no
directive is left, only errors are shown. -/
def ofText (text : String) : Filter :=
  match (directiveTexts text).filterMap fun part => (Directive.ofText part).toOption with
  | [] => errorsOnly
  | directives => directives

def complaints (text : String) : List String :=
  (directiveTexts text).filterMap fun part =>
    match Directive.ofText part with
    | .ok _ => none
    | .error error => some ("ignoring `" ++ part ++ "`: " ++ error.message)

end Filter

end Log

end ExampleBuild
