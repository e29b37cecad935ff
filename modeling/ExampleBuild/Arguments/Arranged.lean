import ExampleBuild.Arguments.Kind

namespace ExampleBuild

/-! Options may stand anywhere among the arguments that are forwarded to the builds.
To be read, they are moved to the front, and a separator shows where they end. -/

structure Division where
  own : List ByteText
  forwarded : List ByteText
  deriving DecidableEq

namespace Division

def withOwn (division : Division) (arguments : List ByteText) : Division :=
  { division with own := arguments ++ division.own }

def withForwarded (division : Division) (argument : ByteText) : Division :=
  { division with forwarded := argument :: division.forwarded }

/-- Tell a list of arguments apart. A setting takes the next argument with it, whatever
that is, and everything after the separator is forwarded. -/
def ofArguments : List ByteText → Division
  | [] => ⟨[], []⟩
  | argument :: rest =>
      match ArgumentKind.ofArgument argument with
      | .separator => ⟨[], rest⟩
      | .flag _ | .assigned _ _ => (ofArguments rest).withOwn [argument]
      | .setting _ =>
          match rest with
          | [] => ⟨[argument], []⟩
          | value :: others => (ofArguments others).withOwn [argument, value]
      | .forwarded => (ofArguments rest).withForwarded argument

def arranged (division : Division) : List ByteText :=
  division.own ++ ArgumentKind.separatorText :: division.forwarded

end Division

def arranged (arguments : List ByteText) : List ByteText :=
  (Division.ofArguments arguments).arranged

/-- A whole command line with the options in front, right after the program. -/
def arrangedCommandLine : List ByteText → List ByteText
  | [] => [ArgumentKind.separatorText]
  | program :: arguments => program :: arranged arguments

end ExampleBuild
