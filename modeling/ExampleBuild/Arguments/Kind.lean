import ExampleBuild.Arguments.Option

namespace ExampleBuild

/-! What an argument is, seen on its own and before any option is read. Only a setting
changes what the argument after it is. -/

inductive ArgumentKind
  | separator
  | flag (flag : Flag)
  | setting (setting : Setting)
  | assigned (setting : Setting) (value : ByteText)
  | forwarded
  deriving DecidableEq

namespace ArgumentKind

def separatorText : ByteText := utf8 "--"

def flagSpellings : List (ByteText × Flag) :=
  [(utf8 "--dry-run", .dryRun), (utf8 "-v", .verbose), (utf8 "--verbose", .verbose),
   (utf8 "-h", .help), (utf8 "--help", .help), (utf8 "-V", .version),
   (utf8 "--version", .version)]

def settingSpellings : List (ByteText × Setting) :=
  [(utf8 "--cx", .compiler), (utf8 "-C", .directory), (utf8 "--dir", .directory),
   (utf8 "-o", .output), (utf8 "--output", .output)]

/-- The value in an argument that gives it together with a spelling of two hyphens, as in
`--dir=value`. -/
def assignedValue? (argument spelling : ByteText) : Option ByteText :=
  let beginning := spelling ++ [OwnOption.equalsSign]
  if separatorText.isPrefixOf spelling && beginning.isPrefixOf argument then
    some (argument.drop beginning.length)
  else none

/-- The setting and the value that an argument gives together, if it does. Only
well-formed text is read like this. -/
def assignment? (argument : ByteText) : Option (Setting × ByteText) :=
  if argument.decode? = none then none
  else settingSpellings.findSome? fun entry =>
    (assignedValue? argument entry.1).map fun value => (entry.2, value)

def ofArgument (argument : ByteText) : ArgumentKind :=
  if argument = separatorText then .separator
  else
    match flagSpellings.lookup argument with
    | some own => .flag own
    | none =>
        match settingSpellings.lookup argument with
        | some own => .setting own
        | none =>
            match assignment? argument with
            | some (own, value) => .assigned own value
            | none => .forwarded

end ArgumentKind

end ExampleBuild
