import ExampleBuild.Arguments.Arranged
import ExampleBuild.Arguments.Error
import ExampleBuild.Arguments.Token
import ExampleBuild.Config

namespace ExampleBuild

/-! The options that a run is started with, read from arranged arguments. -/

inductive OutputFormat
  | text
  | json
  deriving DecidableEq

namespace OutputFormat

def ofName? (name : ByteText) : Option OutputFormat :=
  if name = utf8 "text" then some .text
  else if name = utf8 "json" then some .json
  else none

end OutputFormat

structure Options where
  compiler : String
  directory : Option Path
  dryRun : Bool
  output : OutputFormat
  verbose : Bool
  forwarded : List String
  deriving DecidableEq

/-! ## Reading the options in front -/

structure Choices where
  compiler : Option String
  directory : Option Path
  output : Option OutputFormat
  dryRun : Bool
  verbose : Bool
  deriving DecidableEq

namespace Choices

def unset : Choices := ⟨none, none, none, false, false⟩

def raise (choices : Choices) : Flag → Except ArgumentError Choices
  | .help => .error .helpWanted
  | .version => .error .versionWanted
  | .dryRun =>
      if choices.dryRun then .error (.repeated (.flag .dryRun))
      else .ok { choices with dryRun := true }
  | .verbose =>
      if choices.verbose then .error (.repeated (.flag .verbose))
      else .ok { choices with verbose := true }

/-- Give a setting its value. A second use is an error whatever the value is. -/
def assign (choices : Choices) (setting : Setting) (value : ByteText) :
    Except ArgumentError Choices :=
  match setting with
  | .compiler =>
      if choices.compiler.isSome then .error (.repeated (.setting .compiler))
      else
        match value.decode? with
        | some compiler => .ok { choices with compiler := some compiler }
        | none => .error .illFormedText
  | .directory =>
      if choices.directory.isSome then .error (.repeated (.setting .directory))
      else if value = [] then .error (.missingValue .directory)
      else .ok { choices with directory := some value }
  | .output =>
      if choices.output.isSome then .error (.repeated (.setting .output))
      else if value = [] then .error (.missingValue .output)
      else
        match OutputFormat.ofName? value with
        | some format => .ok { choices with output := some format }
        | none => .error (.unknownFormat value)

/-- The value of a setting in the argument after it. Only an operand can be its value. -/
def valueOf (setting : Setting) (argument : ByteText) : Except ArgumentError ByteText :=
  match Occurrence.ofArgument argument with
  | .operand => .ok argument
  | .escape | .options _ _ => .error (.missingValue setting)
  | .assignedFlag flag value => .error (.unexpectedValue flag value)
  | .unknown name => .error (.unknownOption name)

def raiseAll (choices : Choices) : List Flag → Except ArgumentError Choices
  | [] => .ok choices
  | flag :: flags =>
      match choices.raise flag with
      | .error error => .error error
      | .ok choices => raiseAll choices flags

/-- Take the options of one argument. What comes with the choices is the setting that still
waits for its value. -/
def enter (choices : Choices) (flags : List Flag)
    (setting? : Option (Setting × Option ByteText)) :
    Except ArgumentError (Choices × Option Setting) :=
  match choices.raiseAll flags with
  | .error error => .error error
  | .ok choices =>
      match setting? with
      | none => .ok (choices, none)
      | some (setting, none) => .ok (choices, some setting)
      | some (setting, some value) =>
          match choices.assign setting value with
          | .error error => .error error
          | .ok choices => .ok (choices, none)

/-- Read options up to the separator, or up to the first argument that is none. The
arguments after them are left over. -/
def read (choices : Choices) (waiting : Option Setting) :
    List ByteText → Except ArgumentError (Choices × List ByteText)
  | [] =>
      match waiting with
      | some setting => .error (.missingValue setting)
      | none => .ok (choices, [])
  | argument :: rest =>
      match waiting with
      | some setting =>
          match valueOf setting argument with
          | .error error => .error error
          | .ok value =>
              match choices.assign setting value with
              | .error error => .error error
              | .ok choices => read choices none rest
      | none =>
          match Occurrence.ofArgument argument with
          | .escape => .ok (choices, rest)
          | .operand => .ok (choices, argument :: rest)
          | .assignedFlag flag value => .error (.unexpectedValue flag value)
          | .unknown name => .error (.unknownOption name)
          | .options flags setting? =>
              match choices.enter flags setting? with
              | .error error => .error error
              | .ok (choices, waiting) => read choices waiting rest

end Choices

/-! ## Completing them -/

def decodeAll? : List ByteText → Option (List String)
  | [] => some []
  | bytes :: rest =>
      match bytes.decode?, decodeAll? rest with
      | some text, some texts => some (text :: texts)
      | _, _ => none

namespace Options

def chosenCompiler (chosen : Option String) (fromEnvironment : Option ByteText) :
    Except ArgumentError String :=
  match chosen, fromEnvironment with
  | some compiler, _ => .ok compiler
  | none, none => .ok Config.defaultCompiler
  | none, some value =>
      match value.decode? with
      | some compiler => .ok compiler
      | none => .error .illFormedText

def complete (choices : Choices) (forwarded : List ByteText)
    (fromEnvironment : Option ByteText) : Except ArgumentError Options :=
  match chosenCompiler choices.compiler fromEnvironment with
  | .error error => .error error
  | .ok compiler =>
      match decodeAll? forwarded with
      | none => .error .illFormedText
      | some forwarded => .ok {
          compiler
          directory := choices.directory
          dryRun := choices.dryRun
          output := choices.output.getD .text
          verbose := choices.verbose
          forwarded }

/-- Read arranged arguments. What the environment names as the compiler counts where
no argument does. -/
def ofArranged (arguments : List ByteText) (fromEnvironment : Option ByteText) :
    Except ArgumentError Options :=
  match Choices.unset.read none arguments with
  | .error error => .error error
  | .ok (choices, forwarded) => complete choices forwarded fromEnvironment

def ofArguments (arguments : List ByteText) (fromEnvironment : Option ByteText) :
    Except ArgumentError Options :=
  ofArranged (arranged arguments) fromEnvironment

end Options

end ExampleBuild
