import ExampleBuild.Text.ByteText

namespace ExampleBuild

/-! The options of the program. A flag stands alone and a setting takes a value. Each
has a name, and some have a letter too. -/

inductive Flag
  | dryRun
  | verbose
  | help
  | version
  deriving DecidableEq

inductive Setting
  | compiler
  | directory
  | output
  deriving DecidableEq

inductive OwnOption
  | flag (flag : Flag)
  | setting (setting : Setting)
  deriving DecidableEq

namespace Flag

def longName : Flag → String
  | .dryRun => "dry-run"
  | .verbose => "verbose"
  | .help => "help"
  | .version => "version"

def letter? : Flag → Option Char
  | .dryRun => none
  | .verbose => some 'v'
  | .help => some 'h'
  | .version => some 'V'

end Flag

namespace Setting

def longName : Setting → String
  | .compiler => "cx"
  | .directory => "dir"
  | .output => "output"

def letter? : Setting → Option Char
  | .compiler => none
  | .directory => some 'C'
  | .output => some 'o'

def placeholder : Setting → String
  | .compiler => "CX"
  | .directory => "DIR"
  | .output => "OUTPUT"

end Setting

namespace OwnOption

def hyphen : UInt8 := 45

def equalsSign : UInt8 := 61

def all : List OwnOption :=
  [.setting .compiler, .setting .directory, .setting .output,
   .flag .dryRun, .flag .verbose, .flag .help, .flag .version]

def longName : OwnOption → String
  | .flag own => own.longName
  | .setting own => own.longName

def letter? : OwnOption → Option Char
  | .flag own => own.letter?
  | .setting own => own.letter?

def ofName? (name : ByteText) : Option OwnOption :=
  all.find? fun option => utf8 option.longName = name

def ofLetter? (letter : UInt8) : Option OwnOption :=
  all.find? fun option => option.letter? = some (Char.ofUInt8 letter)

def usage : OwnOption → String
  | .flag own => "--" ++ own.longName
  | .setting own => "--" ++ own.longName ++ " <" ++ own.placeholder ++ ">"

end OwnOption

end ExampleBuild
