import ExampleBuild.Arguments.Option

namespace ExampleBuild

/-! How arguments are read where options stand. Two hyphens begin a name, which may bring a
value behind an equals sign, and one hyphen begins a cluster of letters. Whatever has a name
that is not known, or a letter that is not, is an operand. -/

inductive Token
  | escape
  | long (name : ByteText) (value? : Option ByteText)
  | cluster (letters : ByteText)
  | operand
  deriving DecidableEq

open OwnOption (hyphen equalsSign)

namespace Token

def nameAndValue (text : ByteText) : ByteText × Option ByteText :=
  match text.dropWhile (· ≠ equalsSign) with
  | [] => (text, none)
  | _ :: value => (text.takeWhile (· ≠ equalsSign), some value)

def ofArgument : ByteText → Token
  | first :: second :: rest =>
      if first ≠ hyphen then .operand
      else if second ≠ hyphen then .cluster (second :: rest)
      else if rest = [] then .escape
      else .long (nameAndValue rest).1 (nameAndValue rest).2
  | _ => .operand

end Token

/-- What a token comes to. The letters of a cluster are flags up to the first setting, which
has the letters after it for its value. -/
inductive Occurrence
  | escape
  | options (flags : List Flag) (setting? : Option (Setting × Option ByteText))
  | assignedFlag (flag : Flag) (value : ByteText)
  | unknown (name : ByteText)
  | operand
  deriving DecidableEq

namespace Occurrence

/-- A name that cannot be read is no operand, but none of the options either. -/
def ofName (name : ByteText) (value? : Option ByteText) : Occurrence :=
  match OwnOption.ofName? name, value? with
  | some (.flag flag), none => .options [flag] none
  | some (.flag flag), some value => .assignedFlag flag value
  | some (.setting setting), value? => .options [] (some (setting, value?))
  | none, _ => if name.decode? = none then .unknown (hyphen :: hyphen :: name) else .operand

def ofLetters? : ByteText → Option (List Flag × Option (Setting × Option ByteText))
  | [] => some ([], none)
  | letter :: letters =>
      match OwnOption.ofLetter? letter, ofLetters? letters with
      | some (.flag flag), some (flags, setting?) => some (flag :: flags, setting?)
      | some (.setting setting), some _ =>
          some ([], some (setting, if letters = [] then none else some letters))
      | _, _ => none

def ofToken : Token → Occurrence
  | .escape => .escape
  | .long name value? => ofName name value?
  | .cluster letters =>
      match ofLetters? letters with
      | some (flags, setting?) => .options flags setting?
      | none => .operand
  | .operand => .operand

def ofArgument (argument : ByteText) : Occurrence := ofToken (Token.ofArgument argument)

end Occurrence

end ExampleBuild
