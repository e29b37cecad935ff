import ExampleBuild.Environment
import ExampleBuild.Outcome

namespace ExampleBuild

/-! A shell that knows a few commands, enough for scripts that end in some way: `exit`,
`kill`, `test`, `true`, `false` and `:`, joined by line ends, semicolons and `&&`. -/

namespace Rehearsal

namespace Shell

structure Process where
  environment : Environment
  name : ByteText
  arguments : List ByteText

inductive Token
  | word (text : ByteText)
  | nextCommand
  | onSuccess

/-! ## Words -/

inductive Quote
  | none
  | single
  | double
  deriving DecidableEq

/-- The tokens so far, the last one first, and the word that is being read. -/
structure Scan where
  tokens : List Token
  word : Option ByteText
  quote : Quote
  reference : Option ByteText
  comment : Bool

namespace Scan

def start : Scan := ⟨[], none, .none, none, false⟩

def extend (scan : Scan) (text : ByteText) : Scan :=
  { scan with word := some (scan.word.getD [] ++ text) }

def endWord (scan : Scan) : Scan :=
  match scan.word with
  | none => scan
  | some text => { scan with tokens := .word text :: scan.tokens, word := none }

def emit (scan : Scan) (token : Token) : Scan :=
  let ended := scan.endWord
  { ended with tokens := token :: ended.tokens }

end Scan

def decimalBytes (value : Nat) : ByteText := utf8 (toString value)

/-- The value of a variable, of which `0` and `#` are the name of the process and the
number of its arguments. -/
def valueOf (process : Process) (reference : ByteText) : ByteText :=
  if reference = utf8 "0" then process.name
  else if reference = utf8 "#" then decimalBytes process.arguments.length
  else if reference = utf8 "$" then utf8 "self"
  else (process.environment.get? reference).getD []

def isNameByte (byte : UInt8) : Bool :=
  (48 ≤ byte && byte ≤ 57) || (65 ≤ byte && byte ≤ 90) || (97 ≤ byte && byte ≤ 122)
    || byte = 95

def isSpecialVariable (byte : UInt8) : Bool := byte = 35 || byte = 36 || byte = 48

def readByte (scan : Scan) (byte : UInt8) : Scan :=
  if scan.comment then
    if byte = 10 then { scan with comment := false }.emit .nextCommand else scan
  else
    match scan.quote with
    | .single => if byte = 39 then { scan with quote := .none } else scan.extend [byte]
    | .double =>
        if byte = 34 then { scan with quote := .none }
        else if byte = 36 then { scan with reference := some [] }
        else scan.extend [byte]
    | .none =>
        if byte = 39 then { scan.extend [] with quote := .single }
        else if byte = 34 then { scan.extend [] with quote := .double }
        else if byte = 36 then { scan with reference := some [] }
        else if byte = 10 || byte = 59 then scan.emit .nextCommand
        else if byte = 32 || byte = 9 then scan.endWord
        else if byte = 38 then scan.emit .onSuccess
        else if byte = 35 && scan.word.isNone then { scan with comment := true }
        else scan.extend [byte]

def readReference (process : Process) (scan : Scan) (reference : ByteText) (byte : UInt8) :
    Scan :=
  let ended := { scan with reference := none }
  if reference = [] && isSpecialVariable byte then ended.extend (valueOf process [byte])
  else if isNameByte byte then { scan with reference := some (reference ++ [byte]) }
  else if reference = [] then readByte (ended.extend [36]) byte
  else readByte (ended.extend (valueOf process reference)) byte

def scanByte (process : Process) (scan : Scan) (byte : UInt8) : Scan :=
  match scan.reference with
  | some reference => readReference process scan reference byte
  | none => readByte scan byte

def tokens (process : Process) (script : ByteText) : List Token :=
  ((script ++ [10]).foldl (scanByte process) .start).tokens.reverse

/-! ## Commands -/

/-- What a command comes to: a status, with which the script goes on, or its end. -/
inductive Effect
  | status (code : Nat)
  | ended (ending : Ending)

def digitsValue (digits : ByteText) : Nat :=
  digits.foldl (fun value digit => 10 * value + (digit.toNat - 48)) 0

def number? (text : ByteText) : Option Nat :=
  if text ≠ [] && text.all fun byte => 48 ≤ byte && byte ≤ 57 then some (digitsValue text)
  else none

def exitWith (code : Nat) : Ending := .exited (code % 256)

def statusOf (holds : Bool) : Effect := .status (if holds then 0 else 1)

def testWords : List ByteText → Effect
  | [] => .status 1
  | [word] => statusOf (word ≠ [])
  | [operator, word] =>
      if operator = utf8 "-z" then statusOf (word = [])
      else if operator = utf8 "-n" then statusOf (word ≠ [])
      else .status 2
  | [left, operator, right] =>
      if operator = utf8 "=" then statusOf (left = right)
      else if operator = utf8 "!=" then statusOf (left ≠ right)
      else .status 2
  | _ => .status 2

def exitWords (lastStatus : Nat) : List ByteText → Effect
  | [] => .ended (exitWith lastStatus)
  | word :: _ => .ended (exitWith ((number? word).getD 2))

def killWords : List ByteText → Effect
  | [signal, _] => if signal = utf8 "-0" then .status 0 else .ended .killed
  | _ => .status 2

def unknownCommand : Nat := 127

def perform (lastStatus : Nat) : List ByteText → Effect
  | [] => .status lastStatus
  | command :: words =>
      if command = utf8 "exit" then exitWords lastStatus words
      else if command = utf8 "kill" then killWords words
      else if command = utf8 "test" then testWords words
      else if command = utf8 "true" || command = utf8 ":" then .status 0
      else if command = utf8 "false" then .status 1
      else .status unknownCommand

/-! ## Scripts -/

/-- Run tokens with the words of the command being read, the last one first. A command
that stands after a failed one and `&&` is left out. -/
def runTokens (status : Nat) (skipping : Bool) (words : List ByteText) : List Token → Ending
  | [] => exitWith status
  | .word text :: rest => runTokens status skipping (text :: words) rest
  | .nextCommand :: rest =>
      if skipping then runTokens status false [] rest
      else
        match perform status words.reverse with
        | .ended ending => ending
        | .status code => runTokens code false [] rest
  | .onSuccess :: rest =>
      if skipping || words = [] then runTokens status skipping [] rest
      else
        match perform status words.reverse with
        | .ended ending => ending
        | .status code => runTokens code (code ≠ 0) [] rest

def run (process : Process) (script : ByteText) : Ending :=
  runTokens 0 false [] (tokens process script)

end Shell

end Rehearsal

end ExampleBuild
