namespace ExampleBuild

/-! The platforms that builds are planned for. -/

inductive Platform
  | linux
  | macOS
  | windows
  | other
  deriving DecidableEq

namespace Platform

def ofName (name : String) : Platform :=
  if name = "linux" then .linux
  else if name = "macos" then .macOS
  else if name = "windows" then .windows
  else .other

def name : Platform → String
  | .linux => "linux"
  | .macOS => "darwin"
  | .windows => "windows"
  | .other => "other"

def isWindowsFamily : Platform → Bool
  | .windows => true
  | _ => false

def executableSuffix (platform : Platform) : String :=
  if platform.isWindowsFamily then ".exe" else ""

end Platform

end ExampleBuild
