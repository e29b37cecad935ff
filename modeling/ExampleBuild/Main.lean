import ExampleBuild.Program
import ExampleBuild.Rehearsal.Scene

/-! The command line. The arguments are those of the program, and standard input describes
the scene that it is rehearsed on. -/

def main (arguments : List String) : IO UInt32 := do
  let input ← IO.getStdin
  let scene := ExampleBuild.Rehearsal.Scene.ofText (ExampleBuild.utf8 (← input.readToEnd))
  let bytes := arguments.map ExampleBuild.utf8
  let performed := ExampleBuild.Program.run scene.machine bytes scene.state
  let view := ExampleBuild.Program.logView scene.environment bytes
  for line in ExampleBuild.Program.outputLines performed.actions do
    IO.println line
  for line in ExampleBuild.Program.diagnosticLines view performed.actions do
    IO.eprintln line
  return UInt32.ofNat performed.result
