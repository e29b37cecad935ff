import ExampleBuild.Machine
import ExampleBuild.Rehearsal.Launch

namespace ExampleBuild

/-! The machine of a rehearsal: a run on it reads and changes files in memory, and its
processes are those of the tools there. -/

namespace Rehearsal

structure Start where
  environment : Environment
  here : Location

def currentDirectory (start : Start) (state : State) : Except SystemError Path :=
  match state.tree.item? start.here with
  | some .directory => .ok start.here.path
  | _ => .error .notFound

def canonical (start : Start) (state : State) (path : Path) : Except SystemError Path :=
  (state.tree.locateByNames start.here path).map Location.path

def unlink (start : Start) (state : State) (path : Path) : Except SystemError Unit × State :=
  match state.tree.unlink start.here path with
  | .error cause => (.error cause, state)
  | .ok tree => (.ok (), { state with tree })

/-- In a rehearsal no time passes. -/
def machine (start : Start) : Machine State where
  platform := .linux
  environment := start.environment
  currentDirectory := currentDirectory start
  canonical := canonical start
  list state path := state.tree.list start.here path
  launch := launch start.environment start.here
  unlink := unlink start
  clock _ := 0

def withShell (tree : FileTree) : FileTree :=
  tree.place [] (utf8 "/bin/sh") (.file (.tool .shell) true)

def emptyState : State := ⟨withShell ⟨[]⟩, []⟩

end Rehearsal

end ExampleBuild
