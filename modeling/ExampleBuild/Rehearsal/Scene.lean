import ExampleBuild.Rehearsal.Host

namespace ExampleBuild

/-! A scene describes what a rehearsal starts from, one thing a line: a word for what it
is, a name, and what belongs to the name.

    directory NAME          a directory
    file NAME TEXT          a file of one line
    link NAME TARGET        a link
    compiler NAME           a program that compiles as its sources say
    make NAME               a program that makes projects as their files say
    variable NAME VALUE     a variable of the environment -/

namespace Rehearsal

structure Scene where
  environment : Environment
  tree : FileTree

namespace Scene

def here : Location := [utf8 "rehearsal"]

def empty : Scene :=
  ⟨.empty, emptyState.tree.place [] here.path .directory⟩

def cutAtSpace (text : ByteText) : ByteText × ByteText :=
  (text.takeWhile (· ≠ 32), (text.dropWhile (· ≠ 32)).drop 1)

def withItem (scene : Scene) (name : ByteText) (item : Item) : Scene :=
  { scene with tree := scene.tree.place here name item }

/-- The scene with what a line describes. A line of any other form describes nothing. -/
def withLine (scene : Scene) (line : ByteText) : Scene :=
  let (kind, described) := cutAtSpace line
  let (name, content) := cutAtSpace described
  if kind = utf8 "directory" then scene.withItem name .directory
  else if kind = utf8 "file" then scene.withItem name (.file (.text content) false)
  else if kind = utf8 "link" then scene.withItem name (.link content)
  else if kind = utf8 "compiler" then scene.withItem name (.file (.tool .compiler) true)
  else if kind = utf8 "make" then scene.withItem name (.file (.tool .make) true)
  else if kind = utf8 "variable" then
    { scene with environment := scene.environment.insert name content }
  else scene

def ofText (text : ByteText) : Scene := (text.separated 10).foldl withLine empty

def machine (scene : Scene) : Machine State :=
  Rehearsal.machine ⟨scene.environment, here⟩

def state (scene : Scene) : State := ⟨scene.tree, []⟩

end Scene

end Rehearsal

end ExampleBuild
