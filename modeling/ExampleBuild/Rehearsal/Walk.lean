import ExampleBuild.Rehearsal.FileTree
import ExampleBuild.SystemError

namespace ExampleBuild

/-! How a path is walked through a tree. Each name is looked up in the directory that
the names before it led to, and a link is walked in its place. -/

namespace Rehearsal

/-- Whether a link at the end of a path is followed, or is itself what the path names. -/
inductive LastLink
  | followed
  | kept
  deriving DecidableEq

def parentName : ByteText := [Path.dot, Path.dot]

def longestName : Nat := 255

def longestPath : Nat := 4095

def mostLinks : Nat := 40

/-- The names of a path, with those that stand for where it is. A slash at the end asks
for a directory, as such a name would. -/
def namesToWalk (path : Path) : List ByteText :=
  (path.separated Path.slash).filter (· ≠ [])
    ++ if path.endsInSlash then [[Path.dot]] else []

def walkStart (here : Location) (path : Path) : Location := if path.isAbsolute then [] else here

/-- Walk names from a location, handing over what is left at the first link. -/
def walkNames (tree : FileTree) (last : LastLink)
    (follow : Location → List ByteText → Except SystemError Location)
    (here : Location) : List ByteText → Except SystemError Location
  | [] => .ok here
  | name :: rest =>
      match tree.item? here with
      | none => .error .notFound
      | some (.file _ _) | some (.link _) => .error .notADirectory
      | some .directory =>
          if name = [Path.dot] then walkNames tree last follow here rest
          else if name = parentName then walkNames tree last follow here.dropLast rest
          else if longestName < name.length then .error .nameTooLong
          else
            match tree.item? (here ++ [name]) with
            | none => .error .notFound
            | some (.link target) =>
                if rest = [] && last = .kept then .ok (here ++ [name])
                else follow (walkStart here target) (namesToWalk target ++ rest)
            | some _ => walkNames tree last follow (here ++ [name]) rest

def walk (tree : FileTree) (last : LastLink) :
    Nat → Location → List ByteText → Except SystemError Location
  | 0 => walkNames tree last fun _ _ => .error .linkLoop
  | links + 1 => walkNames tree last (walk tree last links)

def checkPath (path : Path) : Except SystemError Unit :=
  if path.contains 0 then .error .nulInPath
  else if path = [] then .error .notFound
  else if longestPath < path.length then .error .nameTooLong
  else .ok ()

/-- A path that is walked name by name, and not as a whole, may be of any length. -/
def checkNames (path : Path) : Except SystemError Unit :=
  if path.contains 0 then .error .nulInPath
  else if path = [] then .error .notFound
  else .ok ()

namespace FileTree

def locate (tree : FileTree) (last : LastLink) (here : Location) (path : Path) :
    Except SystemError Location :=
  match checkPath path with
  | .error cause => .error cause
  | .ok () => walk tree last mostLinks (walkStart here path) (namesToWalk path)

def locateByNames (tree : FileTree) (here : Location) (path : Path) :
    Except SystemError Location :=
  match checkNames path with
  | .error cause => .error cause
  | .ok () => walk tree .followed mostLinks (walkStart here path) (namesToWalk path)

def locateDirectory (tree : FileTree) (here : Location) (path : Path) :
    Except SystemError Location :=
  match tree.locate .followed here path with
  | .error cause => .error cause
  | .ok location =>
      match tree.item? location with
      | some .directory => .ok location
      | some _ => .error .notADirectory
      | none => .error .notFound

def leadsToDirectory (tree : FileTree) (here : Location) (path : Path) :
    Except SystemError Bool :=
  match tree.locate .followed here path with
  | .error cause => .error cause
  | .ok location => .ok ((tree.item? location).any Item.isDirectory)

end FileTree

end Rehearsal

end ExampleBuild
