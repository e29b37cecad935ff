import ExampleBuild.Entry
import ExampleBuild.Rehearsal.Walk

namespace ExampleBuild

/-! What processes do with files: listing a directory, removing a name, writing a file,
and making directories. -/

namespace Rehearsal

namespace FileTree

def list (tree : FileTree) (here : Location) (path : Path) :
    Except SystemError (List (Except SystemError ListedName)) :=
  match tree.locateDirectory here path with
  | .error cause => .error cause
  | .ok location =>
      .ok ((tree.namesIn location).map fun name =>
        .ok ⟨name, tree.leadsToDirectory here (path.join name)⟩)

def splitLast? (path : Path) : Option (List ByteText × ByteText) :=
  match ((path.separated Path.slash).filter (· ≠ [])).reverse with
  | [] => none
  | last :: before => some (before.reverse, last)

/-- The directory that holds the last name of a path, and that name. -/
def locateParent (tree : FileTree) (links : Nat) (here : Location) (path : Path) :
    Except SystemError (Location × ByteText) :=
  match splitLast? path with
  | none => .error .isADirectory
  | some (before, last) =>
      match walk tree .followed links (walkStart here path) (before ++ [[Path.dot]]) with
      | .error cause => .error cause
      | .ok parent =>
          if last = [Path.dot] || last = parentName then .error .isADirectory
          else if longestName < last.length then .error .nameTooLong
          else .ok (parent, last)

/-- Remove a name that is no directory. A link goes, and what it leads to stays. -/
def unlink (tree : FileTree) (here : Location) (path : Path) : Except SystemError FileTree :=
  match checkPath path with
  | .error cause => .error cause
  | .ok () =>
      match tree.locateParent mostLinks here path with
      | .error cause => .error cause
      | .ok (parent, name) =>
          match tree.item? (parent ++ [name]) with
          | none => .error .notFound
          | some .directory => .error .isADirectory
          | some _ =>
              if path.endsInSlash then .error .notADirectory
              else .ok (tree.remove (parent ++ [name]))

/-- Where a file is written for a path: at what it leads to, or else at a new name. -/
def locateForWriting (tree : FileTree) : Nat → Location → Path → Except SystemError Location
  | links, here, path =>
      match tree.locateParent links here path with
      | .error cause => .error cause
      | .ok (parent, name) =>
          match tree.item? (parent ++ [name]) with
          | some .directory => .error .isADirectory
          | some (.file _ _) =>
              if path.endsInSlash then .error .notADirectory else .ok (parent ++ [name])
          | none => if path.endsInSlash then .error .isADirectory else .ok (parent ++ [name])
          | some (.link target) =>
              match links with
              | 0 => .error .linkLoop
              | links + 1 => tree.locateForWriting links parent target

/-- Write a file, which keeps its permissions if it was there. -/
def write (tree : FileTree) (here : Location) (path : Path) (content : Content) :
    Except SystemError FileTree :=
  match checkPath path with
  | .error cause => .error cause
  | .ok () =>
      match tree.locateForWriting mostLinks here path with
      | .error cause => .error cause
      | .ok location =>
          match tree.item? location with
          | some (.file _ executable) => .ok (tree.put location (.file content executable))
          | _ => .ok (tree.put location (.file content false))

def makeDirectories (tree : FileTree) (here : Location) : List ByteText → FileTree × Location
  | [] => (tree, here)
  | name :: rest =>
      if name = [Path.dot] then tree.makeDirectories here rest
      else if name = parentName then tree.makeDirectories here.dropLast rest
      else
        match walk tree .followed mostLinks here [name] with
        | .ok next => tree.makeDirectories next rest
        | .error _ => (tree.put (here ++ [name]) .directory).makeDirectories (here ++ [name]) rest

def makeDirectory (tree : FileTree) (here : Location) (path : Path) : FileTree :=
  (tree.makeDirectories (walkStart here path) (namesToWalk path)).1

/-! ## Setting a tree up -/

def place (tree : FileTree) (here : Location) (path : Path) (item : Item) : FileTree :=
  match splitLast? path with
  | none => tree
  | some (before, last) =>
      let (prepared, parent) := tree.makeDirectories (walkStart here path) before
      match item with
      | .directory => (prepared.makeDirectories parent [last]).1
      | _ => prepared.put (parent ++ [last]) item

def discard (tree : FileTree) (here : Location) (path : Path) : FileTree :=
  match tree.locate .kept here path with
  | .ok location => tree.remove location
  | .error _ => tree

/-- What is below a directory, a slash after each directory and an at sign after each
link. -/
def shownBelow (tree : FileTree) (here : Location) (path : Path) : List String :=
  match tree.locateDirectory here path with
  | .error _ => []
  | .ok location => (tree.below location).map fun placed =>
      let mark := match placed.2 with
        | .directory => "/"
        | .file _ _ => ""
        | .link _ => "@"
      ByteText.shown (ByteText.joined Path.slash placed.1) ++ mark

def names (tree : FileTree) (here : Location) (path : Path) : Bool :=
  match tree.locate .kept here path with
  | .ok _ => true
  | .error _ => false

end FileTree

end Rehearsal

end ExampleBuild
