import ExampleBuild.Text.ByteText

namespace ExampleBuild

/-! Paths are byte texts in which a slash separates names. Nothing here asks a file
system: these are the rules on the text alone. A path that starts with a slash is
absolute. Empty names and `.` name nothing, while `..` is a name like any other,
since what it leads to depends on links. -/

abbrev Path := ByteText

namespace Path

def slash : UInt8 := 47

def dot : UInt8 := 46

def isAbsolute (path : Path) : Bool := path.head? = some slash

def endsInSlash (path : Path) : Bool := path.getLast? = some slash

/-- The names that a path goes through, without those that stand for where it is. -/
def names (path : Path) : List ByteText :=
  (path.separated slash).filter fun name => name ≠ [] && name ≠ [dot]

/-! ## Joining -/

/-- Carry a path on. An absolute addition takes the place of the path, and carrying
on with the empty path leaves a slash at the end. -/
def join (base addition : Path) : Path :=
  if addition.isAbsolute then addition
  else if base = [] || base.endsInSlash then base ++ addition
  else base ++ slash :: addition

def joinAll (base : Path) (additions : List ByteText) : Path := additions.foldl join base

/-! ## Components and the parent

The components of a path are its root, if it has one, and its names. A relative path
may also start from where it is, with a `.` as its first component. -/

inductive Component
  | root
  | here
  | named (name : ByteText)
  deriving DecidableEq

def start (path : Path) : Path × Path :=
  match path with
  | [] => ([], [])
  | first :: rest =>
      if first = slash then ([slash], rest)
      else if first = dot && (rest = [] || rest.head? = some slash) then ([dot], rest)
      else ([], path)

def components (path : Path) : List Component :=
  let (anchor, body) := start path
  let beginning : List Component :=
    if anchor = [slash] then [.root] else if anchor = [dot] then [.here] else []
  beginning ++ (names body).map .named

/-- Drop from the front of a reversed path the slashes, and each `.` that is a name
of its own. -/
def withoutIdleEnd : ByteText → ByteText
  | [] => []
  | byte :: rest =>
      if byte = slash then withoutIdleEnd rest
      else if byte = dot && (rest = [] || rest.head? = some slash) then withoutIdleEnd rest
      else byte :: rest

/-- The path without its last component, as a beginning of its text. The root and
the empty path have no parent, and a single name has the empty one. -/
def parent? (path : Path) : Option Path :=
  let (anchor, body) := start path
  match withoutIdleEnd body.reverse with
  | [] => if anchor = [dot] then some [] else none
  | lastFirst =>
      some (anchor ++ (withoutIdleEnd (lastFirst.dropWhile (· ≠ slash))).reverse)

/-! ## Absolute form -/

/-- The text that an absolute form starts with. Exactly two slashes at the front have
a meaning of their own and stay, while more of them count as one. -/
def absoluteBase (currentDirectory path : Path) : Path :=
  if path.isAbsolute then
    if path.take 2 = [slash, slash] && path.take 3 ≠ [slash, slash, slash] then [slash, slash]
    else [slash]
  else currentDirectory

/-- A path as seen from the root, without following links: `.` and repeated slashes
go, `..` stays, and so does a slash at the end. -/
def absolute (currentDirectory path : Path) : Path :=
  let joined := joinAll (absoluteBase currentDirectory path) (names path)
  if path.endsInSlash then join joined [] else joined

end Path

end ExampleBuild
