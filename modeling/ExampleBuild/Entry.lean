import ExampleBuild.Platform
import ExampleBuild.SystemError
import ExampleBuild.Text.ByteText

namespace ExampleBuild

/-! What stands in an examples directory, and how each item there is treated: sources
are compiled, directories are made, and everything else is passed over. -/

inductive Treatment
  | compile (artifact : String)
  | make
  | excluded
  | ignored
  deriving DecidableEq

structure Entry where
  name : String
  treatment : Treatment
  deriving DecidableEq

structure Plan where
  entries : List Entry
  deriving DecidableEq

/-! ## Treatments -/

namespace Treatment

def isBuildable : Treatment → Bool
  | .compile _ | .make => true
  | .excluded | .ignored => false

@[simp] theorem isBuildable_compile (artifact : String) :
    (compile artifact).isBuildable = true := rfl

@[simp] theorem isBuildable_make : make.isBuildable = true := rfl

@[simp] theorem isBuildable_excluded : excluded.isBuildable = false := rfl

@[simp] theorem isBuildable_ignored : ignored.isBuildable = false := rfl

theorem isBuildable_eq_false_iff {treatment : Treatment} :
    treatment.isBuildable = false ↔ treatment = .excluded ∨ treatment = .ignored := by
  cases treatment <;> simp

def description : Treatment → String
  | .compile artifact => "compile to " ++ artifact
  | .make => "make project"
  | .excluded => "excluded on this platform"
  | .ignored => "ignored"

def sourceSuffix : String := ".cx"

def sharedDataName : String := "inputs"

def excludedOnWindows : List String := ["tree.cx", "asteroids", "opengl"]

def isSourceName (name : String) : Bool :=
  sourceSuffix.toList.isSuffixOf name.toList

/-- The name of the file that a source compiles to: the suffix of sources gives way to
the suffix of executable files. A suffix alone is no source. -/
def artifactName? (platform : Platform) (source : String) : Option String :=
  if isSourceName source then
    let stem := source.toList.take (source.length - sourceSuffix.length)
    if stem = [] then none else some (String.ofList (stem ++ platform.executableSuffix.toList))
  else none

/-- How an item is treated, by its name and by whether it is a directory. A source name
decides before the kind of the item does. -/
def ofName (platform : Platform) (name : String) (isDirectory : Bool) : Treatment :=
  if platform.isWindowsFamily && excludedOnWindows.contains name then .excluded
  else if isSourceName name then
    match artifactName? platform name with
    | some artifact => .compile artifact
    | none => .ignored
  else if isDirectory && name ≠ sharedDataName then .make
  else .ignored

end Treatment

/-! ## Listings

A listing gives the names directly below a directory. Whether a name leads to a
directory is asked for each name on its own, through links, and that may fail. -/

structure ListedName where
  name : ByteText
  isDirectory : Except SystemError Bool

namespace Entry

def shown (entry : Entry) : String :=
  entry.name ++ " (" ++ entry.treatment.description ++ ")"

/-- The entry for a listed name. A name that is not well-formed text cannot be handed
to a build, and a name that leads nowhere is no directory. -/
def ofListed (platform : Platform) (listed : ListedName) : Entry :=
  match listed.name.decode? with
  | none => ⟨listed.name.shown, .ignored⟩
  | some name =>
      let isDirectory := match listed.isDirectory with
        | .ok answer => answer
        | .error _ => false
      ⟨name, .ofName platform name isDirectory⟩

end Entry

namespace Plan

def ofListing (platform : Platform) (listing : List ListedName) : Plan :=
  ⟨listing.map (Entry.ofListed platform)⟩

def buildCount (plan : Plan) : Nat :=
  plan.entries.countP fun entry => entry.treatment.isBuildable

end Plan

end ExampleBuild
