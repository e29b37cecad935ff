import ExampleBuild.Machine

namespace ExampleBuild

/-! Discovery lists the examples directory and decides how each item is treated. -/

/-- The names that were read before reading failed, and the failure if it did. -/
def readNames : List (Except SystemError ListedName) → List ListedName × Option SystemError
  | [] => ([], none)
  | .error cause :: _ => ([], some cause)
  | .ok listed :: rest =>
      let (names, failure) := readNames rest
      (listed :: names, failure)

def discoveryEvent (platform : Platform) (listed : ListedName) : Event :=
  match listed.name.decode? with
  | none => .ignoringUnreadableName listed.name
  | some _ => .classified (.ofListed platform listed)

def discover {σ : Type} (machine : Machine σ) (directory : Path) (platform : Platform) :
    Activity σ (Except RunError Plan) := do
  match ← .reading fun state => machine.list state directory with
  | .error cause => return .error (.unlistableDirectory directory cause)
  | .ok listing =>
      let (names, failure) := readNames listing
      .inOrder (names.map fun listed => .note (discoveryEvent platform listed))
      match failure with
      | some cause => return .error (.unreadableEntry directory cause)
      | none => return .ok (.ofListing platform names)

end ExampleBuild
