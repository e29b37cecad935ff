import ExampleBuild.Path

namespace ExampleBuild

/-! A rehearsal runs the program without touching a real system. Its files are a tree
held in memory, as a list of items with the places where they are. -/

namespace Rehearsal

inductive Tool
  | compiler
  | make
  | shell
  deriving DecidableEq

inductive Content
  | text (bytes : ByteText)
  | tool (tool : Tool)
  deriving DecidableEq

inductive Item
  | directory
  | file (content : Content) (executable : Bool)
  | link (target : Path)
  deriving DecidableEq

namespace Item

def isDirectory : Item → Bool
  | .directory => true
  | _ => false

end Item

/-- The names that lead from the root to an item, none of them through a link. -/
abbrev Location := List ByteText

def Location.path (location : Location) : Path :=
  match location with
  | [] => [Path.slash]
  | names => names.flatMap fun name => Path.slash :: name

/-- The items below the root, which is there in any case. -/
structure FileTree where
  items : List (Location × Item)
  deriving DecidableEq

namespace FileTree

def itemIn (location : Location) : List (Location × Item) → Option Item
  | [] => none
  | placed :: rest => if placed.1 = location then some placed.2 else itemIn location rest

def item? (tree : FileTree) (location : Location) : Option Item :=
  if location = [] then some .directory else itemIn location tree.items

def put (tree : FileTree) (location : Location) (item : Item) : FileTree :=
  if (itemIn location tree.items).isSome then
    ⟨tree.items.map fun placed => if placed.1 = location then (location, item) else placed⟩
  else ⟨tree.items ++ [(location, item)]⟩

def remove (tree : FileTree) (location : Location) : FileTree :=
  ⟨tree.items.filter fun placed => !location.isPrefixOf placed.1⟩

theorem itemIn_map_replace (location other : Location) (item : Item)
    (items : List (Location × Item)) :
    itemIn other (items.map fun placed =>
        if placed.1 = location then (location, item) else placed) =
      if location = other then (itemIn other items).map fun _ => item
      else itemIn other items := by
  induction items with
  | nil => simp [itemIn]
  | cons head rest induction =>
      by_cases replaced : head.1 = location
      · by_cases asked : location = other
        · simp [itemIn, replaced, asked]
        · simp [itemIn, replaced, asked, induction]
      · by_cases found : head.1 = other
        · have kept : ¬ location = other := fun same => replaced (found.trans same.symm)
          have keptReversed : ¬ other = location := fun same => kept same.symm
          simp [itemIn, found, kept, keptReversed]
        · simp [itemIn, replaced, found, induction]

theorem itemIn_append_of_none (location other : Location) (item : Item)
    (items : List (Location × Item)) (absent : itemIn location items = none) :
    itemIn other (items ++ [(location, item)]) =
      if location = other then some item else itemIn other items := by
  induction items with
  | nil => simp [itemIn]
  | cons head rest induction =>
      by_cases here : head.1 = location
      · simp [itemIn, here] at absent
      · have absentRest : itemIn location rest = none := by simpa [itemIn, here] using absent
        by_cases found : head.1 = other
        · have different : ¬ location = other := fun same => here (found.trans same.symm)
          simp [itemIn, found, different]
        · simp [itemIn, found, induction absentRest]

theorem item?_put (tree : FileTree) (location other : Location) (item : Item)
    (notRoot : location ≠ []) :
    (tree.put location item).item? other =
      if location = other then some item else tree.item? other := by
  by_cases root : other = []
  · have different : ¬ location = other := fun same => notRoot (same.trans root)
    simp [item?, root, notRoot]
  · unfold put
    split
    · next present =>
        simp only [item?, root, if_false, itemIn_map_replace]
        by_cases asked : location = other
        · subst asked
          obtain ⟨old, found⟩ := Option.isSome_iff_exists.mp present
          simp [found]
        · simp [asked]
    · next absent =>
        have none := Option.not_isSome_iff_eq_none.mp absent
        simp only [item?, root, if_false, itemIn_append_of_none _ _ _ _ none]

theorem itemIn_filter_not_below (location other : Location) (items : List (Location × Item)) :
    itemIn other (items.filter fun placed => !location.isPrefixOf placed.1) =
      if location.isPrefixOf other then none else itemIn other items := by
  induction items with
  | nil => simp [itemIn]
  | cons head rest induction =>
      by_cases gone : location.isPrefixOf head.1 = true
      · rw [List.filter_cons_of_neg (by simp [gone]), induction]
        by_cases found : head.1 = other
        · simp [← found, gone]
        · simp [itemIn, found]
      · rw [List.filter_cons_of_pos (by simp [gone])]
        by_cases found : head.1 = other
        · simp [itemIn, ← found, gone]
        · simp [itemIn, found, induction]

theorem item?_remove (tree : FileTree) (location other : Location) (notRoot : location ≠ []) :
    (tree.remove location).item? other =
      if location.isPrefixOf other then none else tree.item? other := by
  by_cases root : other = []
  · have outside : location.isPrefixOf other = false := by
      cases location with
      | nil => exact absurd rfl notRoot
      | cons => simp [root]
    simp [item?, root, notRoot]
  · simp only [item?, remove, root, if_false, itemIn_filter_not_below]

def below (tree : FileTree) (location : Location) : List (Location × Item) :=
  tree.items.filterMap fun placed =>
    if location.isPrefixOf placed.1 && placed.1.length ≠ location.length then
      some (placed.1.drop location.length, placed.2)
    else none

def namesIn (tree : FileTree) (location : Location) : List ByteText :=
  (tree.below location).filterMap fun placed =>
    match placed.1 with
    | [name] => some name
    | _ => none

end FileTree

end Rehearsal

end ExampleBuild
