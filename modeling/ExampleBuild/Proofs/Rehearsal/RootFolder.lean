import ExampleBuild.Proofs.Build.Folder
import ExampleBuild.Proofs.Path.Names
import ExampleBuild.Rehearsal.Host

namespace ExampleBuild

/-! The root of a rehearsal is a folder whose unlinking keeps to the laws, for every tree
of files. -/

namespace Rehearsal

def canBeNamed (name : ByteText) : Bool :=
  (checkPath (Path.slash :: name)).isOk && name.length ≤ longestName

def rootFolder : Folder State where
  Item := Item
  isDirectory := Item.isDirectory
  item? state name :=
    if name = [Path.dot] || name = parentName then some .directory
    else if canBeNamed name then state.tree.item? [name]
    else none

/-! ## Unlinking below the root -/

section

variable {name : ByteText}

theorem join_root (fileName : IsFileName name) :
    Path.join [Path.slash] name = Path.slash :: name :=
  Path.join_of_noSlash (List.cons_ne_nil _ _) fileName.2

theorem splitLast?_root (fileName : IsFileName name) :
    FileTree.splitLast? (Path.slash :: name) = some ([], name) := by
  simp [FileTree.splitLast?, ByteText.separated, ByteText.separated_of_not_mem fileName.2,
    fileName.1]

theorem not_endsInSlash_root (fileName : IsFileName name) :
    Path.endsInSlash (Path.slash :: name) = false :=
  Path.not_endsInSlash_append fileName.1 fileName.2 [Path.slash]

theorem locateParent_root (tree : FileTree) (here : Location) (fileName : IsFileName name) :
    tree.locateParent mostLinks here (Path.slash :: name) =
      if name = [Path.dot] || name = parentName then .error .isADirectory
      else if longestName < name.length then .error .nameTooLong
      else .ok ([], name) := by
  have root : walk tree .followed mostLinks (walkStart here (Path.slash :: name))
      [[Path.dot]] = .ok [] := by
    simp [walk, mostLinks, walkNames, walkStart, Path.isAbsolute, FileTree.item?]
  simp only [FileTree.locateParent, splitLast?_root fileName, List.nil_append, root]

theorem tree_unlink_root (tree : FileTree) (here : Location) (fileName : IsFileName name)
    (checked : checkPath (Path.slash :: name) = .ok ()) :
    tree.unlink here (Path.slash :: name) =
      if name = [Path.dot] || name = parentName then .error .isADirectory
      else if longestName < name.length then .error .nameTooLong
      else
        match tree.item? [name] with
        | none => .error .notFound
        | some item =>
            if item.isDirectory then .error .isADirectory else .ok (tree.remove [name]) := by
  rw [FileTree.unlink, checked, locateParent_root tree here fileName]
  by_cases dots : (name = [Path.dot] || name = parentName) = true
  · simp [dots]
  by_cases long : longestName < name.length
  · simp [dots, long]
  cases found : tree.item? [name] with
  | none => simp [dots, long, found]
  | some item =>
      cases item <;>
        simp [dots, long, found, not_endsInSlash_root fileName, Item.isDirectory]

theorem unlink_root (start : Start) (state : State) (fileName : IsFileName name) :
    (rootFolder.IsClearAt state name ∧
      ∃ cause, unlink start state (Path.slash :: name) = (.error cause, state)) ∨
    (¬ rootFolder.IsClearAt state name ∧
      unlink start state (Path.slash :: name) =
        (.ok (), { state with tree := state.tree.remove [name] })) := by
  cases checked : checkPath (Path.slash :: name) with
  | error cause =>
      refine .inl ⟨?_, cause, by simp [unlink, FileTree.unlink, checked]⟩
      simp [Folder.IsClearAt, rootFolder, canBeNamed, checked, Except.isOk, Except.toBool,
        Item.isDirectory]
  | ok =>
      have trees := tree_unlink_root state.tree start.here fileName checked
      by_cases dots : (name = [Path.dot] || name = parentName) = true
      · refine .inl ⟨?_, .isADirectory, by simp [unlink, trees, dots]⟩
        simp [Folder.IsClearAt, rootFolder, dots, Item.isDirectory]
      by_cases long : longestName < name.length
      · refine .inl ⟨?_, .nameTooLong, by simp [unlink, trees, dots, long]⟩
        simp [Folder.IsClearAt, rootFolder, dots, canBeNamed, Nat.not_le.mpr long]
      have nameable : canBeNamed name = true := by
        simp [canBeNamed, checked, Except.isOk, Except.toBool, Nat.le_of_not_lt long]
      have seen : rootFolder.item? state name = state.tree.item? [name] := by
        simp [rootFolder, dots, nameable]
      cases found : state.tree.item? [name] with
      | none =>
          refine .inl ⟨?_, .notFound, by simp [unlink, trees, dots, long, found]⟩
          exact Folder.isClearAt_of_none (seen.trans found)
      | some item =>
          rw [Folder.isClearAt_iff_of_some (seen.trans found)]
          by_cases directory : item.isDirectory = true
          · refine .inl ⟨directory, .isADirectory, ?_⟩
            simp [unlink, trees, dots, long, found, directory]
          · refine .inr ⟨directory, ?_⟩
            simp [unlink, trees, dots, long, found, directory]

end

/-! ## The laws -/

theorem rootFolder_item?_remove {state : State} {name : ByteText}
    (notClear : ¬ rootFolder.IsClearAt state name) (other : ByteText) :
    rootFolder.item? { state with tree := state.tree.remove [name] } other =
      if name = other then none else rootFolder.item? state other := by
  have notDots : ¬ (name = [Path.dot] || name = parentName) = true := fun dots =>
    notClear (by simp [Folder.IsClearAt, rootFolder, dots, Item.isDirectory])
  have removed := FileTree.item?_remove state.tree [name] [other] (List.cons_ne_nil _ _)
  by_cases same : name = other
  · subst same
    simp [rootFolder, notDots, removed]
  · simp [rootFolder, removed, same]

section

variable {machine : Machine State} {start : Start}

theorem rootFolder_unlinks (unlinkIn : machine.unlink = unlink start) :
    rootFolder.Unlinks machine [Path.slash] where
  taken state name fileName came := by
    rw [unlinkIn, join_root fileName] at came ⊢
    rcases unlink_root start state fileName with ⟨clear, cause, refused⟩ | ⟨notClear, done⟩
    · rw [refused] at came
      cases came
    · rw [done]
      exact ⟨notClear, by simp [rootFolder_item?_remove notClear]⟩
  refused state name cause fileName came := by
    rw [unlinkIn, join_root fileName] at came ⊢
    rcases unlink_root start state fileName with ⟨clear, cause, refused⟩ | ⟨notClear, done⟩
    · rw [refused]
    · rw [done] at came
      cases came
  others state name other fileName different := by
    rw [unlinkIn, join_root fileName]
    rcases unlink_root start state fileName with ⟨clear, cause, refused⟩ | ⟨notClear, done⟩
    · rw [refused]
    · rw [done, rootFolder_item?_remove notClear, if_neg fun same => different same.symm]

theorem rootFolder_canUnlink (unlinkIn : machine.unlink = unlink start) :
    rootFolder.CanUnlink machine [Path.slash] := by
  intro state name fileName notClear
  rw [unlinkIn, join_root fileName]
  rcases unlink_root start state fileName with ⟨clear, cause, refused⟩ | ⟨notClear, done⟩
  · exact absurd clear notClear
  · rw [done]

end

end Rehearsal

end ExampleBuild
