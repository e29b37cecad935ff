import ExampleBuild.Text.ByteText

namespace ExampleBuild

/-! Environments give values to names. The names are kept in byte order and occur
once each, so two environments that answer alike are equal. -/

structure Environment where
  entries : List (ByteText × ByteText)
  sorted : entries.Pairwise fun earlier later => earlier.1.precedes later.1 = true

namespace Environment

def empty : Environment := ⟨[], .nil⟩

def valueIn (name : ByteText) : List (ByteText × ByteText) → Option ByteText
  | [] => none
  | entry :: rest => if entry.1 = name then some entry.2 else valueIn name rest

def get? (environment : Environment) (name : ByteText) : Option ByteText :=
  valueIn name environment.entries

def names (environment : Environment) : List ByteText := environment.entries.map (·.1)

/-! ## Changing one name -/

def insertIn (name value : ByteText) : List (ByteText × ByteText) → List (ByteText × ByteText)
  | [] => [(name, value)]
  | entry :: rest =>
      if entry.1 = name then (name, value) :: rest
      else if entry.1.precedes name then entry :: insertIn name value rest
      else (name, value) :: entry :: rest

theorem mem_insertIn {name value : ByteText} {entries : List (ByteText × ByteText)}
    {entry : ByteText × ByteText} (member : entry ∈ insertIn name value entries) :
    entry = (name, value) ∨ entry ∈ entries := by
  induction entries with
  | nil => simpa [insertIn] using member
  | cons head rest induction =>
      rw [insertIn] at member
      split at member
      · rcases List.mem_cons.mp member with same | inRest
        · exact .inl same
        · exact .inr (List.mem_cons_of_mem _ inRest)
      · split at member
        · rcases List.mem_cons.mp member with same | inRest
          · exact .inr (by simp [same])
          · exact (induction inRest).imp id (List.mem_cons_of_mem _)
        · rcases List.mem_cons.mp member with same | inOld
          · exact .inl same
          · exact .inr inOld

theorem sorted_insertIn {name value : ByteText} {entries : List (ByteText × ByteText)}
    (sorted : entries.Pairwise fun earlier later => earlier.1.precedes later.1 = true) :
    (insertIn name value entries).Pairwise
      fun earlier later => earlier.1.precedes later.1 = true := by
  induction entries with
  | nil => simp [insertIn]
  | cons head rest induction =>
      have ⟨headFirst, restSorted⟩ := List.pairwise_cons.mp sorted
      rw [insertIn]
      split
      · next same =>
          refine List.pairwise_cons.mpr ⟨fun entry member => ?_, restSorted⟩
          simpa [same] using headFirst entry member
      · next different =>
          split
          · next before =>
              refine List.pairwise_cons.mpr ⟨fun entry member => ?_, induction restSorted⟩
              rcases mem_insertIn member with inserted | old
              · rw [inserted]
                exact before
              · exact headFirst entry old
          · next notBefore =>
              have after : name.precedes head.1 = true :=
                (ByteText.precedes_or_precedes different).resolve_left notBefore
              refine List.pairwise_cons.mpr ⟨fun entry member => ?_, sorted⟩
              rcases List.mem_cons.mp member with isHead | inRest
              · rw [isHead]
                exact after
              · exact ByteText.precedes_transitive after (headFirst entry inRest)

def insert (environment : Environment) (name value : ByteText) : Environment where
  entries := insertIn name value environment.entries
  sorted := sorted_insertIn environment.sorted

def erase (environment : Environment) (name : ByteText) : Environment where
  entries := environment.entries.filter fun entry => entry.1 ≠ name
  sorted := environment.sorted.filter _

/-- The environment that a list of pairs spells. Of two pairs with one name the later
one counts. -/
def ofPairs (pairs : List (ByteText × ByteText)) : Environment :=
  pairs.foldl (fun environment pair => environment.insert pair.1 pair.2) empty

def overriding (environment : Environment) (changes : List (ByteText × Option ByteText)) :
    Environment :=
  changes.foldl
    (fun changed change =>
      match change.2 with
      | some value => changed.insert change.1 value
      | none => changed.erase change.1)
    environment

def text? (environment : Environment) (name : String) : Option String :=
  (environment.get? (utf8 name)).bind ByteText.decode?

/-! ## Small laws -/

theorem get?_empty (name : ByteText) : empty.get? name = none := rfl

theorem valueIn_insertIn (name value other : ByteText)
    (entries : List (ByteText × ByteText)) :
    valueIn other (insertIn name value entries) =
      if name = other then some value else valueIn other entries := by
  induction entries with
  | nil => simp [insertIn, valueIn]
  | cons head rest induction =>
      rw [insertIn]
      split
      · next same =>
          by_cases asked : name = other
          · simp [valueIn, asked]
          · simp [valueIn, asked, same]
      · next different =>
          split
          · by_cases asked : name = other
            · subst asked
              simp [valueIn, induction, different]
            · simp [valueIn, induction, asked]
          · simp [valueIn]

theorem valueIn_filter (name other : ByteText) (entries : List (ByteText × ByteText)) :
    valueIn other (entries.filter fun entry => entry.1 ≠ name) =
      if name = other then none else valueIn other entries := by
  induction entries with
  | nil => simp [valueIn]
  | cons head rest induction =>
      by_cases erased : head.1 = name
      · rw [List.filter_cons_of_neg (by simp [erased]), induction]
        by_cases asked : name = other
        · simp [asked]
        · simp [valueIn, erased, asked]
      · rw [List.filter_cons_of_pos (by simp [erased])]
        by_cases found : head.1 = other
        · have kept : ¬ name = other := fun same => erased (found.trans same.symm)
          simp [valueIn, found, kept]
        · simp only [valueIn, found, if_false, induction]

theorem get?_erase (environment : Environment) (name other : ByteText) :
    (environment.erase name).get? other =
      if name = other then none else environment.get? other :=
  valueIn_filter name other environment.entries

theorem get?_insert (environment : Environment) (name value other : ByteText) :
    (environment.insert name value).get? other =
      if name = other then some value else environment.get? other :=
  valueIn_insertIn name value other environment.entries

end Environment

end ExampleBuild
