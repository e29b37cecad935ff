import ExampleBuild.Proofs.Path.Names
import ExampleBuild.Proofs.Text.LossyReading

namespace ExampleBuild

/-! The absolute form of a path has the names of the path behind those of the directory that
it is seen from. Whatever is shown in place of ill-formed text, the names stay apart. -/

namespace Path

/-! ## Spelling from the root -/

def startsWithTwo (path : Path) : Bool :=
  path.take 2 = [slash, slash] && path.take 3 ≠ [slash, slash, slash]

/-- The path from the root through some names, with no more slashes than it takes, except for
a second one in front and one behind if they are wanted. -/
def fromRoot (second closing : Bool) (names : List ByteText) : Path :=
  (if second then [slash, slash] else [slash]) ++ ByteText.joined slash names ++
    if closing then [slash] else []

theorem isAbsolute_fromRoot (second closing : Bool) (names : List ByteText) :
    isAbsolute (fromRoot second closing names) = true := by
  cases second <;> rfl

theorem names_append_closing (path : Path) (closing : Bool) :
    names (path ++ if closing then [slash] else []) = names path := by
  cases closing with
  | false => rw [if_neg Bool.false_ne_true, List.append_nil]
  | true => exact (names_append_slash path []).trans (List.append_nil _)

theorem names_fromRoot (second closing : Bool) {names : List ByteText}
    (areNames : ∀ name ∈ names, IsName name) :
    Path.names (fromRoot second closing names) = names := by
  rw [fromRoot, names_append_closing]
  cases second with
  | false => exact (names_slash_cons _).trans (names_joined areNames)
  | true => exact (names_slash_cons _).trans ((names_slash_cons _).trans (names_joined areNames))

section

variable {names : List ByteText} (areNames : ∀ name ∈ names, IsName name)
include areNames

theorem exists_joined_eq (nonempty : names ≠ []) :
    ∃ first rest, ByteText.joined slash names = first :: rest ∧ first ≠ slash := by
  have ofName {name : ByteText} (isName : IsName name) :
      ∃ first rest, name = first :: rest ∧ first ≠ slash := by
    rcases List.exists_cons_of_ne_nil isName.nonempty with ⟨first, rest, rfl⟩
    exact ⟨first, rest, rfl, fun same => isName.noSlash (by simp [same])⟩
  fun_cases ByteText.joined slash names with
  | case1 => exact absurd rfl nonempty
  | case2 name => exact ofName (areNames name List.mem_cons_self)
  | case3 name next others =>
      rcases ofName (areNames name List.mem_cons_self) with ⟨first, rest, rfl, different⟩
      exact ⟨first, _, rfl, different⟩

theorem not_endsInSlash_joined (before : Path) (nonempty : names ≠ []) :
    endsInSlash (before ++ ByteText.joined slash names) = false := by
  fun_induction ByteText.joined slash names generalizing before with
  | case1 => exact absurd rfl nonempty
  | case2 name =>
      have isName := areNames name List.mem_cons_self
      exact not_endsInSlash_append isName.nonempty isName.noSlash before
  | case3 name next others induction =>
      have later := induction (fun _ member => areNames _ (List.mem_cons_of_mem _ member))
        (before ++ name ++ [slash]) (List.cons_ne_nil _ _)
      simpa using later

theorem startsWithTwo_fromRoot (second closing : Bool) (nonempty : names ≠ []) :
    startsWithTwo (fromRoot second closing names) = second := by
  rcases exists_joined_eq areNames nonempty with ⟨first, rest, joined, different⟩
  cases second <;> simp [fromRoot, startsWithTwo, joined, different]

theorem endsInSlash_fromRoot (second closing : Bool) (nonempty : names ≠ []) :
    endsInSlash (fromRoot second closing names) = closing := by
  cases closing with
  | false =>
      rw [fromRoot, if_neg Bool.false_ne_true, List.append_nil]
      exact not_endsInSlash_joined areNames _ nonempty
  | true => simp [fromRoot, endsInSlash]

end

/-! ## The absolute form -/

theorem absolute_eq {current path : Path} (based : absoluteBase current path ≠ [])
    (named : path.names ≠ []) :
    absolute current path = (absoluteBase current path).opened ++
      ByteText.joined slash path.names ++ if path.endsInSlash then [slash] else [] := by
  have unclosed :=
    not_endsInSlash_joined isName_of_mem_names (absoluteBase current path).opened named
  rw [absolute, joinAll_names based isName_of_mem_names named]
  cases path.endsInSlash with
  | false => simp
  | true =>
      rcases exists_joined_eq isName_of_mem_names named with ⟨first, rest, joined, -⟩
      have nonempty : (absoluteBase current path).opened ++
          ByteText.joined slash path.names ≠ [] := by
        simp [joined]
      simp only [if_true]
      rw [join_of_noSlash nonempty List.not_mem_nil, List.append_nil, opened, unclosed]
      rfl

theorem absolute_of_isAbsolute {path : Path} (isAbsolute : path.isAbsolute = true)
    (named : path.names ≠ []) (current : Path) :
    absolute current path = fromRoot path.startsWithTwo path.endsInSlash path.names := by
  have base : absoluteBase current path =
      if path.startsWithTwo then [slash, slash] else [slash] := if_pos isAbsolute
  have based : absoluteBase current path ≠ [] ∧
      (absoluteBase current path).opened = absoluteBase current path := by
    rw [base]
    cases path.startsWithTwo <;> exact ⟨List.cons_ne_nil _ _, rfl⟩
  rw [absolute_eq based.1 named, based.2, base, fromRoot]

theorem absolute_of_isRelative {current path : Path} (isRelative : path.isAbsolute = false)
    (started : current ≠ []) (named : path.names ≠ []) :
    absolute current path = current.opened ++
      ByteText.joined slash path.names ++ if path.endsInSlash then [slash] else [] := by
  have base : absoluteBase current path = current := by
    rw [absoluteBase, isRelative]
    rfl
  rw [absolute_eq (by rwa [base]) named, base]

def namesFrom (current path : Path) : List ByteText :=
  (if path.isAbsolute then [] else current.names) ++ path.names

theorem namesFrom_isName {current path : Path} :
    ∀ name ∈ namesFrom current path, IsName name := by
  intro name member
  rw [namesFrom] at member
  rcases List.mem_append.mp member with before | own
  · split at before
    · cases before
    · exact isName_of_mem_names name before
  · exact isName_of_mem_names name own

theorem ne_nil_of_isAbsolute {path : Path} (isAbsolute : path.isAbsolute = true) : path ≠ [] := by
  rintro rfl
  cases isAbsolute

section

variable {current path : Path} (rooted : current.isAbsolute = true) (named : path.names ≠ [])
include rooted named

theorem isAbsolute_absolute : isAbsolute (absolute current path) = true := by
  cases isAbsolute : path.isAbsolute with
  | true =>
      rw [absolute_of_isAbsolute isAbsolute named]
      exact isAbsolute_fromRoot _ _ _
  | false =>
      rw [absolute_of_isRelative isAbsolute (ne_nil_of_isAbsolute rooted) named]
      rcases exists_opened_eq current with ⟨added, opened⟩
      cases current with
      | nil => cases rooted
      | cons first rest => simpa [opened, Path.isAbsolute] using rooted

theorem names_absolute : names (absolute current path) = namesFrom current path := by
  cases isAbsolute : path.isAbsolute with
  | true =>
      rw [absolute_of_isAbsolute isAbsolute named, names_fromRoot _ _ isName_of_mem_names,
        namesFrom, if_pos isAbsolute, List.nil_append]
  | false =>
      rw [absolute_of_isRelative isAbsolute (ne_nil_of_isAbsolute rooted) named,
        names_append_closing, names_opened_append, names_joined isName_of_mem_names, namesFrom,
        isAbsolute]
      rfl

end

theorem joined_append {before after : List ByteText} (nonempty : before ≠ []) (more : after ≠ []) :
    ByteText.joined slash (before ++ after) =
      ByteText.joined slash before ++ slash :: ByteText.joined slash after := by
  fun_induction ByteText.joined slash before with
  | case1 => exact absurd rfl nonempty
  | case2 name =>
      rcases List.exists_cons_of_ne_nil more with ⟨next, others, rfl⟩
      rfl
  | case3 name next others induction =>
      have later := induction (List.cons_ne_nil _ _)
      rw [List.cons_append] at later
      rw [List.cons_append, List.cons_append, ByteText.joined, later, List.append_assoc,
        List.cons_append]

theorem opened_append_joined {directory : Path} {names : List ByteText}
    (plain : directory = fromRoot false false directory.names) (nonempty : names ≠ []) :
    directory.opened ++ ByteText.joined slash names =
      slash :: ByteText.joined slash (directory.names ++ names) := by
  have spelled : directory = slash :: ByteText.joined slash directory.names := by
    simpa [fromRoot] using plain
  by_cases alone : directory.names = []
  · rw [alone] at spelled ⊢
    rw [spelled]
    rfl
  · have unclosed : directory.endsInSlash = false := by
      rw [plain]
      exact endsInSlash_fromRoot isName_of_mem_names false false alone
    rw [joined_append alone nonempty, opened, unclosed, if_neg Bool.false_ne_true,
      List.append_assoc, List.singleton_append, ← List.cons_append, ← spelled]

theorem absolute_eq_fromRoot {current path : Path} (named : path.names ≠ [])
    (plain : path.isAbsolute = true ∨ current = fromRoot false false current.names) :
    absolute current path =
      fromRoot path.startsWithTwo path.endsInSlash (namesFrom current path) := by
  cases isAbsolute : path.isAbsolute with
  | true =>
      rw [absolute_of_isAbsolute isAbsolute named, namesFrom, if_pos isAbsolute, List.nil_append]
  | false =>
      have plain := plain.resolve_left (by simp [isAbsolute])
      have started : current ≠ [] := by
        rw [plain]
        exact ne_nil_of_isAbsolute (isAbsolute_fromRoot _ _ _)
      have notTwo : path.startsWithTwo = false := by
        cases path with
        | nil => rfl
        | cons first rest =>
            have different : first ≠ slash := by simpa [Path.isAbsolute] using isAbsolute
            simp [startsWithTwo, different]
      rw [absolute_of_isRelative isAbsolute started named, opened_append_joined plain named,
        namesFrom, isAbsolute, notTwo, fromRoot]
      rfl

theorem absolute_fromRoot {names : List ByteText} (areNames : ∀ name ∈ names, IsName name)
    (nonempty : names ≠ []) (second closing : Bool) (current : Path) :
    absolute current (fromRoot second closing names) = fromRoot second closing names := by
  have named := names_fromRoot second closing areNames
  rw [absolute_of_isAbsolute (isAbsolute_fromRoot _ _ _) (by rwa [named]), named,
    startsWithTwo_fromRoot areNames _ _ nonempty, endsInSlash_fromRoot areNames _ _ nonempty]

/-! ## What is shown of a path -/

theorem slash_isAscii : slash < 0x80 := by decide

theorem slash_encoded : String.utf8EncodeChar '/' = [slash] := by decide

theorem names_legible (path : Path) : names path.legible = path.names.map ByteText.legible := by
  have leads (name : ByteText) :
      (name.legible ≠ [] && name.legible ≠ [dot]) = (name ≠ [] && name ≠ [dot] : Bool) := by
    have empty : name.legible = [] ↔ name = [] :=
      ByteText.legible_eq_iff (show '\uFFFD' ∉ "".toList by simp)
    have here : name.legible = [dot] ↔ name = [dot] :=
      ByteText.legible_eq_iff (show '\uFFFD' ∉ ".".toList by simp)
    simp [empty, here]
  rw [names, ByteText.separated_legible slash_isAscii slash_encoded, List.filter_map, names]
  exact congrArg _ (List.filter_congr fun name _ => leads name)

theorem legible_append_slash (before after : Path) :
    ByteText.legible (before ++ slash :: after) = before.legible ++ slash :: after.legible :=
  ByteText.legible_append_cons slash_isAscii slash_encoded before after

theorem legible_slash_cons (path : Path) :
    ByteText.legible (slash :: path) = slash :: path.legible :=
  legible_append_slash [] path

theorem isAbsolute_legible {path : Path} (isAbsolute : path.isAbsolute = true) :
    Path.isAbsolute path.legible = true := by
  cases path with
  | nil => cases isAbsolute
  | cons first rest =>
      have root : first = slash := by simpa [Path.isAbsolute] using isAbsolute
      rw [root, legible_slash_cons]
      rfl

theorem legible_append_closing (path : Path) (closing : Bool) :
    ByteText.legible (path ++ if closing then [slash] else []) =
      path.legible ++ if closing then [slash] else [] := by
  cases closing with
  | false => simp
  | true => exact legible_append_slash path []

theorem legible_joined_names (names : List ByteText) :
    ByteText.legible (ByteText.joined slash names) =
      ByteText.joined slash (names.map ByteText.legible) :=
  ByteText.legible_joined slash_isAscii slash_encoded names

theorem legible_fromRoot (second closing : Bool) (names : List ByteText) :
    ByteText.legible (fromRoot second closing names) =
      fromRoot second closing (names.map ByteText.legible) := by
  rw [fromRoot, fromRoot, legible_append_closing, ← legible_joined_names]
  cases second with
  | false => exact congrArg (· ++ _) (legible_slash_cons _)
  | true =>
      exact congrArg (· ++ _) ((legible_slash_cons _).trans (congrArg _ (legible_slash_cons _)))

theorem legible_opened_append (path after : Path) :
    ByteText.legible (path.opened ++ after) = path.opened.legible ++ after.legible := by
  rcases exists_opened_eq_closed path with ⟨front, closed, -⟩
  have alone : ByteText.legible (front ++ [slash]) = front.legible ++ [slash] :=
    legible_append_slash front []
  rw [closed, List.append_assoc, List.singleton_append, legible_append_slash, alone,
    List.append_assoc, List.singleton_append]

theorem names_map_legible (text : String) :
    (names (utf8 text)).map ByteText.legible = names (utf8 text) := by
  rw [← names_legible, ByteText.legible_utf8]

theorem isName_legible {name : ByteText} (isName : IsName name) : IsName name.legible := by
  have whole := names_legible name
  rw [names_of_isName isName] at whole
  exact isName_of_mem_names _ (by rw [whole]; exact List.mem_singleton_self _)

theorem legible_eq_self {path : Path} (readable : ∀ name ∈ path.names, name.legible = name) :
    ByteText.legible path = path := by
  have unchanged : ∀ part ∈ ByteText.separated slash path, part.legible = part := by
    intro part isPart
    by_cases isName : part ∈ path.names
    · exact readable part isName
    · have idle : part = [] ∨ part = [dot] := by
        by_contra leads
        rw [not_or] at leads
        exact isName (List.mem_filter.mpr ⟨isPart, by simp [leads]⟩)
      rcases idle with rfl | rfl
      · rfl
      · exact ByteText.legible_utf8 "."
  calc ByteText.legible path
      = ByteText.joined slash (ByteText.separated slash path.legible) :=
        (ByteText.joined_separated slash path.legible).symm
    _ = ByteText.joined slash ((ByteText.separated slash path).map ByteText.legible) := by
        rw [ByteText.separated_legible slash_isAscii slash_encoded]
    _ = ByteText.joined slash (ByteText.separated slash path) := by
        rw [List.map_congr_left unchanged, List.map_id']
    _ = path := ByteText.joined_separated slash path

theorem legible_of_mem_names {text : String} {name : ByteText}
    (member : name ∈ Path.names (utf8 text)) : name.legible = name := by
  rw [← names_map_legible] at member
  rcases List.mem_map.mp member with ⟨own, -, rfl⟩
  exact ByteText.legible_utf8 own.shown

end Path

end ExampleBuild
