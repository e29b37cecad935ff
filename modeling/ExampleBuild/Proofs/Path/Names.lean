import ExampleBuild.Path

namespace ExampleBuild

/-! The names that a path goes through, and what a path starts from, are all there is to its
components. Joining a name to a path adds one component at the end. -/

namespace Path

/-- What can be one of the names in a path: no slash parts it, and it leads somewhere. -/
structure IsName (name : ByteText) : Prop where
  nonempty : name ≠ []
  notHere : name ≠ [dot]
  noSlash : slash ∉ name

/-! ## Names -/

theorem names_append_slash (before after : Path) :
    names (before ++ slash :: after) = names before ++ names after := by
  rw [names, ByteText.separated_append_cons, List.filter_append]
  rfl

theorem names_slash_cons (path : Path) : names (slash :: path) = names path :=
  names_append_slash [] path

theorem names_of_isName {name : ByteText} (isName : IsName name) : names name = [name] := by
  rw [names, ByteText.separated_of_not_mem isName.noSlash]
  simp [isName.nonempty, isName.notHere]

theorem isName_of_mem_names {path : Path} : ∀ name ∈ names path, IsName name := by
  intro name member
  rcases List.mem_filter.mp member with ⟨isPart, leads⟩
  simp only [ne_eq, Bool.and_eq_true, decide_eq_true_eq] at leads
  exact ⟨leads.1, leads.2, ByteText.not_mem_of_mem_separated isPart⟩

theorem names_joined {names : List ByteText} (areNames : ∀ name ∈ names, IsName name) :
    Path.names (ByteText.joined slash names) = names := by
  fun_induction ByteText.joined slash names with
  | case1 => rfl
  | case2 name => exact names_of_isName (areNames name List.mem_cons_self)
  | case3 name next others induction =>
      rw [List.forall_mem_cons] at areNames
      rw [names_append_slash, names_of_isName areNames.1, induction areNames.2]
      rfl

/-! ## Components -/

def startsHere (path : Path) : Bool := path = [dot] || path.take 2 = [dot, slash]

def beginning (path : Path) : List Component :=
  if path.isAbsolute then [.root] else if path.startsHere then [.here] else []

/-- What a path may start from, as text and as components, and the text that follows it. -/
inductive Starts : Path → List Component → Path → Prop
  | root (body : Path) : Starts [slash] [.root] body
  | here {body : Path} (parted : body = [] ∨ body.head? = some slash) :
      Starts [dot] [.here] body
  | plain {body : Path} (unanchored : body.start = ([], body)) : Starts [] [] body

theorem start_cons_iff {first : UInt8} {rest : Path} :
    start (first :: rest) = ([], first :: rest) ↔
      first ≠ slash ∧ ¬ (first = dot ∧ (rest = [] ∨ rest.head? = some slash)) := by
  rw [start]
  split
  · next root => simp [root]
  · next notRoot => simp [notRoot]

theorem exists_starts (path : Path) :
    ∃ anchor opening body, path = anchor ++ body ∧ Starts anchor opening body := by
  cases path with
  | nil => exact ⟨[], [], [], rfl, .plain rfl⟩
  | cons first rest =>
      by_cases root : first = slash
      · exact ⟨[slash], [.root], rest, by simp [root], .root rest⟩
      · by_cases here : first = dot ∧ (rest = [] ∨ rest.head? = some slash)
        · exact ⟨[dot], [.here], rest, by simp [here.1], .here here.2⟩
        · exact ⟨[], [], first :: rest, rfl, .plain (start_cons_iff.mpr ⟨root, here⟩)⟩

namespace Starts

variable {anchor body : Path} {opening : List Component} (starts : Starts anchor opening body)
include starts

theorem start_append : (anchor ++ body).start = (anchor, body) := by
  cases starts with
  | root => rfl
  | here parted => simp [start, parted, show dot ≠ slash by decide]
  | plain unanchored => exact unanchored

theorem components_append :
    components (anchor ++ body) = opening ++ body.names.map .named := by
  rw [components, starts.start_append]
  cases starts <;> rfl

theorem beginning_append : beginning (anchor ++ body) = opening := by
  cases starts with
  | root => rfl
  | here parted =>
      rcases parted with rfl | parted
      · rfl
      · rcases List.head?_eq_some_iff.mp parted with ⟨rest, rfl⟩
        rfl
  | plain unanchored =>
      cases body with
      | nil => rfl
      | cons first rest =>
          rcases start_cons_iff.mp unanchored with ⟨notRoot, notHere⟩
          have relative : isAbsolute (first :: rest) = false := by simpa [isAbsolute] using notRoot
          have elsewhere : startsHere (first :: rest) = false := by
            cases rest <;> simpa [startsHere] using notHere
          exact (if_neg (by simp [relative])).trans (if_neg (by simp [elsewhere]))

theorem names_append : names (anchor ++ body) = names body := by
  cases starts with
  | root => exact names_slash_cons body
  | here parted =>
      rcases parted with rfl | parted
      · rfl
      · rcases List.head?_eq_some_iff.mp parted with ⟨rest, rfl⟩
        exact (names_append_slash [dot] rest).trans (names_slash_cons rest).symm
  | plain => rfl

end Starts

theorem components_eq (path : Path) :
    path.components = path.beginning ++ path.names.map .named := by
  rcases exists_starts path with ⟨anchor, opening, body, rfl, starts⟩
  rw [starts.components_append, starts.beginning_append, starts.names_append]

theorem components_of_isAbsolute {path : Path} (isAbsolute : path.isAbsolute = true) :
    path.components = .root :: path.names.map .named := by
  rw [components_eq, beginning, if_pos isAbsolute]
  rfl

theorem beginning_cases (path : Path) :
    path.beginning = [] ∨ path.beginning = [.root] ∨ path.beginning = [.here] := by
  rw [beginning]
  split
  · exact .inr (.inl rfl)
  · split
    · exact .inr (.inr rfl)
    · exact .inl rfl

theorem named_mem_components_iff {path : Path} {name : ByteText} :
    .named name ∈ path.components ↔ name ∈ path.names := by
  rw [components_eq]
  rcases path.beginning_cases with start | start | start <;> simp [start]

/-! ## Joining a name -/

theorem isRelative_of_noSlash {name : ByteText} (noSlash : slash ∉ name) :
    isAbsolute name = false := by
  cases name with
  | nil => rfl
  | cons first rest =>
      have different : first ≠ slash := fun same => noSlash (by simp [same])
      simpa [isAbsolute] using different

def opened (path : Path) : Path := if path.endsInSlash then path else path ++ [slash]

theorem exists_opened_eq (path : Path) : ∃ added, path.opened = path ++ added := by
  rw [opened]
  split
  · exact ⟨[], (List.append_nil _).symm⟩
  · exact ⟨_, rfl⟩

theorem join_of_noSlash {path : Path} (nonempty : path ≠ []) {name : ByteText}
    (noSlash : slash ∉ name) : path.join name = path.opened ++ name := by
  rw [join, isRelative_of_noSlash noSlash, opened]
  cases ends : path.endsInSlash <;> simp [nonempty]

theorem exists_opened_eq_closed (path : Path) :
    ∃ front, path.opened = front ++ [slash] ∧ names front = names path := by
  rw [opened]
  split
  · next ends =>
      rcases List.getLast?_eq_some_iff.mp (by simpa [endsInSlash] using ends) with ⟨front, rfl⟩
      exact ⟨front, rfl, ((names_append_slash front []).trans (List.append_nil _)).symm⟩
  · exact ⟨path, rfl, rfl⟩

theorem names_opened_append (path after : Path) :
    names (path.opened ++ after) = names path ++ names after := by
  rcases exists_opened_eq_closed path with ⟨front, closed, sameNames⟩
  rw [closed, List.append_assoc, List.singleton_append, names_append_slash, sameNames]

/-- What is added to a path leaves alone what it starts from. Only a lone `.` has to be kept
apart from a name. -/
theorem beginning_append {path after : Path} (nonempty : path ≠ [])
    (keepsApart : path = [dot] → after = [] ∨ after.head? = some slash) :
    beginning (path ++ after) = beginning path := by
  match path with
  | [only] =>
      by_cases root : only = slash
      · simp [beginning, isAbsolute, root]
      · by_cases here : only = dot
        · subst here
          cases after with
          | nil => rfl
          | cons first rest =>
              have parts : first = slash := by simpa using keepsApart rfl
              simp [beginning, isAbsolute, startsHere, root, parts]
        · simp [beginning, isAbsolute, startsHere, root, here]
  | first :: second :: rest => simp [beginning, isAbsolute, startsHere]

theorem beginning_opened_append {path : Path} (nonempty : path ≠ []) (after : Path) :
    beginning (path.opened ++ after) = beginning path := by
  rw [opened]
  split
  · next ends =>
      refine beginning_append nonempty fun isDot => ?_
      rw [isDot] at ends
      exact absurd ends (by decide)
  · rw [List.append_assoc]
    exact beginning_append nonempty fun _ => .inr rfl

theorem components_join (path : Path) {name : ByteText} (isName : IsName name) :
    (path.join name).components = path.components ++ [.named name] := by
  rw [components_eq, components_eq]
  by_cases empty : path = []
  · subst empty
    have joined : join [] name = name := by simp [join]
    have nothing : beginning name = [] := by
      have apart : name.take 2 ≠ [dot, slash] := by
        intro begins
        have member : slash ∈ name.take 2 := by rw [begins]; simp
        exact isName.noSlash (List.mem_of_mem_take member)
      simp [beginning, isRelative_of_noSlash isName.noSlash, startsHere, isName.notHere, apart]
    rw [joined, nothing, names_of_isName isName]
    rfl
  · rw [join_of_noSlash empty isName.noSlash, beginning_opened_append empty, names_opened_append,
      names_of_isName isName, List.map_append, List.append_assoc]
    rfl

/-! ## Joining names and the absolute form -/

theorem not_endsInSlash_append {name : ByteText} (nonempty : name ≠ [])
    (noSlash : slash ∉ name) (path : Path) : endsInSlash (path ++ name) = false := by
  have last : (path ++ name).getLast? = name.getLast? := by
    rw [List.getLast?_append, Option.or_of_isSome (by simp [nonempty])]
  rw [endsInSlash, last, decide_eq_false_iff_not]
  intro slashLast
  exact noSlash (List.mem_of_getLast? slashLast)

theorem joinAll_names {path : Path} (nonempty : path ≠ []) {names : List ByteText}
    (areNames : ∀ name ∈ names, IsName name) (named : names ≠ []) :
    path.joinAll names = path.opened ++ ByteText.joined slash names := by
  fun_induction ByteText.joined slash names generalizing path with
  | case1 => exact absurd rfl named
  | case2 name => exact join_of_noSlash nonempty (areNames name List.mem_cons_self).noSlash
  | case3 name next others induction =>
      rw [List.forall_mem_cons] at areNames
      have first := join_of_noSlash nonempty areNames.1.noSlash
      have closed :=
        not_endsInSlash_append areNames.1.nonempty areNames.1.noSlash path.opened
      have later := induction (show path.opened ++ name ≠ [] by simp [areNames.1.nonempty])
        areNames.2 (List.cons_ne_nil _ _)
      rw [joinAll, List.foldl_cons, first]
      rw [joinAll] at later
      rw [later, opened, closed]
      simp

end Path

end ExampleBuild
