import ExampleBuild.Proofs.Path.Names
import Mathlib.Data.List.Induction

namespace ExampleBuild

/-! The parent of a path is cut off from the end of its text: what leads nowhere goes, then the
last name, then again what leads nowhere. Read from the front it is the shortest beginning of
the text that has all components of the path but the last. -/

namespace Path

/-! ## Beginnings of a text -/

/-- The shortest beginning of a text that is as wanted. -/
structure IsShortestBeginning (isWanted : Path → Prop) (text front : Path) : Prop where
  isBeginning : front <+: text
  wanted : isWanted front
  shortest : ∀ other, other <+: text → isWanted other → front.length ≤ other.length

namespace IsShortestBeginning

variable {isWanted : Path → Prop} {text front : Path}

theorem extend (found : IsShortestBeginning isWanted text front) {longer : Path}
    (begins : text <+: longer) : IsShortestBeginning isWanted longer front where
  isBeginning := found.isBeginning.trans begins
  wanted := found.wanted
  shortest other isBeginning wanted := by
    rcases List.prefix_or_prefix_of_prefix isBeginning begins with within | beyond
    · exact found.shortest other within wanted
    · exact Nat.le_trans found.isBeginning.length_le beyond.length_le

end IsShortestBeginning

/-! ## Names, one byte after another -/

/-- No name is open at the end of a text, so what follows starts another one. -/
def IsClosed (text : Path) : Prop := text = [] ∨ text.endsInSlash = true

instance (text : Path) : Decidable text.IsClosed := inferInstanceAs (Decidable (_ ∨ _))

/-- What may follow a text without leading anywhere. -/
def IsIdleAfter (text : Path) (byte : UInt8) : Prop := byte = slash ∨ byte = dot ∧ text.IsClosed

instance (text : Path) (byte : UInt8) : Decidable (text.IsIdleAfter byte) :=
  inferInstanceAs (Decidable (_ ∨ _))

theorem isClosed_append_slash (text : Path) : IsClosed (text ++ [slash]) :=
  .inr (by simp [endsInSlash])

theorem names_append_of_isClosed {text : Path} (closed : text.IsClosed) (after : Path) :
    names (text ++ after) = names text ++ names after := by
  rcases closed with rfl | ends
  · rfl
  · have opened : text.opened = text := if_pos ends
    rw [← names_opened_append, opened]

theorem exists_lastPart (text : Path) :
    ∃ folder last, text = folder ++ last ∧ IsClosed folder ∧ slash ∉ last := by
  induction text using List.reverseRecOn with
  | nil => exact ⟨[], [], rfl, .inl rfl, List.not_mem_nil⟩
  | append_singleton text byte induction =>
      rcases induction with ⟨folder, last, rfl, closed, whole⟩
      by_cases parts : byte = slash
      · subst parts
        exact ⟨folder ++ last ++ [slash], [], by simp, isClosed_append_slash _, List.not_mem_nil⟩
      · exact ⟨folder, last ++ [byte], by simp, closed, by simp [whole, Ne.symm parts]⟩

theorem names_append_idle {text : Path} {byte : UInt8} (idle : text.IsIdleAfter byte) :
    names (text ++ [byte]) = names text := by
  rcases idle with rfl | ⟨rfl, closed⟩
  · exact (names_append_slash text []).trans (List.append_nil _)
  · exact (names_append_of_isClosed closed [dot]).trans (List.append_nil _)

theorem exists_name_of_busy {text : Path} {byte : UInt8} (busy : ¬ text.IsIdleAfter byte) :
    ∃ folder last, text = folder ++ last ∧ IsClosed folder ∧ IsName (last ++ [byte]) := by
  rcases exists_lastPart text with ⟨folder, last, rfl, closed, whole⟩
  rw [IsIdleAfter, not_or, not_and] at busy
  refine ⟨folder, last, rfl, closed, by simp, fun isDot => ?_, by simp [whole, Ne.symm busy.1]⟩
  rcases List.append_eq_singleton_iff.mp isDot with ⟨rfl, here⟩ | ⟨-, nothing⟩
  · exact busy.2 (List.singleton_inj.mp here) (by rwa [List.append_nil])
  · cases nothing

def namedLength (text : Path) : Nat := text.names.flatten.length

theorem namedLength_of_names_eq {left right : Path} (same : left.names = right.names) :
    namedLength left = namedLength right := by
  rw [namedLength, same, namedLength]

theorem namedLength_append_of_isClosed {text : Path} (closed : text.IsClosed) (after : Path) :
    namedLength (text ++ after) = namedLength text + namedLength after := by
  rw [namedLength, names_append_of_isClosed closed, List.flatten_append, List.length_append]
  rfl

theorem namedLength_of_isName {name : ByteText} (isName : IsName name) :
    namedLength name = name.length := by
  rw [namedLength, names_of_isName isName, List.flatten_singleton]

theorem namedLength_le {part : ByteText} (whole : slash ∉ part) :
    namedLength part ≤ part.length := by
  rw [namedLength, names, ByteText.separated_of_not_mem whole, List.filter_cons]
  split <;> simp

theorem namedLength_append_busy {text : Path} {byte : UInt8} (busy : ¬ text.IsIdleAfter byte) :
    namedLength text < namedLength (text ++ [byte]) := by
  rcases exists_name_of_busy busy with ⟨folder, last, rfl, closed, isName⟩
  have whole : slash ∉ last := fun inside => isName.noSlash (List.mem_append_left _ inside)
  have before := namedLength_le whole
  rw [List.append_assoc, namedLength_append_of_isClosed closed,
    namedLength_append_of_isClosed closed, namedLength_of_isName isName, List.length_append,
    List.length_singleton]
  omega

theorem namedLength_mono {front text : Path} (begins : front <+: text) :
    namedLength front ≤ namedLength text := by
  induction text using List.reverseRecOn with
  | nil => exact Nat.le_of_eq (by rw [List.prefix_nil.mp begins])
  | append_singleton text byte induction =>
      rcases List.prefix_concat_iff.mp begins with rfl | earlier
      · exact Nat.le_refl _
      · apply Nat.le_trans (induction earlier)
        by_cases idle : IsIdleAfter text byte
        · exact Nat.le_of_eq (namedLength_of_names_eq (names_append_idle idle).symm)
        · exact Nat.le_of_lt (namedLength_append_busy idle)

/-! ## Without the idle end -/

def trimmed (text : Path) : Path := (withoutIdleEnd text.reverse).reverse

theorem trimmed_append (text : Path) (byte : UInt8) :
    trimmed (text ++ [byte]) = if text.IsIdleAfter byte then trimmed text else text ++ [byte] := by
  have condition : text.IsIdleAfter byte ↔ byte = slash ∨
      (byte = dot && (text.reverse = [] || text.reverse.head? = some slash)) = true := by
    simp [IsIdleAfter, IsClosed, endsInSlash]
  rw [trimmed, List.reverse_append, List.reverse_singleton, List.singleton_append,
    withoutIdleEnd]
  by_cases parts : byte = slash
  · rw [if_pos parts, if_pos (.inl parts), trimmed]
  · rw [if_neg parts]
    simp only [condition, parts, false_or]
    split
    · rfl
    · simp

/-- Cutting the idle end off keeps all names, and whatever is shorter loses some of them. -/
theorem trimmed_isShortest (text : Path) :
    IsShortestBeginning (fun front => front.names = text.names) text text.trimmed := by
  -- From the end of the text, as it is cut. A byte that stays is part of a name, so that
  -- whatever ends before it has fewer bytes in its names.
  induction text using List.reverseRecOn with
  | nil => exact ⟨List.prefix_rfl, rfl, fun other _ _ => Nat.zero_le _⟩
  | append_singleton text byte induction =>
      rw [trimmed_append]
      split
      · next idle =>
          simp only [names_append_idle idle]
          exact induction.extend (List.prefix_append text [byte])
      · next busy =>
          refine ⟨List.prefix_rfl, rfl, fun other begins sameNames => ?_⟩
          rcases List.prefix_concat_iff.mp begins with rfl | earlier
          · exact Nat.le_refl _
          · have fewer := namedLength_mono earlier
            have more := namedLength_append_busy busy
            have same := namedLength_of_names_eq sameNames
            omega

theorem trimmed_eq_nil_iff {text : Path} : text.trimmed = [] ↔ text.names = [] := by
  have found := text.trimmed_isShortest
  constructor
  · intro empty
    rw [← found.wanted, empty]
    rfl
  · intro unnamed
    have shorter := found.shortest [] List.nil_prefix unnamed.symm
    exact List.length_eq_zero_iff.mp (Nat.le_zero.mp shorter)

theorem exists_trimmed_eq {text : Path} (named : text.names ≠ []) :
    ∃ folder name, text.trimmed = folder ++ name ∧ IsClosed folder ∧ IsName name := by
  induction text using List.reverseRecOn with
  | nil => exact absurd rfl named
  | append_singleton text byte induction =>
      rw [trimmed_append]
      split
      · next idle =>
          rw [names_append_idle idle] at named
          exact induction named
      · next busy =>
          rcases exists_name_of_busy busy with ⟨folder, last, rfl, closed, isName⟩
          exact ⟨folder, last ++ [byte], List.append_assoc _ _ _, closed, isName⟩

/-! ## With what a path starts from -/

namespace Starts

variable {anchor body : Path} {opening : List Component} (starts : Starts anchor opening body)
include starts

theorem of_isPrefix {front : Path} (begins : front <+: body)
    (apart : anchor = [] → front ≠ [dot]) : Starts anchor opening front := by
  rcases begins with ⟨rest, rfl⟩
  cases starts with
  | root => exact .root front
  | here parted =>
      cases front with
      | nil => exact .here (.inl rfl)
      | cons first others => exact .here (.inr (by simpa using parted))
  | plain unanchored =>
      cases front with
      | nil => exact .plain rfl
      | cons first others =>
          rcases start_cons_iff.mp unanchored with ⟨notRoot, notHere⟩
          refine .plain (start_cons_iff.mpr ⟨notRoot, ?_⟩)
          rintro ⟨rfl, rfl | parted⟩
          · exact apart rfl rfl
          · exact notHere ⟨rfl, .inr (by simp [parted])⟩

theorem exists_front {other : Path} {names : List ByteText} (begins : other <+: anchor ++ body)
    (same : other.components = opening ++ names.map .named) :
    ∃ front, other = anchor ++ front ∧ front <+: body ∧ front.names = names := by
  have goesOn : ∃ front, other = anchor ++ front ∧ front <+: body ∧
      (anchor = [] → front ≠ [dot]) := by
    cases starts with
    | root =>
        rcases List.prefix_cons_iff.mp begins with rfl | ⟨front, rfl, goesOn⟩
        · cases same
        · exact ⟨front, rfl, goesOn, fun nothing => nomatch nothing⟩
    | here =>
        rcases List.prefix_cons_iff.mp begins with rfl | ⟨front, rfl, goesOn⟩
        · cases same
        · exact ⟨front, rfl, goesOn, fun nothing => nomatch nothing⟩
    | plain =>
        refine ⟨other, rfl, begins, ?_⟩
        rintro - rfl
        cases names <;> cases same
  rcases goesOn with ⟨front, rfl, begins, apart⟩
  rw [(starts.of_isPrefix begins apart).components_append] at same
  have sameNames : front.names = names :=
    (List.map_inj_right fun _ _ => Component.named.inj).mp (List.append_cancel_left same)
  exact ⟨front, rfl, begins, sameNames⟩

theorem isShortestBeginning {front : Path} {names : List ByteText}
    (found : IsShortestBeginning (fun front => front.names = names) body front) :
    IsShortestBeginning (fun front => front.components = opening ++ names.map .named)
      (anchor ++ body) (anchor ++ front) where
  isBeginning := (List.prefix_append_right_inj anchor).mpr found.isBeginning
  wanted := by
    have apart : front ≠ [dot] := by
      rintro rfl
      have shorter := found.shortest [] List.nil_prefix found.wanted
      simp at shorter
    rw [(starts.of_isPrefix found.isBeginning fun _ => apart).components_append, found.wanted]
  shortest other begins wanted := by
    rcases starts.exists_front begins wanted with ⟨shorter, rfl, begins, sameNames⟩
    simpa using found.shortest shorter begins sameNames

end Starts

/-! ## The parent -/

def HasAllButLast (path front : Path) : Prop := front.components = path.components.dropLast

theorem dropWhile_reverse_append {folder name : Path} (closed : folder.IsClosed)
    (whole : slash ∉ name) :
    (folder ++ name).reverse.dropWhile (· ≠ slash) = folder.reverse := by
  have inName : ∀ byte ∈ name.reverse, (byte ≠ slash : Bool) = true := by
    intro byte member
    have different : byte ≠ slash := by
      rintro rfl
      exact whole (List.mem_reverse.mp member)
    simpa using different
  rw [List.reverse_append, List.dropWhile_append_of_pos inName]
  rcases closed with rfl | ends
  · rfl
  · rcases List.getLast?_eq_some_iff.mp (by simpa [endsInSlash] using ends) with ⟨front, rfl⟩
    simp

namespace Starts

variable {anchor body : Path} {opening : List Component} (starts : Starts anchor opening body)
include starts

theorem parent?_of_unnamed (unnamed : body.names = []) :
    parent? (anchor ++ body) = if anchor = [dot] then some [] else none := by
  have idle : withoutIdleEnd body.reverse = [] := by
    simpa [trimmed] using trimmed_eq_nil_iff.mpr unnamed
  rw [parent?, starts.start_append]
  simp only [idle]

theorem parent?_of_trimmed {folder name : Path} (cut : body.trimmed = folder ++ name)
    (closed : folder.IsClosed) (isName : IsName name) :
    parent? (anchor ++ body) = some (anchor ++ folder.trimmed) := by
  have reversed : withoutIdleEnd body.reverse = (folder ++ name).reverse := by
    rw [← cut, trimmed, List.reverse_reverse]
  rw [parent?, starts.start_append]
  simp only [reversed]
  split
  · next nothing => simp [isName.nonempty] at nothing
  · rw [dropWhile_reverse_append closed isName.noSlash, trimmed]

theorem exists_parent (named : body.names ≠ []) :
    ∃ parent, parent? (anchor ++ body) = some parent ∧
      IsShortestBeginning (HasAllButLast (anchor ++ body)) (anchor ++ body) parent := by
  rcases exists_trimmed_eq named with ⟨folder, name, cut, closed, isName⟩
  have kept := body.trimmed_isShortest
  rw [cut] at kept
  have lastName : body.names = folder.names ++ [name] := by
    rw [← kept.wanted, names_append_of_isClosed closed, names_of_isName isName]
  have allButLast : (components (anchor ++ body)).dropLast =
      opening ++ folder.names.map .named := by
    rw [starts.components_append, lastName, List.map_append, ← List.append_assoc]
    exact List.dropLast_concat
  have begins : folder <+: body := (List.prefix_append folder name).trans kept.isBeginning
  refine ⟨anchor ++ folder.trimmed, starts.parent?_of_trimmed cut closed isName, ?_⟩
  unfold HasAllButLast
  rw [allButLast]
  exact starts.isShortestBeginning (folder.trimmed_isShortest.extend begins)

end Starts

theorem parent?_cases (path : Path) :
    (path.parent? = none ∧ (path.components = [] ∨ path.components = [.root])) ∨
    ∃ parent, path.parent? = some parent ∧ path.components ≠ [] ∧ path.components ≠ [.root] ∧
      IsShortestBeginning (HasAllButLast path) path parent := by
  rcases exists_starts path with ⟨anchor, opening, body, rfl, starts⟩
  have components := starts.components_append
  by_cases unnamed : body.names = []
  · have parent := starts.parent?_of_unnamed unnamed
    rw [unnamed, List.map_nil, List.append_nil] at components
    cases starts with
    | root => exact .inl ⟨parent, .inr components⟩
    | here =>
        -- All components but the last are none here, and the empty text has just these.
        have wanted : HasAllButLast ([dot] ++ body) [] := by
          rw [HasAllButLast, components]
          rfl
        refine .inr ⟨[], parent, ?_, ?_, List.nil_prefix, wanted, fun _ _ _ => Nat.zero_le _⟩
        · rw [components]
          exact List.cons_ne_nil _ _
        · rw [components]
          decide
    | plain => exact .inl ⟨parent, .inl components⟩
  · rcases starts.exists_parent unnamed with ⟨parent, found, shortest⟩
    rcases List.exists_cons_of_ne_nil unnamed with ⟨first, others, named⟩
    refine .inr ⟨parent, found, ?_, ?_, shortest⟩
    · simp [components, named]
    · rw [components, named]
      cases starts <;> simp

theorem isAbsolute_of_isPrefix {path front : Path} (begins : front <+: path)
    (nonempty : front ≠ []) : front.isAbsolute = path.isAbsolute := by
  rcases begins with ⟨rest, rfl⟩
  cases front with
  | nil => exact absurd rfl nonempty
  | cons first others => rfl

theorem components_append_slash {path : Path} (nonempty : path ≠ []) :
    components (path ++ [slash]) = components path := by
  have sameBeginning : beginning (path ++ [slash]) = beginning path :=
    beginning_append nonempty fun _ => .inr rfl
  rw [components_eq, components_eq, sameBeginning, names_append_idle (.inl rfl)]

section

variable {path parent : Path} (found : IsShortestBeginning (HasAllButLast path) path parent)
include found

theorem parent_ne_nil_iff : parent ≠ [] ↔ 2 ≤ path.components.length := by
  have length : parent.components.length = path.components.length - 1 := by
    rw [found.wanted, List.length_dropLast]
  constructor
  · intro nonempty
    by_contra few
    have allButLast : path.components.dropLast = [] := by
      apply List.eq_nil_of_length_eq_zero
      rw [List.length_dropLast]
      omega
    have wanted : HasAllButLast path [] := allButLast.symm
    have shorter := found.shortest [] List.nil_prefix wanted
    exact nonempty (List.length_eq_zero_iff.mp (Nat.le_zero.mp shorter))
  · rintro several rfl
    have none : (components []).length = 0 := rfl
    omega

theorem parent_eq_root (ends : parent.endsInSlash = true) : parent = [slash] := by
  rcases List.getLast?_eq_some_iff.mp (by simpa [endsInSlash] using ends) with ⟨front, rfl⟩
  by_cases alone : front = []
  · rw [alone, List.nil_append]
  · have wanted : HasAllButLast path front :=
      (components_append_slash alone).symm.trans found.wanted
    have begins : front <+: path := (List.prefix_append front [slash]).trans found.isBeginning
    have shorter := found.shortest front begins wanted
    rw [List.length_append, List.length_singleton] at shorter
    omega

end

end Path

end ExampleBuild
