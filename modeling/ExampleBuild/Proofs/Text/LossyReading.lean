import ExampleBuild.Text.ByteText
import Mathlib.Data.FinEnum

namespace ExampleBuild

/-! Lossy reading cuts a byte text into pieces and replaces only the ill-formed ones. No piece
goes on at an ASCII byte, so a text that such bytes separate is shown part by part. -/

namespace ByteText

/-! ## One piece at a time -/

theorem front?_eq_some_iff {bytes : ByteText} {value : Char} :
    front? bytes = some value ↔ ∃ rest, bytes = String.utf8EncodeChar value ++ rest := by
  constructor
  · intro found
    rcases ByteArray.exists_of_utf8DecodeChar?_eq_some found with ⟨after, split⟩
    have taken : bytes.take 4 = String.utf8EncodeChar value ++ after.data.toList := by
      simpa using congrArg (fun array => array.data.toList) split
    exact ⟨after.data.toList ++ bytes.drop 4, by
      rw [← List.append_assoc, ← taken, List.take_append_drop]⟩
  · rintro ⟨rest, rfl⟩
    exact front?_utf8EncodeChar_append value rest

theorem illFormedLength_bounds {bytes : ByteText} (nonempty : bytes ≠ []) :
    1 ≤ illFormedLength bytes ∧ illFormedLength bytes ≤ bytes.length := by
  have positive := List.length_pos_iff.mpr nonempty
  fun_cases illFormedLength bytes <;> simp_all [Nat.succ_le_iff]

theorem piecesAfter_eq (skipped : Nat) (bytes : ByteText) :
    piecesAfter skipped bytes = pieces (bytes.drop skipped) := by
  induction bytes generalizing skipped with
  | nil => simp [piecesAfter, pieces]
  | cons first rest induction =>
      cases skipped with
      | zero => rfl
      | succ skipped => simpa [piecesAfter] using induction skipped

theorem pieces_of_illFormed {bytes : ByteText} (nonempty : bytes ≠ [])
    (noFront : front? bytes = none) :
    pieces bytes = .illFormed (bytes.take (illFormedLength bytes)) ::
      pieces (bytes.drop (illFormedLength bytes)) := by
  rcases Nat.exists_eq_add_of_le' (illFormedLength_bounds nonempty).1 with ⟨others, length⟩
  cases bytes with
  | nil => exact absurd rfl nonempty
  | cons first rest =>
      rw [pieces, piecesAfter, noFront]
      simp only [length, Nat.add_sub_cancel, piecesAfter_eq, List.drop_succ_cons]

/-- What holds of the empty text, and of a text if it does of what follows the piece at the
front, holds of every text. -/
@[elab_as_elim]
theorem pieceInduction {motive : ByteText → Prop} (nil : motive [])
    (character : ∀ value rest, motive rest → motive (String.utf8EncodeChar value ++ rest))
    (illFormed : ∀ bytes, bytes ≠ [] → front? bytes = none →
      motive (bytes.drop (illFormedLength bytes)) → motive bytes)
    (bytes : ByteText) : motive bytes := by
  induction length : bytes.length using Nat.strongRecOn generalizing bytes with
  | ind length shorter =>
      subst length
      by_cases empty : bytes = []
      · exact empty ▸ nil
      cases found : front? bytes with
      | some value =>
          rcases front?_eq_some_iff.mp found with ⟨rest, rfl⟩
          have size := List.length_pos_iff.mpr (String.utf8EncodeChar_ne_nil (c := value))
          exact character value rest (shorter _ (by simpa using size) rest rfl)
      | none =>
          have positive := List.length_pos_iff.mpr empty
          have bounds := illFormedLength_bounds empty
          have less : (bytes.drop (illFormedLength bytes)).length < bytes.length := by
            rw [List.length_drop]
            omega
          exact illFormed bytes empty found (shorter _ less _ rfl)

/-! ## Cutting loses nothing -/

def Piece.bytes : Piece → ByteText
  | .character value => String.utf8EncodeChar value
  | .illFormed bytes => bytes

theorem flatMap_bytes_pieces (bytes : ByteText) : bytes.pieces.flatMap Piece.bytes = bytes := by
  induction bytes using pieceInduction with
  | nil => rfl
  | character value rest induction =>
      rw [pieces_utf8EncodeChar_append, List.flatMap_cons, induction, Piece.bytes]
  | illFormed bytes nonempty noFront induction =>
      rw [pieces_of_illFormed nonempty noFront, List.flatMap_cons, induction, Piece.bytes,
        List.take_append_drop]

theorem eq_map_character {pieces : List Piece} {values : List Char}
    (wellFormed : '\uFFFD' ∉ values) (shown : pieces.map Piece.shown = values) :
    pieces = values.map .character := by
  subst shown
  rw [List.map_map]
  refine (List.map_id _).symm.trans (List.map_congr_left fun piece member => ?_)
  cases piece with
  | character value => rfl
  | illFormed bytes => exact absurd (List.mem_map_of_mem member) wellFormed

theorem shown_eq_iff {bytes : ByteText} {text : String} (wellFormed : '\uFFFD' ∉ text.toList) :
    bytes.shown = text ↔ bytes = utf8 text := by
  constructor
  · intro same
    have pieces : bytes.pieces = text.toList.map .character := by
      apply eq_map_character wellFormed
      rw [← same, shown, String.toList_ofList]
    rw [← flatMap_bytes_pieces bytes, pieces, utf8_eq_flatMap, List.flatMap_map]
    rfl
  · rintro rfl
    exact shown_utf8 text

/-! ## ASCII bytes -/

theorem mem_of_mem_shown {byte : UInt8} (ascii : byte < 0x80) {bytes : ByteText}
    (member : byte ∈ utf8 bytes.shown) : byte ∈ bytes := by
  rw [utf8_eq_flatMap, shown, String.toList_ofList, List.flatMap_map] at member
  rcases List.mem_flatMap.mp member with ⟨piece, isPiece, encoded⟩
  cases piece with
  | character value =>
      rw [← flatMap_bytes_pieces bytes]
      exact List.mem_flatMap.mpr ⟨_, isPiece, encoded⟩
  | illFormed part =>
      have notAscii : ∀ other ∈ String.utf8EncodeChar '\uFFFD', ¬ other < 0x80 := by
        decide +kernel
      exact absurd ascii (notAscii byte encoded)

theorem isFirstByte_of_ascii {byte : UInt8} (ascii : byte < 0x80) : byte.IsUTF8FirstByte :=
  have highBit : ∀ byte : UInt8, byte < 0x80 → byte &&& 0x80 = 0 := by decide +kernel
  .inl (highBit byte ascii)

theorem isContinuation_of_ascii {byte : UInt8} (ascii : byte < 0x80) :
    isContinuation byte = false := by
  grind [isContinuation]

theorem mayContinue_of_ascii {byte : UInt8} (ascii : byte < 0x80) (first : UInt8) :
    mayContinue first byte = false := by
  grind [mayContinue, isContinuation]

theorem eq_nil_of_utf8EncodeChar_eq {byte : UInt8} (ascii : byte < 0x80) {value : Char}
    {before after : ByteText} (encoded : String.utf8EncodeChar value = before ++ byte :: after) :
    before = [] := by
  have within : before.length < (String.utf8EncodeChar value).length := by simp [encoded]
  have here : (String.utf8EncodeChar value)[before.length] = byte := by simp [encoded]
  have isFirst := isFirstByte_of_ascii ascii
  rw [← here, UInt8.isUTF8FirstByte_getElem_utf8EncodeChar] at isFirst
  exact List.length_eq_zero_iff.mp isFirst

theorem front?_append_cons {byte : UInt8} (ascii : byte < 0x80) {before : ByteText}
    (nonempty : before ≠ []) (noFront : front? before = none) (after : ByteText) :
    front? (before ++ byte :: after) = none := by
  have unread (value : Char) (rest : ByteText) :
      before ≠ String.utf8EncodeChar value ++ rest := by
    intro whole
    simp [front?_eq_some_iff.mpr ⟨rest, whole⟩] at noFront
  by_contra found
  rcases Option.ne_none_iff_exists'.mp found with ⟨value, found⟩
  rcases front?_eq_some_iff.mp found with ⟨rest, split⟩
  rcases List.append_eq_append_iff.mp split with ⟨added, encoded, others⟩ | ⟨added, whole, -⟩
  · cases added with
    | nil => exact unread value [] (by simpa using encoded.symm)
    | cons head tail =>
        rw [List.cons_append, List.cons.injEq] at others
        rw [← others.1] at encoded
        exact nonempty (eq_nil_of_utf8EncodeChar_eq ascii encoded)
  · exact unread value added whole

theorem illFormedLength_append_cons {byte : UInt8} (ascii : byte < 0x80) {before : ByteText}
    (nonempty : before ≠ []) (after : ByteText) :
    illFormedLength (before ++ byte :: after) = illFormedLength before := by
  match before with
  | [first] => simp [illFormedLength, mayContinue_of_ascii ascii]
  | [first, second] => simp [illFormedLength, isContinuation_of_ascii ascii]
  | first :: second :: third :: rest => rfl

theorem pieces_append_cons {byte : UInt8} (ascii : byte < 0x80) (before after : ByteText) :
    pieces (before ++ byte :: after) = pieces before ++ pieces (byte :: after) := by
  induction before using pieceInduction with
  | nil => rfl
  | character value rest induction =>
      rw [List.append_assoc, pieces_utf8EncodeChar_append, pieces_utf8EncodeChar_append,
        induction, List.cons_append]
  | illFormed before nonempty noFront induction =>
      have short := (illFormedLength_bounds nonempty).2
      rw [pieces_of_illFormed (by simp) (front?_append_cons ascii nonempty noFront after),
        illFormedLength_append_cons ascii nonempty, List.take_append_of_le_length short,
        List.drop_append_of_le_length short, induction, pieces_of_illFormed nonempty noFront,
        List.cons_append]

/-! ## Separated texts -/

def legible (bytes : ByteText) : ByteText := utf8 bytes.shown

theorem legible_utf8 (text : String) : legible (utf8 text) = utf8 text := by
  rw [legible, shown_utf8]

theorem legible_eq_iff {bytes : ByteText} {text : String} (wellFormed : '\uFFFD' ∉ text.toList) :
    bytes.legible = utf8 text ↔ bytes = utf8 text := by
  have spelled : bytes.legible = utf8 text ↔ bytes.shown = text :=
    ⟨fun same => utf8_injective same, fun same => by rw [legible, same]⟩
  exact spelled.trans (shown_eq_iff wellFormed)

section

variable {separator : UInt8} {value : Char}

theorem legible_append_cons (ascii : separator < 0x80)
    (encoded : String.utf8EncodeChar value = [separator]) (before after : ByteText) :
    legible (before ++ separator :: after) = before.legible ++ separator :: after.legible := by
  have front : pieces (separator :: after) = .character value :: pieces after := by
    rw [← pieces_utf8EncodeChar_append, encoded, List.singleton_append]
  rw [legible, shown, pieces_append_cons ascii, front, List.map_append, List.map_cons,
    utf8_eq_flatMap, String.toList_ofList, List.flatMap_append, List.flatMap_cons, Piece.shown,
    encoded, legible, legible, utf8_eq_flatMap, utf8_eq_flatMap]
  simp [shown]

theorem legible_joined (ascii : separator < 0x80)
    (encoded : String.utf8EncodeChar value = [separator]) (parts : List ByteText) :
    legible (joined separator parts) = joined separator (parts.map legible) := by
  fun_induction joined separator parts with
  | case1 => rfl
  | case2 part => rfl
  | case3 part next others induction =>
      rw [legible_append_cons ascii encoded, induction]
      rfl

theorem separated_legible (ascii : separator < 0x80)
    (encoded : String.utf8EncodeChar value = [separator]) (bytes : ByteText) :
    separated separator bytes.legible = (separated separator bytes).map legible := by
  have parted : ∀ part ∈ (separated separator bytes).map legible, separator ∉ part := by
    intro part member
    rcases List.mem_map.mp member with ⟨own, isPart, rfl⟩
    exact fun inside => not_mem_of_mem_separated isPart (mem_of_mem_shown ascii inside)
  nth_rewrite 1 [← joined_separated separator bytes]
  rw [legible_joined ascii encoded, joined_eq_intercalate, separated_eq_splitOn]
  exact List.splitOn_intercalate _ parted (by simp [separated_ne_nil])

end

end ByteText

end ExampleBuild
