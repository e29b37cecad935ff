namespace ExampleBuild

/-! Byte texts are what an operating system hands over as an argument, a path, a
directory entry or an environment value. They are usually UTF-8, but nothing
promises that, so a byte text is kept as its bytes and read as characters only
where a rule needs characters. -/

abbrev ByteText := List UInt8

def utf8 (text : String) : ByteText := text.toByteArray.data.toList

theorem utf8_injective {left right : String} (equal : utf8 left = utf8 right) :
    left = right := by
  apply String.toByteArray_inj.mp
  apply ByteArray.ext
  exact Array.toList_inj.mp equal

theorem utf8_append (left right : String) : utf8 (left ++ right) = utf8 left ++ utf8 right := by
  simp [utf8, String.toByteArray_append]

theorem utf8_eq_flatMap (text : String) :
    utf8 text = text.toList.flatMap String.utf8EncodeChar := by
  have encoded : text.toByteArray = text.toList.utf8Encode := by
    rw [← String.toByteArray_ofList, String.ofList_toList]
  simp [utf8, encoded, List.utf8Encode]

theorem utf8_ne_nil {text : String} (nonempty : text ≠ "") : utf8 text ≠ [] := by
  intro empty
  exact nonempty (utf8_injective empty)

theorem not_mem_of_mem_splitOn {α : Type} [DecidableEq α] {separator : α} {values part : List α}
    (member : part ∈ values.splitOn separator) : separator ∉ part := by
  induction values generalizing part with
  | nil =>
      cases List.mem_singleton.mp member
      exact List.not_mem_nil
  | cons value rest induction =>
      rw [List.splitOn_cons_eq_if_modifyHead] at member
      split at member
      · rcases List.mem_cons.mp member with rfl | later
        · exact List.not_mem_nil
        · exact induction later
      · next different =>
          cases parts : rest.splitOn separator with
          | nil => exact absurd parts (List.splitOn_ne_nil separator rest)
          | cons first others =>
              rw [parts] at member induction
              rcases List.mem_cons.mp member with rfl | later
              · rw [List.mem_cons, not_or]
                exact ⟨fun same => different (by simp [same]), induction List.mem_cons_self⟩
              · exact induction (List.mem_cons_of_mem _ later)

namespace ByteText

/-! ## Strict reading -/

def decode? (bytes : ByteText) : Option String :=
  String.fromUTF8? ⟨bytes.toArray⟩

theorem decode?_utf8 (text : String) : decode? (utf8 text) = some text := by
  have valid := text.isValidUTF8
  simp [decode?, utf8, String.fromUTF8?, valid, String.fromUTF8]

theorem utf8_eq_of_decode? {bytes : ByteText} {text : String}
    (decoded : decode? bytes = some text) : utf8 text = bytes := by
  unfold decode? String.fromUTF8? at decoded
  split at decoded
  · cases decoded
    simp [utf8, String.fromUTF8]
  · cases decoded

theorem decode?_eq_some_iff {bytes : ByteText} {text : String} :
    decode? bytes = some text ↔ utf8 text = bytes :=
  ⟨utf8_eq_of_decode?, fun equal => equal ▸ decode?_utf8 text⟩

/-! ## Lossy reading

A byte text is cut into characters and into maximal ill-formed parts: the longest
beginning of a well-formed sequence that is not carried on, or else one byte. -/

inductive Piece
  | character (value : Char)
  | illFormed (bytes : ByteText)

def front? (bytes : ByteText) : Option Char :=
  ByteArray.utf8DecodeChar? ⟨(bytes.take 4).toArray⟩ 0

def isContinuation (byte : UInt8) : Bool := 0x80 ≤ byte && byte ≤ 0xBF

/-- The second bytes that may follow the first byte of a sequence of three or four
bytes: overlong forms, surrogates and values beyond the last code point are left out. -/
def mayContinue (first second : UInt8) : Bool :=
  if first = 0xE0 then 0xA0 ≤ second && second ≤ 0xBF
  else if first = 0xED then 0x80 ≤ second && second ≤ 0x9F
  else if first = 0xF0 then 0x90 ≤ second && second ≤ 0xBF
  else if first = 0xF4 then 0x80 ≤ second && second ≤ 0x8F
  else if 0xE1 ≤ first && first ≤ 0xF3 then isContinuation second
  else false

def illFormedLength : ByteText → Nat
  | first :: second :: rest =>
      if mayContinue first second then
        match rest with
        | third :: _ => if 0xF0 ≤ first && isContinuation third then 3 else 2
        | [] => 2
      else 1
  | _ => 1

/-- Cut a byte text into pieces. The first argument counts the bytes at the front
that belong to the piece before. -/
def piecesAfter : Nat → ByteText → List Piece
  | _, [] => []
  | skipped + 1, _ :: rest => piecesAfter skipped rest
  | 0, first :: rest =>
      match front? (first :: rest) with
      | some value => .character value :: piecesAfter (value.utf8Size - 1) rest
      | none =>
          let length := illFormedLength (first :: rest)
          .illFormed ((first :: rest).take length) :: piecesAfter (length - 1) rest

def pieces (bytes : ByteText) : List Piece := piecesAfter 0 bytes

def Piece.shown : Piece → Char
  | .character value => value
  | .illFormed _ => '\uFFFD'

/-- A byte text as it is shown to people: U+FFFD stands for each ill-formed part. -/
def shown (bytes : ByteText) : String :=
  String.ofList (bytes.pieces.map Piece.shown)

theorem front?_utf8EncodeChar_append (value : Char) (rest : ByteText) :
    front? (String.utf8EncodeChar value ++ rest) = some value := by
  have whole : (String.utf8EncodeChar value).take 4 = String.utf8EncodeChar value := by
    apply List.take_of_length_le
    simpa using value.utf8Size_le_four
  rw [front?, List.take_append, whole]
  generalize rest.take (4 - (String.utf8EncodeChar value).length) = after
  have bytes : (⟨(String.utf8EncodeChar value ++ after).toArray⟩ : ByteArray) =
      (String.utf8EncodeChar value).toByteArray ++ after.toByteArray := by
    apply ByteArray.ext
    simp
  rw [bytes, ByteArray.utf8DecodeChar?_utf8EncodeChar_append]

theorem piecesAfter_append (skipped rest : ByteText) :
    piecesAfter skipped.length (skipped ++ rest) = pieces rest := by
  induction skipped with
  | nil => rfl
  | cons byte others induction => simpa [piecesAfter] using induction

theorem pieces_utf8EncodeChar_append (value : Char) (rest : ByteText) :
    pieces (String.utf8EncodeChar value ++ rest) = .character value :: pieces rest := by
  have front := front?_utf8EncodeChar_append value rest
  have size : (String.utf8EncodeChar value).length = value.utf8Size := by simp
  cases encoded : String.utf8EncodeChar value with
  | nil => exact absurd encoded String.utf8EncodeChar_ne_nil
  | cons first others =>
      rw [encoded] at front size
      have length : value.utf8Size - 1 = others.length := by simp [← size]
      rw [pieces, List.cons_append, piecesAfter, ← List.cons_append, front]
      simp only [length, piecesAfter_append]

theorem pieces_utf8_append (text : String) (rest : ByteText) :
    pieces (utf8 text ++ rest) = text.toList.map .character ++ pieces rest := by
  rw [utf8_eq_flatMap]
  induction text.toList with
  | nil => rfl
  | cons value others induction =>
      rw [List.flatMap_cons, List.append_assoc, pieces_utf8EncodeChar_append, induction,
        List.map_cons, List.cons_append]

theorem pieces_utf8 (text : String) : pieces (utf8 text) = text.toList.map .character := by
  simpa [pieces, piecesAfter] using pieces_utf8_append text []

theorem toList_isPrefix {front text : String} (begins : utf8 front <+: utf8 text) :
    front.toList <+: text.toList := by
  rcases begins with ⟨rest, whole⟩
  have pieces : text.toList.map Piece.character =
      front.toList.map Piece.character ++ pieces rest := by
    rw [← pieces_utf8, ← whole, pieces_utf8_append]
  rcases List.map_eq_append_iff.mp pieces with ⟨before, after, split, same, -⟩
  rw [List.map_inj_right fun _ _ => Piece.character.inj] at same
  exact ⟨after, by rw [split, same]⟩

theorem shown_utf8 (text : String) : shown (utf8 text) = text := by
  rw [shown, pieces_utf8, List.map_map]
  simp [Function.comp_def, Piece.shown]

/-! ## Separators -/

/-- The parts of a byte text between the occurrences of a separator. There is one
part more than there are separators, so the empty text has one empty part. -/
def separated (separator : UInt8) : ByteText → List ByteText
  | [] => [[]]
  | byte :: rest =>
      if byte = separator then [] :: separated separator rest
      else
        match separated separator rest with
        | [] => [[byte]]
        | part :: parts => (byte :: part) :: parts

def joined (separator : UInt8) : List ByteText → ByteText
  | [] => []
  | [part] => part
  | part :: next :: parts => part ++ separator :: joined separator (next :: parts)

theorem separated_eq_splitOn (separator : UInt8) (bytes : ByteText) :
    separated separator bytes = bytes.splitOn separator := by
  induction bytes with
  | nil => rfl
  | cons byte rest induction =>
      rw [separated, List.splitOn_cons_eq_if_modifyHead, induction]
      by_cases equal : byte = separator
      · simp [equal]
      · simp only [equal, if_false, beq_iff_eq]
        cases parts : rest.splitOn separator with
        | nil => exact absurd parts (List.splitOn_ne_nil separator rest)
        | cons part others => rfl

theorem joined_eq_intercalate (separator : UInt8) (parts : List ByteText) :
    joined separator parts = [separator].intercalate parts := by
  fun_induction joined separator parts with
  | case1 => rfl
  | case2 part => simp
  | case3 part next others induction =>
      rw [induction, List.intercalate_cons_cons]
      simp

theorem separated_ne_nil (separator : UInt8) (bytes : ByteText) :
    separated separator bytes ≠ [] := by
  rw [separated_eq_splitOn]
  exact List.splitOn_ne_nil separator bytes

theorem joined_separated (separator : UInt8) (bytes : ByteText) :
    joined separator (separated separator bytes) = bytes := by
  rw [separated_eq_splitOn, joined_eq_intercalate]
  exact List.intercalate_splitOn separator

theorem separated_append_cons (separator : UInt8) (before after : ByteText) :
    separated separator (before ++ separator :: after) =
      separated separator before ++ separated separator after := by
  rw [separated_eq_splitOn, separated_eq_splitOn, separated_eq_splitOn]
  exact List.splitOn_append_cons_self before after

theorem not_mem_of_mem_separated {separator : UInt8} {bytes part : ByteText}
    (member : part ∈ bytes.separated separator) : separator ∉ part := by
  rw [separated_eq_splitOn] at member
  exact not_mem_of_mem_splitOn member

theorem separated_of_not_mem {separator : UInt8} {part : ByteText} (whole : separator ∉ part) :
    separated separator part = [part] := by
  rw [separated_eq_splitOn]
  exact List.splitOn_eq_singleton whole

/-! ## Order

Byte texts are ordered like words in a dictionary, byte by byte, and a text comes
before every text that carries it on. -/

def precedes : ByteText → ByteText → Bool
  | _, [] => false
  | [], _ :: _ => true
  | left :: lefts, right :: rights =>
      if left = right then precedes lefts rights else left < right

theorem precedes_iff_lt {left right : ByteText} : precedes left right = true ↔ left < right := by
  fun_induction precedes left right with
  | case1 left => simp [List.not_lt_nil]
  | case2 byte rest => simp [List.nil_lt_cons]
  | case3 byte lefts rights induction =>
      rw [induction, List.cons_lt_cons_iff]
      simp [UInt8.lt_irrefl]
  | case4 left lefts right rights different =>
      rw [List.cons_lt_cons_iff]
      simp [different]

theorem precedes_transitive {first second third : ByteText}
    (earlier : precedes first second = true) (later : precedes second third = true) :
    precedes first third = true := by
  rw [precedes_iff_lt] at earlier later ⊢
  exact List.lt_trans earlier later

theorem precedes_or_precedes {left right : ByteText} (different : left ≠ right) :
    precedes left right = true ∨ precedes right left = true := by
  rw [precedes_iff_lt, precedes_iff_lt]
  by_cases less : left < right
  · exact .inl less
  · refine .inr (Decidable.byContradiction fun notGreater => different ?_)
    exact List.le_antisymm (List.not_lt.mp notGreater) (List.not_lt.mp less)

end ByteText

end ExampleBuild
