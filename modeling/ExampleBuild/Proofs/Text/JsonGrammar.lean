namespace ExampleBuild

/-! How JSON is written, and what each text says. A text is a value with spaces around it,
and what it says is a tree. The rules are those of the JSON grammar, so they know more than
is ever printed here: every escape, and numbers and truth values of all kinds. Strings say one
thing each, and numbers have letters of their own. -/

mutual
inductive JsonTree where
  | null
  | truth (value : Bool)
  /-- A number is what its literal says, and the literal is kept. -/
  | number (literal : List Char)
  | string (text : String)
  | array (items : JsonTrees)
  | object (members : JsonBranches)

inductive JsonTrees where
  | nil
  | cons (head : JsonTree) (tail : JsonTrees)

inductive JsonBranches where
  | nil
  | cons (name : String) (value : JsonTree) (tail : JsonBranches)
end

namespace JsonText

/-! ## The grammar -/

def isSpace (letter : Char) : Bool :=
  letter = ' ' || letter = '\t' || letter = '\n' || letter = '\r'

def AreSpaces (text : List Char) : Prop := ∀ letter ∈ text, isSpace letter = true

/-! Numbers have digits, and may have a sign, a fraction and an exponent. Only the number
zero starts with a zero, or what is below one with its fraction. -/

def AreDigits (text : List Char) : Prop :=
  text ≠ [] ∧ ∀ letter ∈ text, letter.isDigit = true

def IsWhole (text : List Char) : Prop :=
  AreDigits text ∧ (text.head? = some '0' → text = ['0'])

def IsFraction (text : List Char) : Prop :=
  text = [] ∨ ∃ digits, AreDigits digits ∧ text = '.' :: digits

def IsExponent (text : List Char) : Prop :=
  text = [] ∨ ∃ mark sign digits, mark ∈ ['e', 'E'] ∧ sign ∈ [[], ['+'], ['-']] ∧
    AreDigits digits ∧ text = mark :: sign ++ digits

inductive IsNumber : List Char → Prop
  | parts {sign whole fraction exponent : List Char} (signed : sign ∈ [[], ['-']])
      (isWhole : IsWhole whole) (isFraction : IsFraction fraction)
      (isExponent : IsExponent exponent) :
      IsNumber (sign ++ whole ++ fraction ++ exponent)

/-! Strings stand between quotes. A character stands for itself, or it is escaped: by a
letter of its own, or by its code in four hexadecimal digits, or if that is too large for
them, by two codes that make a pair. -/

def hexValue? (digit : Char) : Option Nat :=
  if '0' ≤ digit && digit ≤ '9' then some (digit.toNat - 48)
  else if 'a' ≤ digit && digit ≤ 'f' then some (digit.toNat - 87)
  else if 'A' ≤ digit && digit ≤ 'F' then some (digit.toNat - 55)
  else none

def code? : List Char → Option Nat
  | [first, second, third, fourth] =>
      match hexValue? first, hexValue? second, hexValue? third, hexValue? fourth with
      | some first, some second, some third, some fourth =>
          some (((first * 16 + second) * 16 + third) * 16 + fourth)
      | _, _, _, _ => none
  | _ => none

def shortEscapes : List (Char × Char) :=
  [('"', '"'), ('\\', '\\'), ('/', '/'), ('b', '\x08'), ('f', '\x0c'), ('n', '\n'),
   ('r', '\r'), ('t', '\t')]

inductive IsLetter : List Char → Char → Prop
  | plain {letter : Char} (printable : 32 ≤ letter.toNat) (noQuote : letter ≠ '"')
      (noBackslash : letter ≠ '\\') : IsLetter [letter] letter
  | short {mark letter : Char} (listed : (mark, letter) ∈ shortEscapes) :
      IsLetter ['\\', mark] letter
  | coded {digits : List Char} {letter : Char} (code : code? digits = some letter.toNat) :
      IsLetter ('\\' :: 'u' :: digits) letter
  | paired {highDigits lowDigits : List Char} {high low : Nat} {letter : Char}
      (highCode : code? highDigits = some high) (isHigh : 0xD800 ≤ high ∧ high < 0xDC00)
      (lowCode : code? lowDigits = some low) (isLow : 0xDC00 ≤ low ∧ low < 0xE000)
      (code : letter.toNat = 0x10000 + (high - 0xD800) * 0x400 + (low - 0xDC00)) :
      IsLetter ('\\' :: 'u' :: highDigits ++ '\\' :: 'u' :: lowDigits) letter

inductive AreLetters : List Char → List Char → Prop
  | nil : AreLetters [] []
  | cons {text others letters : List Char} {letter : Char} (first : IsLetter text letter)
      (rest : AreLetters others letters) : AreLetters (text ++ others) (letter :: letters)

inductive IsString : List Char → String → Prop
  | quoted {body : List Char} {text : String} (letters : AreLetters body text.toList) :
      IsString ('"' :: body ++ ['"']) text

mutual
inductive IsValue : List Char → JsonTree → Prop
  | null : IsValue ['n', 'u', 'l', 'l'] .null
  | yes : IsValue ['t', 'r', 'u', 'e'] (.truth true)
  | no : IsValue ['f', 'a', 'l', 's', 'e'] (.truth false)
  | number {literal : List Char} (isNumber : IsNumber literal) :
      IsValue literal (.number literal)
  | string {literal : List Char} {text : String} (isString : IsString literal text) :
      IsValue literal (.string text)
  | noItems {spaces : List Char} (blank : AreSpaces spaces) :
      IsValue ('[' :: spaces ++ [']']) (.array .nil)
  | items {spaces text others : List Char} {head : JsonTree} {tail : JsonTrees}
      (blank : AreSpaces spaces) (first : IsValue text head) (more : AreMoreItems others tail) :
      IsValue ('[' :: spaces ++ text ++ others) (.array (.cons head tail))
  | noMembers {spaces : List Char} (blank : AreSpaces spaces) :
      IsValue ('\x7b' :: spaces ++ ['\x7d']) (.object .nil)
  | members {spaces text others : List Char} {name : String} {value : JsonTree}
      {tail : JsonBranches} (blank : AreSpaces spaces) (first : IsMember text name value)
      (more : AreMoreMembers others tail) :
      IsValue ('\x7b' :: spaces ++ text ++ others) (.object (.cons name value tail))

/-- What follows an item of an array, up to the end of the array. -/
inductive AreMoreItems : List Char → JsonTrees → Prop
  | done {spaces : List Char} (blank : AreSpaces spaces) :
      AreMoreItems (spaces ++ [']']) .nil
  | next {before after text others : List Char} {head : JsonTree} {tail : JsonTrees}
      (blankBefore : AreSpaces before) (blankAfter : AreSpaces after)
      (first : IsValue text head) (more : AreMoreItems others tail) :
      AreMoreItems (before ++ ',' :: after ++ text ++ others) (.cons head tail)

inductive IsMember : List Char → String → JsonTree → Prop
  | named {literal before after text : List Char} {name : String} {value : JsonTree}
      (isName : IsString literal name) (blankBefore : AreSpaces before)
      (blankAfter : AreSpaces after) (isValue : IsValue text value) :
      IsMember (literal ++ before ++ ':' :: after ++ text) name value

inductive AreMoreMembers : List Char → JsonBranches → Prop
  | done {spaces : List Char} (blank : AreSpaces spaces) :
      AreMoreMembers (spaces ++ ['\x7d']) .nil
  | next {before after text others : List Char} {name : String} {value : JsonTree}
      {tail : JsonBranches} (blankBefore : AreSpaces before) (blankAfter : AreSpaces after)
      (first : IsMember text name value) (more : AreMoreMembers others tail) :
      AreMoreMembers (before ++ ',' :: after ++ text ++ others) (.cons name value tail)
end

/-- A text says one value, with spaces before and after it. -/
inductive Says : List Char → JsonTree → Prop
  | value {before text after : List Char} {tree : JsonTree} (blankBefore : AreSpaces before)
      (isValue : IsValue text tree) (blankAfter : AreSpaces after) :
      Says (before ++ text ++ after) tree

/-! ## Where a part ends

Two readings of a text cut it in the same places: a run of letters of one kind goes on as
far as it can, and everything else has its own end. -/

def StopsAt (kind : Char → Bool) (rest : List Char) : Prop :=
  ∀ letter ∈ rest.head?, kind letter = false

section

variable {kind : Char → Bool} {left right afterLeft afterRight : List Char}

theorem StopsAt.cons {letter : Char} (other : kind letter = false) (rest : List Char) :
    StopsAt kind (letter :: rest) := by
  intro head isHead
  cases isHead
  exact other

theorem cut_unique (leftKind : ∀ letter ∈ left, kind letter = true)
    (rightKind : ∀ letter ∈ right, kind letter = true) (leftStops : StopsAt kind afterLeft)
    (rightStops : StopsAt kind afterRight) (same : left ++ afterLeft = right ++ afterRight) :
    left = right ∧ afterLeft = afterRight := by
  induction left generalizing right with
  | nil =>
      cases right with
      | nil => exact ⟨rfl, same⟩
      | cons letter rest =>
          have goesOn := rightKind letter List.mem_cons_self
          rw [List.nil_append] at same
          subst same
          cases goesOn.symm.trans (leftStops letter rfl)
  | cons letter rest induction =>
      cases right with
      | nil =>
          have goesOn := leftKind letter List.mem_cons_self
          rw [List.nil_append] at same
          subst same
          cases goesOn.symm.trans (rightStops letter rfl)
      | cons other others =>
          cases (List.cons.inj same).1
          rcases induction (fun member inRest => leftKind member (List.mem_cons_of_mem _ inRest))
            (fun member inRest => rightKind member (List.mem_cons_of_mem _ inRest))
            (List.cons.inj same).2 with ⟨rfl, after⟩
          exact ⟨rfl, after⟩

end

/-! ## Strings say one thing -/

theorem code?_length {digits : List Char} {code : Nat} (coded : code? digits = some code) :
    digits.length = 4 := by
  unfold code? at coded
  split at coded
  · rfl
  · cases coded

theorem isScalar (letter : Char) : letter.toNat < 0xD800 ∨ 0xE000 ≤ letter.toNat := by
  rcases letter.valid with low | ⟨high, _⟩
  · exact .inl low
  · exact .inr high

theorem IsLetter.not_quote {text : List Char} {letter : Char} (isLetter : IsLetter text letter) :
    ∃ first rest, text = first :: rest ∧ first ≠ '"' := by
  cases isLetter with
  | plain printable noQuote => exact ⟨_, _, rfl, noQuote⟩
  | short => exact ⟨_, _, rfl, by decide⟩
  | coded => exact ⟨_, _, rfl, by decide⟩
  | paired => exact ⟨_, _, rfl, by decide⟩

theorem shortEscapes_unique : ∀ escape ∈ shortEscapes, ∀ other ∈ shortEscapes,
    escape.1 = other.1 → escape.2 = other.2 := by decide

theorem shortEscapes_no_code : ∀ escape ∈ shortEscapes, escape.1 ≠ 'u' := by decide

theorem code?_unique {left right afterLeft afterRight : List Char} {code other : Nat}
    (coded : code? left = some code) (codedSo : code? right = some other)
    (same : left ++ afterLeft = right ++ afterRight) :
    left = right ∧ code = other ∧ afterLeft = afterRight := by
  have sameLength := (code?_length coded).trans (code?_length codedSo).symm
  rcases List.append_inj same sameLength with ⟨rfl, after⟩
  exact ⟨rfl, Option.some.inj (coded.symm.trans codedSo), after⟩

theorem char_eq_of_toNat_eq {letter other : Char} (same : letter.toNat = other.toNat) :
    letter = other :=
  Char.ext (UInt32.toNat_inj.mp same)

theorem IsLetter.unique {left right afterLeft afterRight : List Char} {letter other : Char}
    (isLetter : IsLetter left letter) (isLetterSo : IsLetter right other)
    (same : left ++ afterLeft = right ++ afterRight) : left = right ∧ letter = other := by
  cases isLetter with
  | plain printable noQuote noBackslash =>
      cases isLetterSo with
      | plain =>
          cases (List.cons.inj same).1
          exact ⟨rfl, rfl⟩
      | short | coded | paired => exact absurd (List.cons.inj same).1 noBackslash
  | short listed =>
      cases isLetterSo with
      | plain printable noQuote noBackslash =>
          exact absurd (List.cons.inj same).1.symm noBackslash
      | short listedSo =>
          have sameMark := (List.cons.inj (List.cons.inj same).2).1
          have sameLetter := shortEscapes_unique _ listed _ listedSo sameMark
          cases sameMark
          exact ⟨rfl, sameLetter⟩
      | coded | paired =>
          exact absurd (List.cons.inj (List.cons.inj same).2).1 (shortEscapes_no_code _ listed)
  | coded code =>
      cases isLetterSo with
      | plain printable noQuote noBackslash =>
          exact absurd (List.cons.inj same).1.symm noBackslash
      | short listed =>
          exact absurd (List.cons.inj (List.cons.inj same).2).1.symm
            (shortEscapes_no_code _ listed)
      | coded codeSo =>
          rcases code?_unique code codeSo (List.cons.inj (List.cons.inj same).2).2 with
            ⟨rfl, sameCode, _⟩
          exact ⟨rfl, char_eq_of_toNat_eq sameCode⟩
      | @paired highDigits lowDigits high low _ highCode isHigh =>
          -- Half of a pair is the code of no character.
          simp only [List.cons_append, List.append_assoc] at same
          rcases code?_unique code highCode (List.cons.inj (List.cons.inj same).2).2 with
            ⟨_, sameCode, _⟩
          have scalar := isScalar letter
          omega
  | @paired highDigits lowDigits high low _ highCode isHigh lowCode isLow code =>
      cases isLetterSo with
      | plain printable noQuote noBackslash =>
          exact absurd (List.cons.inj same).1.symm noBackslash
      | short listed =>
          exact absurd (List.cons.inj (List.cons.inj same).2).1.symm
            (shortEscapes_no_code _ listed)
      | coded codeSo =>
          simp only [List.cons_append, List.append_assoc] at same
          rcases code?_unique highCode codeSo (List.cons.inj (List.cons.inj same).2).2 with
            ⟨_, sameCode, _⟩
          have scalar := isScalar other
          omega
      | paired highCodeSo isHighSo lowCodeSo isLowSo codeSo =>
          simp only [List.cons_append, List.append_assoc] at same
          rcases code?_unique highCode highCodeSo (List.cons.inj (List.cons.inj same).2).2 with
            ⟨rfl, rfl, after⟩
          rcases code?_unique lowCode lowCodeSo (List.cons.inj (List.cons.inj after).2).2 with
            ⟨rfl, rfl, _⟩
          exact ⟨rfl, char_eq_of_toNat_eq (code.trans codeSo.symm)⟩

theorem AreLetters.unique {left right afterLeft afterRight letters others : List Char}
    (areLetters : AreLetters left letters) (areLettersSo : AreLetters right others)
    (same : left ++ '"' :: afterLeft = right ++ '"' :: afterRight) :
    left = right ∧ letters = others := by
  induction areLetters generalizing right others with
  | nil =>
      cases areLettersSo with
      | nil => exact ⟨rfl, rfl⟩
      | cons first rest =>
          rcases first.not_quote with ⟨letter, others, rfl, noQuote⟩
          exact absurd (List.cons.inj same).1.symm noQuote
  | cons first rest induction =>
      cases areLettersSo with
      | nil =>
          rcases first.not_quote with ⟨letter, others, rfl, noQuote⟩
          exact absurd (List.cons.inj same).1 noQuote
      | cons firstSo restSo =>
          simp only [List.append_assoc] at same
          rcases first.unique firstSo same with ⟨rfl, rfl⟩
          rcases induction restSo (List.append_cancel_left same) with ⟨rfl, rfl⟩
          exact ⟨rfl, rfl⟩

theorem IsString.unique {left right afterLeft afterRight : List Char} {text other : String}
    (isString : IsString left text) (isStringSo : IsString right other)
    (same : left ++ afterLeft = right ++ afterRight) : left = right ∧ text = other := by
  cases isString with
  | quoted letters =>
      cases isStringSo with
      | quoted lettersSo =>
          simp only [List.cons_append, List.append_assoc, List.nil_append] at same
          rcases letters.unique lettersSo (List.cons.inj same).2 with ⟨rfl, sameLetters⟩
          exact ⟨rfl, String.toList_inj.mp sameLetters⟩

/-! ## Numbers have letters of their own -/

def isNumeric (letter : Char) : Bool :=
  letter.isDigit || letter ∈ ['-', '+', '.', 'e', 'E']

theorem AreDigits.isNumeric {text : List Char} (digits : AreDigits text) :
    ∀ letter ∈ text, isNumeric letter = true := by
  intro letter member
  simp [JsonText.isNumeric, digits.2 letter member]

theorem isNumeric_of_sign {sign : List Char} (signed : sign ∈ [[], ['+'], ['-']]) :
    ∀ letter ∈ sign, isNumeric letter = true := by
  simp only [List.mem_cons, List.not_mem_nil, or_false] at signed
  rcases signed with rfl | rfl | rfl
  · exact List.forall_mem_nil _
  · exact List.forall_mem_singleton.mpr rfl
  · exact List.forall_mem_singleton.mpr rfl

theorem IsFraction.isNumeric {text : List Char} (isFraction : IsFraction text) :
    ∀ letter ∈ text, isNumeric letter = true := by
  rcases isFraction with rfl | ⟨digits, areDigits, rfl⟩
  · exact List.forall_mem_nil _
  · exact List.forall_mem_cons.mpr ⟨rfl, areDigits.isNumeric⟩

theorem IsExponent.isNumeric {text : List Char} (isExponent : IsExponent text) :
    ∀ letter ∈ text, isNumeric letter = true := by
  rcases isExponent with rfl | ⟨mark, sign, digits, isMark, signed, areDigits, rfl⟩
  · exact List.forall_mem_nil _
  · have isNumericMark : JsonText.isNumeric mark = true := by
      simp only [List.mem_cons, List.not_mem_nil, or_false] at isMark
      rcases isMark with rfl | rfl <;> rfl
    exact List.forall_mem_append.mpr
      ⟨List.forall_mem_cons.mpr ⟨isNumericMark, isNumeric_of_sign signed⟩, areDigits.isNumeric⟩

theorem IsNumber.isNumeric {literal : List Char} (isNumber : IsNumber literal) :
    ∀ letter ∈ literal, isNumeric letter = true := by
  rcases isNumber with @⟨sign, whole, fraction, exponent, signed, isWhole, isFraction, isExponent⟩
  have inSign : ∀ letter ∈ sign, JsonText.isNumeric letter = true := by
    rcases List.mem_cons.mp signed with rfl | minus
    · exact List.forall_mem_nil _
    · exact isNumeric_of_sign (List.mem_cons_of_mem _ (List.mem_cons_of_mem _ minus))
  simp only [List.forall_mem_append]
  exact ⟨⟨⟨inSign, isWhole.1.isNumeric⟩, isFraction.isNumeric⟩, isExponent.isNumeric⟩

theorem IsNumber.opens {literal : List Char} (isNumber : IsNumber literal) :
    ∃ first rest, literal = first :: rest ∧ (first = '-' ∨ first.isDigit = true) := by
  rcases isNumber with @⟨sign, whole, fraction, exponent, signed, isWhole, isFraction, isExponent⟩
  cases whole with
  | nil => exact absurd rfl isWhole.1.1
  | cons digit digits =>
      rcases List.mem_cons.mp signed with rfl | minus
      · exact ⟨digit, _, rfl, .inr (isWhole.1.2 digit List.mem_cons_self)⟩
      · cases List.mem_singleton.mp minus
        exact ⟨'-', _, rfl, .inl rfl⟩

end JsonText

end ExampleBuild
