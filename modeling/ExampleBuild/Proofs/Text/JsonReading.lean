import ExampleBuild.Proofs.Text.JsonGrammar

namespace ExampleBuild

/-! The JSON grammar is unambiguous: from where a value begins, every reading of it ends at
the same place and says the same, so that no text says two things. -/

namespace JsonText

/-! ## The first letter of a value tells its kind -/

inductive Kind
  | null
  | truth
  | number
  | string
  | array
  | object
  deriving DecidableEq

def Kind.ofFirst? (letter : Char) : Option Kind :=
  if letter = 'n' then some .null
  else if letter = 't' || letter = 'f' then some .truth
  else if letter = '"' then some .string
  else if letter = '[' then some .array
  else if letter = '{' then some .object
  else if letter = '-' || letter.isDigit then some .number
  else none

def kindOf : JsonTree → Kind
  | .null => .null
  | .truth _ => .truth
  | .number _ => .number
  | .string _ => .string
  | .array _ => .array
  | .object _ => .object

theorem Kind.ofFirst?_digit {letter : Char} (opens : letter = '-' ∨ letter.isDigit = true) :
    Kind.ofFirst? letter = some .number := by
  rcases opens with rfl | digit
  · rfl
  · have other {mark : Char} (noDigit : mark.isDigit = false) : letter ≠ mark := by
      intro same
      subst same
      cases digit.symm.trans noDigit
    rw [ofFirst?, if_neg (other rfl), if_neg (by simp [@other 't' rfl, @other 'f' rfl]),
      if_neg (other rfl), if_neg (other rfl), if_neg (other rfl), if_pos (by simp [digit])]

theorem IsValue.opens {text : List Char} {tree : JsonTree} (isValue : IsValue text tree) :
    ∃ first rest, text = first :: rest ∧ Kind.ofFirst? first = some (kindOf tree) := by
  cases isValue with
  | null | yes | no => exact ⟨_, _, rfl, rfl⟩
  | number isNumber =>
      rcases isNumber.opens with ⟨first, rest, rfl, opens⟩
      exact ⟨first, rest, rfl, Kind.ofFirst?_digit opens⟩
  | string isString =>
      cases isString
      exact ⟨_, _, rfl, rfl⟩
  | noItems | items | noMembers | members => exact ⟨_, _, rfl, rfl⟩

theorem Kind.not_isSpace {letter : Char} {kind : Kind} (opens : ofFirst? letter = some kind) :
    isSpace letter = false := by
  rw [Bool.eq_false_iff]
  intro space
  simp only [isSpace, Bool.or_eq_true, decide_eq_true_eq] at space
  rcases space with ((rfl | rfl) | rfl) | rfl <;> cases opens

section

variable {left right afterLeft afterRight : List Char} {tree other : JsonTree}

theorem IsValue.stopsSpaces (isValue : IsValue left tree) (rest : List Char) :
    StopsAt isSpace (left ++ rest) := by
  rcases isValue.opens with ⟨first, others, rfl, opens⟩
  exact .cons (Kind.not_isSpace opens) _

theorem IsValue.same_kind (isValue : IsValue left tree) (isValueSo : IsValue right other)
    (same : left ++ afterLeft = right ++ afterRight) : kindOf tree = kindOf other := by
  rcases isValue.opens with ⟨first, others, rfl, opens⟩
  rcases isValueSo.opens with ⟨firstSo, othersSo, rfl, opensSo⟩
  cases (List.cons.inj same).1
  exact Option.some.inj (opens.symm.trans opensSo)

theorem isNumeric_of_isSpace {letter : Char} (space : isSpace letter = true) :
    isNumeric letter = false := by
  simp only [isSpace, Bool.or_eq_true, decide_eq_true_eq] at space
  rcases space with ((rfl | rfl) | rfl) | rfl <;> rfl

theorem AreSpaces.stopsNumbers (blank : AreSpaces left) {mark : Char}
    (notNumeric : isNumeric mark = false) (rest : List Char) :
    StopsAt isNumeric (left ++ mark :: rest) := by
  cases left with
  | nil => exact .cons notNumeric rest
  | cons space spaces => exact .cons (isNumeric_of_isSpace (blank space List.mem_cons_self)) _

theorem AreSpaces.unique (blank : AreSpaces left) (blankSo : AreSpaces right)
    (stops : StopsAt isSpace afterLeft) (stopsSo : StopsAt isSpace afterRight)
    (same : left ++ afterLeft = right ++ afterRight) :
    left = right ∧ afterLeft = afterRight :=
  cut_unique blank blankSo stops stopsSo same

end

/-- A part of a text that says something can be read in one way, where what comes after it
does not carry on a number. -/
def ReadsOnce {α : Type} (IsPart : List Char → α → Prop) (value : α) : Prop :=
  ∀ other left right afterLeft afterRight, IsPart left value → IsPart right other →
    left ++ afterLeft = right ++ afterRight → StopsAt isNumeric afterLeft →
    StopsAt isNumeric afterRight → left = right ∧ value = other

theorem readsOnce_null : ReadsOnce IsValue .null := by
  intro other left right afterLeft afterRight isValue isValueSo same _ _
  have kind := isValue.same_kind isValueSo same
  cases isValue
  cases isValueSo with
  | null => exact ⟨rfl, rfl⟩
  | yes | no | number | string | noItems | items | noMembers | members => cases kind

theorem readsOnce_truth (value : Bool) : ReadsOnce IsValue (.truth value) := by
  intro other left right afterLeft afterRight isValue isValueSo same _ _
  have kind := isValue.same_kind isValueSo same
  cases isValueSo with
  | yes =>
      cases isValue with
      | yes => exact ⟨rfl, rfl⟩
      | no => simp at same
  | no =>
      cases isValue with
      | yes => simp at same
      | no => exact ⟨rfl, rfl⟩
  | null | number | string | noItems | items | noMembers | members => cases kind

theorem readsOnce_number (literal : List Char) : ReadsOnce IsValue (.number literal) := by
  intro other left right afterLeft afterRight isValue isValueSo same stops stopsSo
  have kind := isValue.same_kind isValueSo same
  cases isValue with
  | number isNumber =>
      cases isValueSo with
      | number isNumberSo =>
          rcases cut_unique isNumber.isNumeric isNumberSo.isNumeric stops stopsSo same with
            ⟨rfl, _⟩
          exact ⟨rfl, rfl⟩
      | null | yes | no | string | noItems | items | noMembers | members => cases kind

theorem readsOnce_string (text : String) : ReadsOnce IsValue (.string text) := by
  intro other left right afterLeft afterRight isValue isValueSo same _ _
  have kind := isValue.same_kind isValueSo same
  cases isValue with
  | string isString =>
      cases isValueSo with
      | string isStringSo =>
          rcases isString.unique isStringSo same with ⟨rfl, rfl⟩
          exact ⟨rfl, rfl⟩
      | null | yes | no | number | noItems | items | noMembers | members => cases kind

/-! ## Sequences

The items of an array and the members of an object are parts of one kind, with brackets
around them and commas between them. -/

section

variable {α β : Type} (opening closing : Char) (IsPart : List Char → α → Prop)
  (AreMore : List Char → β → Prop)

inductive IsBracketed : List Char → Option (α × β) → Prop
  | empty {spaces : List Char} (blank : AreSpaces spaces) :
      IsBracketed (opening :: spaces ++ [closing]) none
  | parts {spaces text others : List Char} {head : α} {tail : β} (blank : AreSpaces spaces)
      (first : IsPart text head) (more : AreMore others tail) :
      IsBracketed (opening :: spaces ++ text ++ others) (some (head, tail))

inductive IsContinued : List Char → Option (α × β) → Prop
  | done {spaces : List Char} (blank : AreSpaces spaces) : IsContinued (spaces ++ [closing]) none
  | next {before after text others : List Char} {head : α} {tail : β}
      (blankBefore : AreSpaces before) (blankAfter : AreSpaces after)
      (first : IsPart text head) (more : AreMore others tail) :
      IsContinued (before ++ ',' :: after ++ text ++ others) (some (head, tail))

/-- No part begins with a space or the closing bracket, and no number goes on after a part. -/
structure IsSequence : Prop where
  closes : isSpace closing = false
  noComma : closing ≠ ','
  opens : ∀ {text value}, IsPart text value →
    ∃ first rest, text = first :: rest ∧ isSpace first = false ∧ first ≠ closing
  ends : ∀ {text values}, AreMore text values → ∀ rest, StopsAt isNumeric (text ++ rest)

end

section

variable {α β : Type} {opening closing : Char} {IsPart : List Char → α → Prop}
  {AreMore : List Char → β → Prop}

theorem IsContinued.stopsNumbers (notNumeric : isNumeric closing = false) {text : List Char}
    {parts : Option (α × β)} (continued : IsContinued closing IsPart AreMore text parts)
    (rest : List Char) : StopsAt isNumeric (text ++ rest) := by
  cases continued with
  | done blank =>
      rw [List.append_assoc]
      exact blank.stopsNumbers notNumeric _
  | next blankBefore =>
      simp only [List.append_assoc, List.cons_append]
      exact blankBefore.stopsNumbers rfl _

namespace IsSequence

variable {head : α} {tail : β}

theorem stopsSpaces (sequence : IsSequence closing IsPart AreMore) {text : List Char}
    (part : IsPart text head) (rest : List Char) : StopsAt isSpace (text ++ rest) := by
  rcases sequence.opens part with ⟨first, others, rfl, noSpace, _⟩
  exact .cons noSpace _

theorem not_closed (sequence : IsSequence closing IsPart AreMore)
    {spaces otherSpaces text after rest : List Char} (blank : AreSpaces spaces)
    (blankSo : AreSpaces otherSpaces) (part : IsPart text head) :
    spaces ++ (text ++ after) ≠ otherSpaces ++ closing :: rest := by
  intro same
  rcases blank.unique blankSo (sequence.stopsSpaces part _) (.cons sequence.closes _) same with
    ⟨_, closed⟩
  rcases sequence.opens part with ⟨first, others, rfl, _, other⟩
  exact other (List.cons.inj closed).1

theorem not_continued (sequence : IsSequence closing IsPart AreMore)
    {spaces otherSpaces after rest : List Char} (blank : AreSpaces spaces)
    (blankSo : AreSpaces otherSpaces) :
    spaces ++ ',' :: after ≠ otherSpaces ++ closing :: rest := by
  intro same
  rcases blank.unique blankSo (.cons rfl _) (.cons sequence.closes _) same with ⟨_, closed⟩
  exact sequence.noComma (List.cons.inj closed).1.symm

theorem closed_unique (sequence : IsSequence closing IsPart AreMore)
    {spaces otherSpaces after rest : List Char} (blank : AreSpaces spaces)
    (blankSo : AreSpaces otherSpaces)
    (same : spaces ++ closing :: after = otherSpaces ++ closing :: rest) : spaces = otherSpaces :=
  (blank.unique blankSo (.cons sequence.closes _) (.cons sequence.closes _) same).1

/-- Spaces, a part and what follows it are cut in one way, if each is. -/
theorem unique (sequence : IsSequence closing IsPart AreMore) {otherHead : α} {otherTail : β}
    (headOnce : ReadsOnce IsPart head) (tailOnce : ReadsOnce AreMore tail)
    {spaces text others otherSpaces otherText otherOthers afterLeft afterRight : List Char}
    (blank : AreSpaces spaces) (blankSo : AreSpaces otherSpaces) (first : IsPart text head)
    (firstSo : IsPart otherText otherHead) (more : AreMore others tail)
    (moreSo : AreMore otherOthers otherTail) (stops : StopsAt isNumeric afterLeft)
    (stopsSo : StopsAt isNumeric afterRight)
    (same : spaces ++ (text ++ (others ++ afterLeft)) =
      otherSpaces ++ (otherText ++ (otherOthers ++ afterRight))) :
    (spaces = otherSpaces ∧ text = otherText ∧ others = otherOthers) ∧
      head = otherHead ∧ tail = otherTail := by
  rcases blank.unique blankSo (sequence.stopsSpaces first _) (sequence.stopsSpaces firstSo _)
    same with ⟨rfl, after⟩
  rcases headOnce _ _ _ _ _ first firstSo after (sequence.ends more _) (sequence.ends moreSo _)
    with ⟨rfl, rfl⟩
  rcases tailOnce _ _ _ _ _ more moreSo (List.append_cancel_left after) stops stopsSo with
    ⟨rfl, rfl⟩
  exact ⟨⟨rfl, rfl, rfl⟩, rfl, rfl⟩

theorem readsOnce_empty (sequence : IsSequence closing IsPart AreMore) :
    ReadsOnce (IsBracketed opening closing IsPart AreMore) none := by
  intro other left right afterLeft afterRight parts partsSo same _ _
  cases parts with
  | empty blank =>
      cases partsSo with
      | empty blankSo =>
          simp only [List.cons_append, List.append_assoc, List.nil_append] at same
          cases sequence.closed_unique blank blankSo (List.cons.inj same).2
          exact ⟨rfl, rfl⟩
      | parts blankSo firstSo moreSo =>
          simp only [List.cons_append, List.append_assoc, List.nil_append] at same
          exact absurd (List.cons.inj same).2.symm (sequence.not_closed blankSo blank firstSo)

theorem readsOnce_parts (sequence : IsSequence closing IsPart AreMore)
    (headOnce : ReadsOnce IsPart head) (tailOnce : ReadsOnce AreMore tail) :
    ReadsOnce (IsBracketed opening closing IsPart AreMore) (some (head, tail)) := by
  intro other left right afterLeft afterRight parts partsSo same stops stopsSo
  cases parts with
  | parts blank first more =>
      cases partsSo with
      | empty blankSo =>
          simp only [List.cons_append, List.append_assoc, List.nil_append] at same
          exact absurd (List.cons.inj same).2 (sequence.not_closed blank blankSo first)
      | parts blankSo firstSo moreSo =>
          simp only [List.cons_append, List.append_assoc] at same
          rcases sequence.unique headOnce tailOnce blank blankSo first firstSo more moreSo stops
            stopsSo (List.cons.inj same).2 with ⟨⟨rfl, rfl, rfl⟩, rfl, rfl⟩
          exact ⟨rfl, rfl⟩

theorem readsOnce_done (sequence : IsSequence closing IsPart AreMore) :
    ReadsOnce (IsContinued closing IsPart AreMore) none := by
  intro other left right afterLeft afterRight more moreSo same _ _
  cases more with
  | done blank =>
      cases moreSo with
      | done blankSo =>
          simp only [List.append_assoc, List.cons_append, List.nil_append] at same
          cases sequence.closed_unique blank blankSo same
          exact ⟨rfl, rfl⟩
      | next blankSo =>
          simp only [List.append_assoc, List.cons_append, List.nil_append] at same
          exact absurd same.symm (sequence.not_continued blankSo blank)

theorem readsOnce_next (sequence : IsSequence closing IsPart AreMore)
    (headOnce : ReadsOnce IsPart head) (tailOnce : ReadsOnce AreMore tail) :
    ReadsOnce (IsContinued closing IsPart AreMore) (some (head, tail)) := by
  intro other left right afterLeft afterRight more moreSo same stops stopsSo
  cases more with
  | next blankBefore blankAfter first more =>
      cases moreSo with
      | done blankSo =>
          simp only [List.append_assoc, List.cons_append, List.nil_append] at same
          exact absurd same (sequence.not_continued blankBefore blankSo)
      | next blankBeforeSo blankAfterSo firstSo moreSo =>
          simp only [List.append_assoc, List.cons_append] at same
          rcases blankBefore.unique blankBeforeSo (.cons rfl _) (.cons rfl _) same with
            ⟨rfl, after⟩
          rcases sequence.unique headOnce tailOnce blankAfter blankAfterSo first firstSo more
            moreSo stops stopsSo (List.cons.inj after).2 with ⟨⟨rfl, rfl, rfl⟩, rfl, rfl⟩
          exact ⟨rfl, rfl⟩

end IsSequence

theorem ReadsOnce.of_view {IsSeen : List Char → β → Prop} {view : α → β} {value : α}
    (once : ReadsOnce IsSeen (view value)) (injective : ∀ other, view value = view other →
      value = other) (seen : ∀ {text value}, IsPart text value → IsSeen text (view value)) :
    ReadsOnce IsPart value := by
  intro other left right afterLeft afterRight part partSo same stops stopsSo
  rcases once _ _ _ _ _ (seen part) (seen partSo) same stops stopsSo with ⟨rfl, sameView⟩
  exact ⟨rfl, injective other sameView⟩

end

/-! ## Arrays -/

def itemParts? : JsonTrees → Option (JsonTree × JsonTrees)
  | .nil => none
  | .cons head tail => some (head, tail)

theorem itemParts?_injective (items others : JsonTrees)
    (same : itemParts? items = itemParts? others) : items = others := by
  cases items <;> cases others <;> cases same <;> rfl

theorem AreMoreItems.isContinued {text : List Char} {items : JsonTrees}
    (more : AreMoreItems text items) :
    IsContinued ']' IsValue AreMoreItems text (itemParts? items) := by
  cases more with
  | done blank => exact .done blank
  | next blankBefore blankAfter first more => exact .next blankBefore blankAfter first more

theorem IsValue.isBracketed_array {text : List Char} {items : JsonTrees}
    (isValue : IsValue text (.array items)) :
    IsBracketed '[' ']' IsValue AreMoreItems text (itemParts? items) := by
  cases isValue with
  | noItems blank => exact .empty blank
  | items blank first more => exact .parts blank first more

theorem items_isSequence : IsSequence ']' IsValue AreMoreItems where
  closes := rfl
  noComma := by decide
  opens isValue := by
    rcases isValue.opens with ⟨first, rest, rfl, opens⟩
    refine ⟨first, rest, rfl, Kind.not_isSpace opens, ?_⟩
    rintro rfl
    cases opens
  ends more := more.isContinued.stopsNumbers rfl

theorem readsOnce_array {items : JsonTrees}
    (once : ReadsOnce (IsBracketed '[' ']' IsValue AreMoreItems) (itemParts? items)) :
    ReadsOnce IsValue (.array items) := by
  intro other left right afterLeft afterRight isValue isValueSo same stops stopsSo
  have kind := isValue.same_kind isValueSo same
  cases other with
  | array others =>
      rcases once _ _ _ _ _ isValue.isBracketed_array isValueSo.isBracketed_array same stops
        stopsSo with ⟨rfl, sameParts⟩
      exact ⟨rfl, congrArg _ (itemParts?_injective _ _ sameParts)⟩
  | null | truth | number | string | object => cases kind

theorem readsOnce_moreItems {items : JsonTrees}
    (once : ReadsOnce (IsContinued ']' IsValue AreMoreItems) (itemParts? items)) :
    ReadsOnce AreMoreItems items :=
  once.of_view (itemParts?_injective items) AreMoreItems.isContinued

/-! ## Objects -/

def IsNamed (text : List Char) (member : String × JsonTree) : Prop :=
  IsMember text member.1 member.2

def memberParts? : JsonBranches → Option ((String × JsonTree) × JsonBranches)
  | .nil => none
  | .cons name value tail => some ((name, value), tail)

theorem memberParts?_injective (members others : JsonBranches)
    (same : memberParts? members = memberParts? others) : members = others := by
  cases members <;> cases others <;> cases same <;> rfl

theorem AreMoreMembers.isContinued {text : List Char} {members : JsonBranches}
    (more : AreMoreMembers text members) :
    IsContinued '}' IsNamed AreMoreMembers text (memberParts? members) := by
  cases more with
  | done blank => exact .done blank
  | next blankBefore blankAfter first more => exact .next blankBefore blankAfter first more

theorem IsValue.isBracketed_object {text : List Char} {members : JsonBranches}
    (isValue : IsValue text (.object members)) :
    IsBracketed '{' '}' IsNamed AreMoreMembers text (memberParts? members) := by
  cases isValue with
  | noMembers blank => exact .empty blank
  | members blank first more => exact .parts blank first more

theorem members_isSequence : IsSequence '}' IsNamed AreMoreMembers where
  closes := rfl
  noComma := by decide
  opens isMember := by
    rcases isMember with ⟨⟨_⟩⟩
    exact ⟨'"', _, rfl, rfl, by decide⟩
  ends more := more.isContinued.stopsNumbers rfl

theorem readsOnce_named {name : String} {value : JsonTree} (valueOnce : ReadsOnce IsValue value) :
    ReadsOnce IsNamed (name, value) := by
  rintro ⟨otherName, other⟩ left right afterLeft afterRight isMember isMemberSo same stops stopsSo
  cases isMember with
  | named isName blankBefore blankAfter isValue =>
      cases isMemberSo with
      | named isNameSo blankBeforeSo blankAfterSo isValueSo =>
          simp only [List.append_assoc, List.cons_append] at same
          rcases isName.unique isNameSo same with ⟨rfl, rfl⟩
          rcases blankBefore.unique blankBeforeSo (.cons rfl _) (.cons rfl _)
            (List.append_cancel_left same) with ⟨rfl, after⟩
          rcases blankAfter.unique blankAfterSo (isValue.stopsSpaces _)
            (isValueSo.stopsSpaces _) (List.cons.inj after).2 with ⟨rfl, values⟩
          rcases valueOnce _ _ _ _ _ isValue isValueSo values stops stopsSo with ⟨rfl, rfl⟩
          exact ⟨rfl, rfl⟩

theorem readsOnce_object {members : JsonBranches}
    (once : ReadsOnce (IsBracketed '{' '}' IsNamed AreMoreMembers) (memberParts? members)) :
    ReadsOnce IsValue (.object members) := by
  intro other left right afterLeft afterRight isValue isValueSo same stops stopsSo
  have kind := isValue.same_kind isValueSo same
  cases other with
  | object others =>
      rcases once _ _ _ _ _ isValue.isBracketed_object isValueSo.isBracketed_object same stops
        stopsSo with ⟨rfl, sameParts⟩
      exact ⟨rfl, congrArg _ (memberParts?_injective _ _ sameParts)⟩
  | null | truth | number | string | array => cases kind

theorem readsOnce_moreMembers {members : JsonBranches}
    (once : ReadsOnce (IsContinued '}' IsNamed AreMoreMembers) (memberParts? members)) :
    ReadsOnce AreMoreMembers members :=
  once.of_view (memberParts?_injective members) AreMoreMembers.isContinued

/-! ## All values -/

mutual
theorem IsValue.readsOnce : (tree : JsonTree) → ReadsOnce IsValue tree
  | .null => readsOnce_null
  | .truth value => readsOnce_truth value
  | .number literal => readsOnce_number literal
  | .string text => readsOnce_string text
  | .array .nil => readsOnce_array items_isSequence.readsOnce_empty
  | .array (.cons head tail) => readsOnce_array <|
      items_isSequence.readsOnce_parts (IsValue.readsOnce head) (AreMoreItems.readsOnce tail)
  | .object .nil => readsOnce_object members_isSequence.readsOnce_empty
  | .object (.cons _ value tail) => readsOnce_object <|
      members_isSequence.readsOnce_parts (readsOnce_named (IsValue.readsOnce value))
        (AreMoreMembers.readsOnce tail)

theorem AreMoreItems.readsOnce : (items : JsonTrees) → ReadsOnce AreMoreItems items
  | .nil => readsOnce_moreItems items_isSequence.readsOnce_done
  | .cons head tail => readsOnce_moreItems <|
      items_isSequence.readsOnce_next (IsValue.readsOnce head) (AreMoreItems.readsOnce tail)

theorem AreMoreMembers.readsOnce : (members : JsonBranches) → ReadsOnce AreMoreMembers members
  | .nil => readsOnce_moreMembers members_isSequence.readsOnce_done
  | .cons _ value tail => readsOnce_moreMembers <|
      members_isSequence.readsOnce_next (readsOnce_named (IsValue.readsOnce value))
        (AreMoreMembers.readsOnce tail)
end

/-- No text says two things. -/
theorem Says.unique {text : List Char} {tree other : JsonTree} (reading : Says text tree)
    (readingSo : Says text other) : tree = other := by
  have stops {after : List Char} (blank : AreSpaces after) : StopsAt isNumeric after := by
    intro letter isHead
    exact isNumeric_of_isSpace (blank letter (List.mem_of_mem_head? isHead))
  generalize sameText : text = textSo at readingSo
  cases reading with
  | value blankBefore isValue blankAfter =>
      cases readingSo with
      | value blankBeforeSo isValueSo blankAfterSo =>
          simp only [List.append_assoc] at sameText
          rcases blankBefore.unique blankBeforeSo (isValue.stopsSpaces _)
            (isValueSo.stopsSpaces _) sameText with ⟨rfl, after⟩
          exact (IsValue.readsOnce tree _ _ _ _ _ isValue isValueSo after (stops blankAfter)
            (stops blankAfterSo)).2

end JsonText

end ExampleBuild
