import ExampleBuild.Report.Json
import ExampleBuild.Proofs.Text.JsonReading
import Mathlib.Logic.ExistsUnique
import Mathlib.Logic.Function.Basic
import Mathlib.Tactic.SplitIfs

namespace ExampleBuild

/-! What is printed as JSON says one thing, and from what it says the value can be read
back. So different plans, and different outcomes, are never printed alike. -/

/-! ## What is written follows the grammar -/

mutual
def Json.tree : Json → JsonTree
  | .null => .null
  | .number value => .number (Json.writtenNumber value)
  | .string text => .string text
  | .array items => .array items.trees
  | .object members => .object members.branches

def JsonItems.trees : JsonItems → JsonTrees
  | .nil => .nil
  | .cons head tail => .cons head.tree tail.trees

def JsonMembers.branches : JsonMembers → JsonBranches
  | .nil => .nil
  | .cons name value tail => .cons name value.tree tail.branches
end

namespace JsonText

open Json (written writtenItems writtenMembers writtenString writtenNumber newLine escaped hexDigit)

theorem areSpaces_newLine (depth : Nat) : AreSpaces (newLine depth) := by
  refine List.forall_mem_cons.mpr ⟨rfl, fun letter member => ?_⟩
  rw [List.eq_of_mem_replicate member]
  rfl

theorem code?_control : ∀ code < 32,
    code? ['0', '0', hexDigit (code / 16), hexDigit (code % 16)] = some code := by decide

theorem isLetter_escaped (letter : Char) : IsLetter (escaped letter) letter := by
  rw [escaped]
  split_ifs with quote backslash backspace formFeed lineFeed carriageReturn tab control
  · exact .short (by simp [shortEscapes, quote])
  · exact .short (by simp [shortEscapes, backslash])
  · exact .short (by simp [shortEscapes, backspace])
  · exact .short (by simp [shortEscapes, formFeed])
  · exact .short (by simp [shortEscapes, lineFeed])
  · exact .short (by simp [shortEscapes, carriageReturn])
  · exact .short (by simp [shortEscapes, tab])
  · exact .coded (code?_control letter.toNat control)
  · exact .plain (Nat.le_of_not_lt control) quote backslash

theorem areLetters_escaped (letters : List Char) :
    AreLetters (letters.flatMap escaped) letters := by
  induction letters with
  | nil => exact .nil
  | cons letter rest induction => exact .cons (isLetter_escaped letter) induction

theorem isString_written (text : String) : IsString (writtenString text) text :=
  .quoted (areLetters_escaped text.toList)

theorem isWhole_toDigits (value : Nat) : IsWhole (Nat.toDigits 10 value) := by
  refine ⟨⟨Nat.toDigits_ne_nil, fun letter member =>
    Nat.isDigit_of_mem_toDigits (by decide) (by decide) member⟩, ?_⟩
  induction value using Nat.strongRecOn with
  | ind value induction =>
      by_cases small : value < 10
      · rw [Nat.toDigits_of_lt_base small]
        intro zero
        rw [Option.some.inj zero]
      · have large : 10 ≤ value := Nat.le_of_not_lt small
        rw [Nat.toDigits_of_base_le (by decide) large]
        intro zero
        rw [List.head?_append, Option.or_of_isSome (by simp)] at zero
        -- All but the last digit would be one zero, but they stand for a tenth of ten or more.
        have before := induction (value / 10) (by omega) zero
        have tenth : value / 10 = 0 := by
          rw [← Nat.ofDigitChars_toDigits (by decide : 1 < 10) (by decide) (n := value / 10),
            before]
          rfl
        omega

theorem isNumber_written (value : Int) : IsNumber (writtenNumber value) := by
  have number {sign : List Char} (signed : sign ∈ [[], ['-']]) :
      IsNumber (sign ++ Nat.toDigits 10 value.natAbs ++ [] ++ []) :=
    .parts signed (isWhole_toDigits value.natAbs) (.inl rfl) (.inl rfl)
  simp only [List.append_nil] at number
  rw [writtenNumber]
  split
  · exact number (by decide : ['-'] ∈ _)
  · exact number (by decide : [] ∈ _)

theorem isMember_written (name : String) {text : List Char} {value : JsonTree}
    (isValue : IsValue text value) :
    IsMember (writtenString name ++ [':', ' '] ++ text) name value := by
  have space : AreSpaces [' '] := List.forall_mem_singleton.mpr rfl
  have member : IsMember (writtenString name ++ [] ++ ':' :: [' '] ++ text) name value :=
    .named (isString_written name) (List.forall_mem_nil _) space isValue
  simpa using member

mutual
theorem isValue_written : (value : Json) → ∀ depth, IsValue (written depth value) value.tree
  | .null, _ => .null
  | .number value, _ => .number (isNumber_written value)
  | .string text, _ => .string (isString_written text)
  | .array .nil, _ => .noItems (List.forall_mem_nil _)
  | .array (.cons head tail), depth => by
      have items := IsValue.items (areSpaces_newLine (depth + 1)) (isValue_written head (depth + 1))
        (areMoreItems_written tail (depth + 1) depth)
      simpa [written, Json.tree, JsonItems.trees] using items
  | .object .nil, _ => .noMembers (List.forall_mem_nil _)
  | .object (.cons name value tail), depth => by
      have members := IsValue.members (areSpaces_newLine (depth + 1))
        (isMember_written name (isValue_written value (depth + 1)))
        (areMoreMembers_written tail (depth + 1) depth)
      simpa [written, Json.tree, JsonMembers.branches] using members

theorem areMoreItems_written : (items : JsonItems) → ∀ depth outer,
    AreMoreItems (writtenItems depth items ++ (newLine outer ++ [']'])) items.trees
  | .nil, _, outer => .done (areSpaces_newLine outer)
  | .cons head tail, depth, outer => by
      have more := AreMoreItems.next (List.forall_mem_nil _ : AreSpaces [])
        (areSpaces_newLine depth) (isValue_written head depth)
        (areMoreItems_written tail depth outer)
      simpa [writtenItems, JsonItems.trees] using more

theorem areMoreMembers_written : (members : JsonMembers) → ∀ depth outer,
    AreMoreMembers (writtenMembers depth members ++ (newLine outer ++ ['\x7d'])) members.branches
  | .nil, _, outer => .done (areSpaces_newLine outer)
  | .cons name value tail, depth, outer => by
      have more := AreMoreMembers.next (List.forall_mem_nil _ : AreSpaces [])
        (areSpaces_newLine depth) (isMember_written name (isValue_written value depth))
        (areMoreMembers_written tail depth outer)
      simpa [writtenMembers, JsonMembers.branches] using more
end

theorem says_indented (value : Json) : Says value.indented.toList value.tree := by
  have saying := Says.value (List.forall_mem_nil _ : AreSpaces []) (isValue_written value 0)
    (List.forall_mem_nil _ : AreSpaces [])
  simpa [Json.indented] using saying

end JsonText

/-! ## Reading back

Members are found by their names, and tags tell which members there are. -/

def JsonBranches.get? (name : String) : JsonBranches → Option JsonTree
  | .nil => none
  | .cons other value tail => if other = name then some value else tail.get? name

def JsonTrees.readAll? {α : Type} (read? : JsonTree → Option α) : JsonTrees → Option (List α)
  | .nil => some []
  | .cons head tail =>
      match read? head, tail.readAll? read? with
      | some value, some values => some (value :: values)
      | _, _ => none

namespace JsonTree

def member? (name : String) : JsonTree → Option JsonTree
  | .object members => members.get? name
  | _ => none

def text? : JsonTree → Option String
  | .string text => some text
  | _ => none

def list? {α : Type} (read? : JsonTree → Option α) : JsonTree → Option (List α)
  | .array items => items.readAll? read?
  | _ => none

def natural? (digits : List Char) : Option Nat :=
  if digits.all Char.isDigit then some (Nat.ofDigitChars 10 digits 0) else none

def integer? : JsonTree → Option Int
  | .number ('-' :: digits) => (natural? digits).map fun value => -(value : Int)
  | .number digits => (natural? digits).map fun value => (value : Int)
  | _ => none

def textAt? (name : String) (tree : JsonTree) : Option String := (tree.member? name).bind text?

def textsAt? (name : String) (tree : JsonTree) : Option (List String) :=
  (tree.member? name).bind (list? text?)

end JsonTree

open JsonTree

def Treatment.ofTree? (tree : JsonTree) : Option Treatment :=
  match tree.textAt? "kind" with
  | some "single_file" => (tree.textAt? "artifact").map .compile
  | some "project" => some .make
  | some "skipped" => some .excluded
  | some "ignored" => some .ignored
  | _ => none

def Entry.ofTree? (tree : JsonTree) : Option Entry := do
  let name ← tree.textAt? "name"
  let treatment ← Treatment.ofTree? tree
  return ⟨name, treatment⟩

def Plan.ofTree? (tree : JsonTree) : Option Plan := do
  let entries ← (tree.member? "entries").bind (list? Entry.ofTree?)
  return ⟨entries⟩

def Fault.ofTree? (tree : JsonTree) : Option Fault :=
  match tree.textAt? "kind", tree.member? "code" with
  | some "exit", some .null => some (.exited none)
  | some "exit", some code => code.integer?.map fun code => .exited (some code)
  | some "launch", _ => do
      let program ← tree.textAt? "program"
      let message ← tree.textAt? "message"
      return .notLaunched program message
  | _, _ => none

def Outcome.ofTree? (tree : JsonTree) : Option Outcome :=
  match tree.textAt? "status" with
  | some "succeeded" => do
      let built ← tree.textsAt? "built"
      let skipped ← tree.textsAt? "skipped"
      let ignored ← tree.textsAt? "ignored"
      return .succeeded ⟨built, skipped, ignored⟩
  | some "failed" => do
      let entry ← tree.textAt? "entry"
      let fault ← (tree.member? "reason").bind Fault.ofTree?
      let builtBefore ← tree.textsAt? "built_before"
      return .failed ⟨entry, fault, builtBefore⟩
  | _ => none

/-! ## Each is read back as it was -/

theorem natural?_toDigits (value : Nat) : natural? (Nat.toDigits 10 value) = some value := by
  have digits : (Nat.toDigits 10 value).all Char.isDigit = true :=
    List.all_eq_true.mpr fun letter member =>
      Nat.isDigit_of_mem_toDigits (by decide) (by decide) member
  rw [natural?, if_pos digits, Nat.ofDigitChars_toDigits (by decide) (by decide)]

theorem integer?_number (value : Int) : (Json.number value).tree.integer? = some value := by
  rw [Json.tree, Json.writtenNumber]
  by_cases negative : value < 0
  · rw [if_pos negative]
    rw [integer?, natural?_toDigits]
    exact congrArg some (show -(value.natAbs : Int) = value by omega)
  · rw [if_neg negative]
    -- A natural number does not begin with a sign.
    have unsigned : ∀ digits, Nat.toDigits 10 value.natAbs ≠ '-' :: digits := by
      intro digits same
      have isDigit := Nat.isDigit_of_mem_toDigits (by decide) (by decide)
        (same ▸ List.mem_cons_self : '-' ∈ Nat.toDigits 10 value.natAbs)
      cases isDigit
    rw [integer?, natural?_toDigits]
    · exact congrArg some (show (value.natAbs : Int) = value by omega)
    · exact unsigned

theorem list?_arrayOf {α : Type} {read? : JsonTree → Option α} {toJson : α → Json}
    (reads : ∀ value, read? (toJson value).tree = some value) (values : List α) :
    (Json.arrayOf (values.map toJson)).tree.list? read? = some values := by
  rw [Json.arrayOf, Json.tree, list?]
  induction values with
  | nil => rfl
  | cons value rest induction =>
      rw [List.map_cons, JsonItems.ofList, JsonItems.trees, JsonTrees.readAll?, reads, induction]

theorem list?_strings (texts : List String) :
    (Json.strings texts).tree.list? text? = some texts :=
  list?_arrayOf (fun _ => rfl) texts

theorem Entry.ofTree?_toJson (entry : Entry) : ofTree? entry.toJson.tree = some entry := by
  rcases entry with ⟨name, treatment⟩
  cases treatment <;> rfl

theorem Plan.ofTree?_toJson (plan : Plan) : ofTree? plan.toJson.tree = some plan := by
  have found : plan.toJson.tree.member? "entries" =
      some (Json.arrayOf (plan.entries.map Entry.toJson)).tree := rfl
  simp [ofTree?, found, list?_arrayOf Entry.ofTree?_toJson]

theorem Fault.ofTree?_toJson (fault : Fault) : ofTree? fault.toJson.tree = some fault := by
  cases fault with
  | exited code =>
      cases code with
      | none => rfl
      | some code =>
          have read : ofTree? (toJson (.exited (some code))).tree =
              (Json.number code).tree.integer?.map fun code => .exited (some code) := rfl
          rw [read, integer?_number]
          rfl
  | notLaunched program message => rfl

theorem Outcome.ofTree?_toJson (outcome : Outcome) :
    ofTree? outcome.toJson.tree = some outcome := by
  cases outcome with
  | succeeded summary =>
      have read : ofTree? (toJson (.succeeded summary)).tree = (do
          let built ← (Json.strings summary.built).tree.list? text?
          let skipped ← (Json.strings summary.skipped).tree.list? text?
          let ignored ← (Json.strings summary.ignored).tree.list? text?
          return .succeeded ⟨built, skipped, ignored⟩) := rfl
      simp [read, list?_strings]
  | failed failure =>
      have read : ofTree? (toJson (.failed failure)).tree = (do
          let fault ← Fault.ofTree? failure.fault.toJson.tree
          let builtBefore ← (Json.strings failure.builtBefore).tree.list? text?
          return .failed ⟨failure.entry, fault, builtBefore⟩) := rfl
      simp [read, list?_strings, Fault.ofTree?_toJson]

/-! ## What is printed determines the value -/

/-- What is printed of a value says one thing, from which the value is read back. -/
structure IsReadBack {α : Type} (print : α → String) (read? : JsonTree → Option α) : Prop where
  says_one : ∀ value, ∃! tree, JsonText.Says (print value).toList tree
  reads : ∀ value tree, JsonText.Says (print value).toList tree → read? tree = some value
  injective : Function.Injective print

theorem IsReadBack.ofTree {α : Type} {toJson : α → Json} {read? : JsonTree → Option α}
    (reads : ∀ value, read? (toJson value).tree = some value) :
    IsReadBack (fun value => (toJson value).indented) read? where
  says_one value := ⟨(toJson value).tree, JsonText.says_indented _,
    fun _ reading => reading.unique (JsonText.says_indented _)⟩
  reads value tree reading := by
    rw [reading.unique (JsonText.says_indented _)]
    exact reads value
  injective := by
    intro value other same
    have reading := JsonText.says_indented (toJson value)
    dsimp only at same
    rw [same] at reading
    have sameTree := reading.unique (JsonText.says_indented _)
    exact Option.some.inj ((reads value).symm.trans (sameTree ▸ reads other))

/-- Every plan and every outcome is determined by what is printed of it as JSON. -/
theorem printed_json_isReadBack :
    IsReadBack (fun plan : Plan => plan.toJson.indented) Plan.ofTree? ∧
      IsReadBack (fun outcome : Outcome => outcome.toJson.indented) Outcome.ofTree? :=
  ⟨.ofTree Plan.ofTree?_toJson, .ofTree Outcome.ofTree?_toJson⟩

end ExampleBuild
