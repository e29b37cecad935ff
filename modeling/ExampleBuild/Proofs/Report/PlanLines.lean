import ExampleBuild.Report.DryRun

namespace ExampleBuild

namespace PlanLines

/-! The lines that show a plan, spelled out as they are seen: plain, or with the codes that
colour parts of them. A command stands on a line of its own, with its program before its
arguments. -/

def heading (coloured : Bool) (directory : Path) : String :=
  if coloured then "\x1b[34m•\x1b[39m Examples in " ++ directory.shown
  else "• Examples in " ++ directory.shown

def builtLine (coloured : Bool) (entry : Entry) : String :=
  let description := entry.treatment.description
  if coloured then
    "  \x1b[32m+\x1b[39m " ++ entry.name ++ " \x1b[2m(" ++ description ++ ")\x1b[0m"
  else "  + " ++ entry.name ++ " (" ++ description ++ ")"

def commandLine (coloured : Bool) (command : Command) : String :=
  let arguments := " ".intercalate command.arguments
  if coloured then
    "      \x1b[2m" ++ command.program ++ "\x1b[0m \x1b[2m" ++ arguments ++ "\x1b[0m"
  else "      " ++ command.program ++ " " ++ arguments

def passedLine (coloured : Bool) (entry : Entry) : String :=
  let description := entry.treatment.description
  if coloured then
    "  \x1b[2m-\x1b[0m \x1b[2m" ++ entry.name ++ " (" ++ description ++ ")\x1b[0m"
  else "  - " ++ entry.name ++ " (" ++ description ++ ")"

def countLine (coloured : Bool) (count : Nat) : String :=
  if coloured then "  \x1b[2mWould build\x1b[0m: " ++ toString count
  else "  Would build: " ++ toString count

def ofShown (coloured : Bool) : Entry × Option Command → List String
  | (entry, some command) => [builtLine coloured entry, commandLine coloured command]
  | (entry, none) => [passedLine coloured entry]

/-! ## As they are put together

Texts that are put together in different ways are compared as lists of characters. -/

theorem commandText_eq (style : Style) (command : Command) :
    DryRun.commandText style command = commandLine style.coloured command := by
  rcases style with ⟨coloured⟩
  cases coloured <;>
    simp [DryRun.commandText, commandLine, Style.dimmed, Terminal.code, ← String.toList_inj]

theorem entryLines_eq (style : Style) (entry : Entry) (command : Option Command) :
    DryRun.entryLines style entry command = ofShown style.coloured (entry, command) := by
  rcases style with ⟨coloured⟩
  cases command with
  | none =>
      cases coloured <;>
        simp [DryRun.entryLines, ofShown, passedLine, Entry.shown, Style.dimmed, Terminal.code,
          ← String.toList_inj]
  | some command =>
      rw [DryRun.entryLines, commandText_eq]
      cases coloured <;>
        simp [ofShown, builtLine, Style.green, Style.dimmed, Terminal.code, ← String.toList_inj]

theorem notice_eq_heading (style : Style) (directory : Path) :
    style.notice ("Examples in " ++ directory.shown) = heading style.coloured directory := by
  rcases style with ⟨coloured⟩
  cases coloured <;>
    simp [Style.notice, heading, Style.blue, Terminal.code, ← String.toList_inj]

theorem statistic_eq_countLine (style : Style) (count : Nat) :
    style.statistic "Would build" (toString count) = countLine style.coloured count := by
  rcases style with ⟨coloured⟩
  cases coloured <;>
    simp [Style.statistic, countLine, Style.dimmed, Terminal.code]

/-! ## As they begin -/

def beginsWith (mark line : String) : Bool := mark.toList.isPrefixOf line.toList

def commandMark : String := "      "

def passedMark (coloured : Bool) : String := if coloured then "  \x1b[2m-" else "  -"

section

variable (coloured : Bool)

/-- Six spaces begin the line of a command and no other. -/
theorem filter_ofShown_commands (shown : Entry × Option Command) :
    (ofShown coloured shown).filter (beginsWith commandMark) =
      (shown.2.map (commandLine coloured)).toList := by
  rcases shown with ⟨entry, command⟩
  cases command <;> cases coloured <;>
    simp [ofShown, builtLine, commandLine, passedLine, beginsWith, commandMark]

theorem filter_ofShown_passed (shown : Entry × Option Command) :
    (ofShown coloured shown).filter (beginsWith (passedMark coloured)) =
      if shown.2.isNone then [passedLine coloured shown.1] else [] := by
  rcases shown with ⟨entry, command⟩
  cases command <;> cases coloured <;>
    simp [ofShown, builtLine, commandLine, passedLine, beginsWith, passedMark]

theorem beginsWith_heading (directory : Path) :
    beginsWith commandMark (heading coloured directory) = false ∧
      beginsWith (passedMark coloured) (heading coloured directory) = false := by
  cases coloured <;> simp [heading, beginsWith, commandMark, passedMark, List.isPrefixOf]

theorem beginsWith_countLine (count : Nat) :
    beginsWith commandMark (countLine coloured count) = false ∧
      beginsWith (passedMark coloured) (countLine coloured count) = false := by
  cases coloured <;> simp [countLine, beginsWith, commandMark, passedMark, List.isPrefixOf]

end

end PlanLines

end ExampleBuild
