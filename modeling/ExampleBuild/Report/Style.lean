import ExampleBuild.Report.Colours
import ExampleBuild.Text.Terminal

namespace ExampleBuild

/-! The marks and colours of a report. Colours are written only where the environment
asks for them. -/

structure Style where
  coloured : Bool

namespace Style

def ofEnvironment (environment : Environment) : Style := ⟨Colours.areWanted environment⟩

def between (style : Style) (startCode endCode text : String) : String :=
  if style.coloured then Terminal.code startCode ++ text ++ Terminal.code endCode else text

@[simp] theorem between_coloured (startCode endCode text : String) :
    between ⟨true⟩ startCode endCode text =
      Terminal.code startCode ++ text ++ Terminal.code endCode := rfl

@[simp] theorem between_plain (startCode endCode text : String) :
    between ⟨false⟩ startCode endCode text = text := rfl

def green (style : Style) (text : String) : String := style.between "32" "39" text

def red (style : Style) (text : String) : String := style.between "31" "39" text

def blue (style : Style) (text : String) : String := style.between "34" "39" text

def dimmed (style : Style) (text : String) : String := style.between "2" "0" text

/-! ## Lines of a report -/

def success (style : Style) (message : String) : String := style.green "✓" ++ " " ++ message

def failure (style : Style) (message : String) : String :=
  style.red "✗" ++ " " ++ style.red message

def notice (style : Style) (message : String) : String := style.blue "•" ++ " " ++ message

def statistic (style : Style) (label value : String) : String :=
  "  " ++ style.dimmed label ++ ": " ++ value

end Style

end ExampleBuild
