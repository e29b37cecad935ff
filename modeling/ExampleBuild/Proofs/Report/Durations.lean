import ExampleBuild.Duration
import Mathlib.Data.List.TakeWhile

namespace ExampleBuild

/-! A duration is shown in one of three forms, with numbers of different units. Whoever reads
the text back gets the duration cut off at the smallest unit of its form, and a longer
duration never reads as a shorter time. -/

inductive ShownTime
  | inMinutes (minutes seconds : Nat)
  | inSeconds (seconds hundredths : Nat)
  | inMilliseconds (milliseconds : Nat)
  deriving DecidableEq

namespace ShownTime

open Duration (decimal twoDigits)

/-- How each form is written. Hundredths have two digits, whatever their number. -/
def text : ShownTime → String
  | .inMinutes minutes seconds => decimal minutes ++ "m " ++ decimal seconds ++ "s"
  | .inSeconds seconds hundredths =>
      decimal seconds ++ "."
        ++ String.ofList [(hundredths / 10).digitChar, (hundredths % 10).digitChar] ++ "s"
  | .inMilliseconds milliseconds => decimal milliseconds ++ "ms"

def InRange : ShownTime → Prop
  | .inMinutes minutes seconds => 1 ≤ minutes ∧ seconds ≤ 59
  | .inSeconds seconds hundredths => 1 ≤ seconds ∧ seconds ≤ 59 ∧ hundredths ≤ 99
  | .inMilliseconds milliseconds => milliseconds ≤ 999

def unit : ShownTime → Nat
  | .inMinutes _ _ => 1000000000
  | .inSeconds _ _ => 10000000
  | .inMilliseconds _ => 1000000

def time : ShownTime → Nat
  | .inMinutes minutes seconds => (60 * minutes + seconds) * 1000000000
  | .inSeconds seconds hundredths => (100 * seconds + hundredths) * 10000000
  | .inMilliseconds milliseconds => milliseconds * 1000000

/-! ## Reading a text -/

def number? (letters : List Char) : Option (Nat × List Char) :=
  match letters.takeWhile Char.isDigit with
  | [] => none
  | digits => some (Nat.ofDigitChars 10 digits 0, letters.dropWhile Char.isDigit)

def hundredths? : List Char → Option Nat
  | [tens, ones, 's'] =>
      if tens.isDigit && ones.isDigit then some (Nat.ofDigitChars 10 [tens, ones] 0) else none
  | _ => none

def ofText? (text : String) : Option ShownTime :=
  match number? text.toList with
  | some (milliseconds, ['m', 's']) => some (.inMilliseconds milliseconds)
  | some (seconds, '.' :: rest) => (hundredths? rest).map (.inSeconds seconds)
  | some (minutes, 'm' :: ' ' :: rest) =>
      match number? rest with
      | some (seconds, ['s']) => some (.inMinutes minutes seconds)
      | _ => none
  | _ => none

theorem number?_decimal (value : Nat) (rest : List Char)
    (ends : ∀ letter ∈ rest.head?, letter.isDigit = false) :
    number? ((decimal value).toList ++ rest) = some (value, rest) := by
  have digits : ∀ letter ∈ Nat.toDigits 10 value, letter.isDigit = true := fun letter =>
    Nat.isDigit_of_mem_toDigits (by decide) (by decide)
  have noMore : rest.takeWhile Char.isDigit = [] ∧ rest.dropWhile Char.isDigit = rest := by
    cases rest with
    | nil => simp
    | cons letter others => simp [ends letter (by simp)]
  rw [decimal, String.toList_ofList, number?, List.takeWhile_append_of_pos digits,
    List.dropWhile_append_of_pos digits, noMore.1, noMore.2, List.append_nil]
  split
  · next empty => exact absurd empty Nat.toDigits_ne_nil
  · rw [Nat.ofDigitChars_toDigits (by decide) (by decide)]

theorem twoDigits_eq {value : Nat} (small : value ≤ 99) :
    twoDigits value = String.ofList [(value / 10).digitChar, (value % 10).digitChar] := by
  by_cases oneDigit : value < 10
  · have tens : value / 10 = 0 := by omega
    have ones : value % 10 = value := by omega
    rw [twoDigits, if_pos oneDigit, decimal, Nat.toDigits_of_lt_base oneDigit, tens, ones]
    have zero : String.ofList ['0'] ++ String.ofList [value.digitChar] = _ :=
      String.ofList_append.symm
    exact zero
  · have tens : value / 10 < 10 := by omega
    rw [twoDigits, if_neg oneDigit, decimal,
      Nat.toDigits_of_base_le (by decide) (Nat.le_of_not_lt oneDigit),
      Nat.toDigits_of_lt_base tens, List.singleton_append]

theorem hundredths?_twoDigits {value : Nat} (small : value ≤ 99) :
    hundredths? [(value / 10).digitChar, (value % 10).digitChar, 's'] = some value := by
  have digit {part : Nat} (isDigit : part < 10) :
      part.digitChar.isDigit = true ∧ Nat.ofDigitChars 10 [part.digitChar] 0 = part := by
    refine ⟨by simpa [Nat.isDigit_digitChar] using isDigit, ?_⟩
    rw [← Nat.toDigits_of_lt_base isDigit, Nat.ofDigitChars_toDigits (by decide) (by decide)]
  have tens := digit (show value / 10 < 10 by omega)
  have ones := digit (show value % 10 < 10 by omega)
  simp only [Nat.ofDigitChars_cons, Nat.ofDigitChars_nil] at tens ones
  rw [hundredths?, tens.1, ones.1]
  simp only [Bool.and_self, if_true, Nat.ofDigitChars_cons, Nat.ofDigitChars_nil, Option.some.injEq]
  omega

theorem ofText?_text {shown : ShownTime} (inRange : shown.InRange) :
    ofText? shown.text = some shown := by
  cases shown with
  | inMinutes minutes seconds =>
      have second := number?_decimal seconds ['s'] (by simp)
      have first := number?_decimal minutes
        ('m' :: ' ' :: ((decimal seconds).toList ++ ['s'])) (by simp)
      have letters : (text (.inMinutes minutes seconds)).toList =
          (decimal minutes).toList ++ 'm' :: ' ' :: ((decimal seconds).toList ++ ['s']) := by
        simp [text]
      rw [ofText?, letters, first]
      simp [second]
  | inSeconds seconds hundredths =>
      have second := hundredths?_twoDigits inRange.2.2
      have first := number?_decimal seconds
        ['.', (hundredths / 10).digitChar, (hundredths % 10).digitChar, 's'] (by simp)
      have letters : (text (.inSeconds seconds hundredths)).toList = (decimal seconds).toList ++
          ['.', (hundredths / 10).digitChar, (hundredths % 10).digitChar, 's'] := by
        simp [text]
      rw [ofText?, letters, first]
      simp [second]
  | inMilliseconds milliseconds =>
      have first := number?_decimal milliseconds ['m', 's'] (by simp)
      have letters : (text (.inMilliseconds milliseconds)).toList =
          (decimal milliseconds).toList ++ ['m', 's'] := by
        simp [text]
      rw [ofText?, letters, first]
      rfl

/-! ## What is shown of a duration -/

def ofDuration (duration : Duration) : ShownTime :=
  if 60 ≤ duration.seconds then .inMinutes (duration.seconds / 60) (duration.seconds % 60)
  else if 0 < duration.seconds then
    .inSeconds duration.seconds (duration.milliseconds / 10)
  else .inMilliseconds duration.milliseconds

variable (duration : Duration)

theorem ofDuration_inRange : (ofDuration duration).InRange := by
  have bounded := duration.bounded
  unfold ofDuration Duration.milliseconds
  split
  · simp only [InRange]
    omega
  · split
    · simp only [InRange]
      omega
    · simp only [InRange]
      omega

theorem shown_eq_text : duration.shown = (ofDuration duration).text := by
  have inRange := ofDuration_inRange duration
  unfold ofDuration at inRange ⊢
  rw [Duration.shown]
  split
  · rfl
  · next short =>
      rw [if_neg short] at inRange
      split
      · next long =>
          rw [if_pos long] at inRange
          rw [text, twoDigits_eq inRange.2.2]
      · rfl

/-- The time that is shown is the duration, cut off at the unit of the form. -/
theorem time_ofDuration :
    (ofDuration duration).time =
      duration.totalNanoseconds / (ofDuration duration).unit * (ofDuration duration).unit := by
  have bounded := duration.bounded
  unfold ofDuration Duration.milliseconds Duration.totalNanoseconds
  split
  · simp only [time, unit]
    omega
  · split
    · simp only [time, unit]
      omega
    · simp only [time, unit]
      omega

theorem unit_ofDuration :
    (ofDuration duration).unit =
      if 60000000000 ≤ duration.totalNanoseconds then 1000000000
      else if 1000000000 ≤ duration.totalNanoseconds then 10000000
      else 1000000 := by
  have bounded := duration.bounded
  have minute : 60 ≤ duration.seconds ↔ 60000000000 ≤ duration.totalNanoseconds := by
    unfold Duration.totalNanoseconds
    omega
  have second : 0 < duration.seconds ↔ 1000000000 ≤ duration.totalNanoseconds := by
    unfold Duration.totalNanoseconds
    omega
  simp only [ofDuration, minute, second]
  split
  · rfl
  · split <;> rfl

/-- A unit never reaches beyond the length at which its form gives way to the next one, so
cutting off keeps the order also between forms. -/
theorem time_ofDuration_le {shorter longer : Duration}
    (le : shorter.totalNanoseconds ≤ longer.totalNanoseconds) :
    (ofDuration shorter).time ≤ (ofDuration longer).time := by
  rw [time_ofDuration, time_ofDuration, unit_ofDuration, unit_ofDuration]
  by_cases minutes : 60000000000 ≤ shorter.totalNanoseconds
  · rw [if_pos minutes, if_pos (minutes.trans le)]
    omega
  · rw [if_neg minutes]
    by_cases laterMinutes : 60000000000 ≤ longer.totalNanoseconds
    · rw [if_pos laterMinutes]
      split <;> omega
    · rw [if_neg laterMinutes]
      by_cases seconds : 1000000000 ≤ shorter.totalNanoseconds
      · rw [if_pos seconds, if_pos (seconds.trans le)]
        omega
      · rw [if_neg seconds]
        split <;> omega

end ShownTime

/-- What a duration is shown as has one of the three forms and can be read back from its
text. It is the duration cut off at the unit of the form, and no more for a shorter one. -/
theorem Duration.shown_isReadBack (duration : Duration) :
    ∃ shown : ShownTime, shown.InRange ∧ duration.shown = shown.text ∧
      ShownTime.ofText? duration.shown = some shown ∧
      shown.time = duration.totalNanoseconds / shown.unit * shown.unit ∧
      shown.time ≤ duration.totalNanoseconds ∧
      duration.totalNanoseconds < shown.time + shown.unit ∧
      ∀ longer : Duration, duration.totalNanoseconds ≤ longer.totalNanoseconds →
        ∃ later, ShownTime.ofText? longer.shown = some later ∧ shown.time ≤ later.time := by
  have readBack (duration : Duration) :
      ShownTime.ofText? duration.shown = some (.ofDuration duration) := by
    rw [ShownTime.shown_eq_text]
    exact ShownTime.ofText?_text (ShownTime.ofDuration_inRange duration)
  have cut := ShownTime.time_ofDuration duration
  have unit : 0 < (ShownTime.ofDuration duration).unit := by
    cases ShownTime.ofDuration duration <;> simp [ShownTime.unit]
  refine ⟨.ofDuration duration, ShownTime.ofDuration_inRange duration,
    ShownTime.shown_eq_text duration, readBack duration, cut, ?_, ?_, fun longer le => ?_⟩
  · rw [cut]
    exact Nat.div_mul_le_self _ _
  · rw [cut]
    exact Nat.lt_div_mul_add unit
  · exact ⟨.ofDuration longer, readBack longer, ShownTime.time_ofDuration_le le⟩

example : ShownTime.ofText? (Duration.shown ⟨59, 999999999, by decide⟩) =
    some (.inSeconds 59 99) := by
  decide +kernel

end ExampleBuild
