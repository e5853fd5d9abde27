import BufferColor.Proofs.Description
import BufferColor.Proofs.Storable
import Mathlib.Logic.Equiv.Basic
import Mathlib.Tactic.Linarith
import Mathlib.Tactic.Ring

/-! The line of a color and the swatch in it. Of the eight basic colors of a console the swatch has the
one that is nearest to the color that is meant: each channel is rounded by itself, and none is as far
from full as from empty. What a terminal documents of its escapes is stated as its own premise. -/
namespace BufferColor

namespace Terminal

structure Documented (terminal : Terminal) : Prop where
  background : ∀ basic : Background,
    terminal.background basic = ("\x1b[" ++ toString basic.code ++ "m").toList
  dim : terminal.dim = "\x1b[2m".toList
  reset : terminal.reset = "\x1b[0m".toList
  dump : ∀ octets, terminal.dump octets [' '] = [' '].intercalate (octets.map octetChars)

theorem escapeText (code : Nat) : escape code = ("\x1b[" ++ toString code ++ "m").toList := by
  rw [escape, ← Numeral.naturalText]
  simp only [String.toList_append, String.toList_ofList]
  rfl

theorem ansiDocumented : ansi.Documented where
  background basic := escapeText basic.code
  dim := escapeText 2
  reset := escapeText 0
  dump _ := rfl

end Terminal

namespace ConsoleLine

variable {terminal : Terminal}

def label (description : List Char) : List Char :=
  if description.isEmpty then [] else description ++ [':', ' ']

def body (terminal : Terminal) (c : Color) (octets : List UInt8) : List Char :=
  swatch terminal c ++ ' ' :: c.hexChars ++
    ' ' :: (terminal.dim ++ terminal.dump octets [' '] ++ terminal.reset)

theorem partsJoined (c : Color) (octets : List UInt8) (description : List Char) :
    [' '].intercalate (parts terminal c octets description) =
      label description ++ body terminal c octets := by
  unfold parts label
  split <;> simp [body, List.intercalate, List.intersperse]

theorem lineGiven {c : Color} {octets : List UInt8} (given : c.octets? = some octets)
    (description : String) : consoleLine? terminal c description = some (String.ofList
      (label description.toList ++ body terminal c octets)) := by
  rw [consoleLine?, chars?, given, Option.map_some, Option.map_some, partsJoined]

theorem labelShown (description : String) : label description.toList =
    if description = "" then [] else description.toList ++ [':', ' '] := by
  simp only [label, List.isEmpty_iff, String.toList_eq_nil_iff]

structure Basic where
  red : Bool
  green : Bool
  blue : Bool
  deriving DecidableEq, Repr

namespace Basic

def level (full : Bool) : Int := if full then 255 else 0

def code (basic : Basic) : Nat :=
  40 + (if basic.red then 1 else 0) + (if basic.green then 2 else 0) + (if basic.blue then 4 else 0)

def exchanged (basic : Basic) : Basic := ⟨basic.blue, basic.green, basic.red⟩

def distance (basic : Basic) (r g b : Int) : Int :=
  (level basic.red - r) ^ 2 + (level basic.green - g) ^ 2 + (level basic.blue - b) ^ 2

def Nearest (basic : Basic) (r g b : Int) : Prop :=
  ∀ other, other ≠ basic → basic.distance r g b < other.distance r g b

def rounded (r g b : Int) : Basic := ⟨128 ≤ r, 128 ≤ g, 128 ≤ b⟩

theorem levelNearest {n : Int} {full : Bool} (other : full ≠ decide (128 ≤ n)) :
    (level (decide (128 ≤ n)) - n) ^ 2 < (level full - n) ^ 2 := by
  have squares : (255 - n) ^ 2 - (0 - n) ^ 2 = 255 * (255 - 2 * n) := by ring
  by_cases bright : 128 ≤ n
  · obtain rfl : full = false := by simpa [bright] using other
    have less : (255 - n) ^ 2 < (0 - n) ^ 2 := by linarith
    simpa [bright, level] using less
  · obtain rfl : full = true := by simpa [bright] using other
    have less : (0 - n) ^ 2 < (255 - n) ^ 2 := by linarith
    simpa [bright, level] using less

theorem levelLeast (n : Int) (full : Bool) :
    (level (decide (128 ≤ n)) - n) ^ 2 ≤ (level full - n) ^ 2 := by
  by_cases same : full = decide (128 ≤ n)
  · rw [same]
  · exact Int.le_of_lt (levelNearest same)

theorem roundedNearest (r g b : Int) : (rounded r g b).Nearest r g b := by
  intro other different
  have red := levelLeast r other.red
  have green := levelLeast g other.green
  have blue := levelLeast b other.blue
  simp only [distance, rounded]
  by_cases atRed : other.red = decide (128 ≤ r)
  · by_cases atGreen : other.green = decide (128 ≤ g)
    · by_cases atBlue : other.blue = decide (128 ≤ b)
      · exact absurd (by rw [rounded, ← atRed, ← atGreen, ← atBlue]) different
      · have farther := levelNearest atBlue
        linarith
    · have farther := levelNearest atGreen
      linarith
  · have farther := levelNearest atRed
    linarith

theorem nearestUnique {basic other : Basic} {r g b : Int} (nearest : basic.Nearest r g b)
    (least : ∀ any : Basic, other.distance r g b ≤ any.distance r g b) : other = basic := by
  apply Classical.byContradiction
  intro different
  have less := nearest other different
  have more := least basic
  omega

/- The binary digits of the code: red, green and blue below the digits of 40. -/
def bit (basic : Basic) : Nat → Bool
  | 0 => basic.red
  | 1 => basic.green
  | 2 => basic.blue
  | place + 3 => Nat.testBit 5 place

theorem codeBit (basic : Basic) (place : Nat) : basic.code.testBit place = basic.bit place := by
  obtain ⟨red, green, blue⟩ := basic
  match place with
  | 0 => cases red <;> cases green <;> cases blue <;> rfl
  | 1 => cases red <;> cases green <;> cases blue <;> rfl
  | 2 => cases red <;> cases green <;> cases blue <;> rfl
  | place + 3 =>
    have high : code ⟨red, green, blue⟩ / 2 ^ 3 = 5 := by
      cases red <;> cases green <;> cases blue <;> rfl
    rw [← Nat.testBit_div_two_pow, high]
    rfl

theorem codeExchanged (basic : Basic) (place : Nat) :
    basic.exchanged.code.testBit place = basic.code.testBit (Equiv.swap 0 2 place) := by
  rw [codeBit, codeBit]
  match place with
  | 0 =>
    rw [Equiv.swap_apply_left]
    rfl
  | 1 =>
    rw [Equiv.swap_apply_of_ne_of_ne (by decide) (by decide)]
    rfl
  | 2 =>
    rw [Equiv.swap_apply_right]
    rfl
  | place + 3 =>
    rw [Equiv.swap_apply_of_ne_of_ne (by omega) (by omega)]
    rfl

end Basic

open Color (ofMeant)

def painted (c : Color) : Basic := ⟨128 ≤ c.blue.level, 128 ≤ c.green.level, 128 ≤ c.red.level⟩

theorem swatchCode : ∀ place : Fin swatches.length, (swatches.get place).code = 40 + place := by
  decide

theorem indexSum (c : Color) : index c = (if 128 ≤ c.blue.level then 1 else 0) +
    (if 128 ≤ c.green.level then 2 else 0) + (if 128 ≤ c.red.level then 4 else 0) := by
  unfold index
  split <;> split <;> split <;> rfl

theorem backgroundPainted (c : Color) : (background c).code = (painted c).code := by
  have place : (background c).code = 40 + index c := swatchCode ⟨index c, indexBound c⟩
  simp only [place, indexSum, painted, Basic.code, decide_eq_true_eq, Nat.add_assoc]

theorem paintedMeant (r g b a : Int) : painted (ofMeant r g b a) = Basic.rounded r g b := rfl

theorem swatchText (documented : terminal.Documented) (c : Color) :
    swatch terminal c = ("\x1b[" ++ toString (painted c).code ++ "m  \x1b[0m").toList := by
  rw [swatch, documented.background, documented.reset, backgroundPainted]
  simp only [String.toList_append, List.append_assoc]
  rfl

theorem swatchFirst (documented : terminal.Documented) {c : Color} (stored : c.Storable)
    (description : String) : ∃ line rest, consoleLine? terminal c description = some line ∧
      line.toList = (if description = "" then [] else description.toList ++ [':', ' ']) ++
        ("\x1b[" ++ toString (painted c).code ++ "m  \x1b[0m").toList ++ rest := by
  obtain ⟨octets, given⟩ := Option.isSome_iff_exists.mp (Color.octetsOpen.mpr stored)
  refine ⟨_, ' ' :: c.hexChars ++ ' ' :: (terminal.dim ++ terminal.dump octets [' '] ++ terminal.reset),
    lineGiven given description, ?_⟩
  rw [String.toList_ofList, labelShown, body, swatchText documented]
  simp only [List.append_assoc]

/-- The swatch of the color that is meant by red, green and blue is in the basic color that is nearest
to them, and no other is as near. Neither the alpha nor the description makes a difference to it. With
red and blue exchanged in what is meant, the first and the third binary digit of the background are
exchanged and no others. -/
theorem swatchNearest (documented : terminal.Documented) {r g b : Int}
    (octets : IsOctet r ∧ IsOctet g ∧ IsOctet b) :
    ∃ basic : Basic, basic.Nearest r g b ∧
      (∀ other : Basic, (∀ any : Basic, other.distance r g b ≤ any.distance r g b) → other = basic) ∧
      ∀ a, IsOctet a → ∃ c d, Color.ofComponents (.int r) (.int g) (.int b) (.int a) = .ok c ∧
        Color.ofComponents (.int b) (.int g) (.int r) (.int a) = .ok d ∧
        (∀ description, ∃ line rest, consoleLine? terminal c description = some line ∧
          line.toList = (if description = "" then [] else description.toList ++ [':', ' ']) ++
            ("\x1b[" ++ toString basic.code ++ "m  \x1b[0m").toList ++ rest) ∧
        (background c).code = basic.code ∧
        ∀ place, (background d).code.testBit place =
          (background c).code.testBit (Equiv.swap 0 2 place) := by
  have nearest := Basic.roundedNearest r g b
  refine ⟨Basic.rounded r g b, nearest, fun other => Basic.nearestUnique nearest, ?_⟩
  intro a alpha
  obtain ⟨red, green, blue⟩ := octets
  have stored : (ofMeant r g b a).Storable := Color.meantStorable.mpr ⟨red, green, blue, alpha⟩
  refine ⟨ofMeant r g b a, ofMeant b g r a, Color.levelsStored red green blue alpha,
    Color.levelsStored blue green red alpha, swatchFirst documented stored, backgroundPainted _, ?_⟩
  intro place
  rw [backgroundPainted, backgroundPainted, paintedMeant]
  exact Basic.codeExchanged (Basic.rounded r g b) place

/-- A channel of 128 counts as full and one of 127 as empty. -/
theorem swatchBesideMiddle : Terminal.ansi.Documented ∧ (IsOctet 200 ∧ IsOctet 128 ∧ IsOctet 127) ∧
    ∃ c line rest, Color.ofComponents (.int 200) (.int 128) (.int 127) (.int 0) = .ok c ∧
      consoleLine? .ansi c "" = some line ∧ line.toList = "\x1b[43m  \x1b[0m".toList ++ rest := by
  have octets : IsOctet 200 ∧ IsOctet 128 ∧ IsOctet 127 := by decide
  obtain ⟨basic, _, only, shown⟩ := swatchNearest Terminal.ansiDocumented octets
  obtain ⟨c, _, made, _, lines, _⟩ := shown 0 (by decide)
  have yellow : Basic.mk true true false = basic := by
    apply only
    rintro ⟨red, green, blue⟩
    cases red <;> cases green <;> cases blue <;> decide
  obtain ⟨line, rest, given, chars⟩ := lines ""
  subst yellow
  exact ⟨Terminal.ansiDocumented, octets, c, line, rest, made, given, chars⟩

end ConsoleLine
end BufferColor
