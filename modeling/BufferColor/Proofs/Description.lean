import BufferColor.Color
import Mathlib.Data.List.Basic

/-! The description of a color, which names its channels one after the other in decimal. The decimal
texts are the usual ones, so every integer has a text of its own, and the mark that ends a channel
stands in none of them; so a description determines the color, in range or out of it. -/
namespace BufferColor.Numeral

theorem lowerDigitDecimal : ∀ d < 10, lowerDigit d = Nat.digitChar d := by
  decide

theorem naturalDigits (n : Nat) : natural n = Nat.toDigits 10 n := by
  induction n using Nat.strongRecOn with
  | ind n ih =>
    by_cases small : n < 10
    · rw [natural, digitsBelow small, Nat.toDigits_of_lt_base small, List.map_singleton,
        lowerDigitDecimal n small]
    · have front : (digits 10 (n / 10)).map lowerDigit = Nat.toDigits 10 (n / 10) := ih _ (by omega)
      have last : lowerDigit (n % 10) = Nat.digitChar (n % 10) := lowerDigitDecimal _ (by omega)
      rw [natural, digitsStep (by decide) (by omega), List.map_append, front, List.map_singleton,
        last, Nat.toDigits_of_base_le (by decide) (Nat.le_of_not_lt small)]

theorem naturalInjective {m n : Nat} (same : natural m = natural n) : m = n := by
  have digits := congrArg (Nat.ofDigitChars 10 · 0) same
  simpa only [naturalDigits, Nat.ofDigitChars_ten_toDigits] using digits

theorem naturalChars (n : Nat) : ∀ c ∈ natural n, c.isDigit = true := by
  intro c mem
  rw [naturalDigits] at mem
  exact Nat.isDigit_of_mem_toDigits (by decide) (by decide) mem

theorem naturalUnsigned (n : Nat) : '-' ∉ natural n := by
  intro mem
  exact absurd (naturalChars n _ mem) (by decide)

theorem decimalParts (n : Int) :
    decimal n = (if n < 0 then ['-'] else []) ++ natural n.natAbs := by
  cases n with
  | ofNat n => rfl
  | negSucc n =>
    rw [if_pos (Int.negSucc_lt_zero n)]
    rfl

theorem decimalSigned (n : Int) : '-' ∈ decimal n ↔ n < 0 := by
  rw [decimalParts, List.mem_append, or_iff_left (naturalUnsigned _)]
  by_cases negative : n < 0 <;> simp [negative]

theorem decimalInjective {m n : Int} (same : decimal m = decimal n) : m = n := by
  have sign : m < 0 ↔ n < 0 := by rw [← decimalSigned, ← decimalSigned, same]
  simp only [decimalParts, sign] at same
  have absolute := naturalInjective (List.append_cancel_left same)
  omega

theorem decimalChars (n : Int) : ∀ c ∈ decimal n, c = '-' ∨ c.isDigit = true := by
  intro c mem
  rw [decimalParts, List.mem_append] at mem
  rcases mem with sign | digit
  · split at sign
    · exact .inl (List.mem_singleton.mp sign)
    · contradiction
  · exact .inr (naturalChars _ c digit)

theorem naturalText (n : Nat) : String.ofList (natural n) = toString n := by
  rw [naturalDigits]
  rfl

theorem decimalText (n : Int) : String.ofList (decimal n) = toString n := by
  cases n with
  | ofNat n => exact naturalText n
  | negSucc n =>
    change String.ofList (['-'] ++ natural (n + 1)) = "-" ++ toString (n + 1)
    rw [String.ofList_append, naturalText]

end BufferColor.Numeral

namespace BufferColor

theorem cutAtMark {α : Type} [DecidableEq α] {mark : α} {front back front' back' : List α}
    (free : mark ∉ front) (free' : mark ∉ front')
    (same : front ++ mark :: back = front' ++ mark :: back') : front = front' ∧ back = back' := by
  have place := congrArg (List.idxOf mark) same
  rw [List.idxOf_append_of_notMem free, List.idxOf_append_of_notMem free', List.idxOf_cons_self,
    List.idxOf_cons_self] at place
  obtain ⟨fronts, rest⟩ := List.append_inj same place
  exact ⟨fronts, (List.cons.inj rest).2⟩

namespace Channel

theorem writtenChars (channel : Channel) : ∀ c ∈ channel.written, c = '-' ∨ c.isAlphanum = true := by
  intro c mem
  cases channel with
  | int n =>
    rcases Numeral.decimalChars n c mem with sign | digit
    · exact .inl sign
    · exact .inr (by simp [Char.isAlphanum, digit])
  | flag b =>
    have letters : (flag b).written.all (·.isAlphanum) = true := by cases b <;> rfl
    exact .inr (List.all_eq_true.mp letters c mem)

theorem flagNotDecimal (b : Bool) (n : Int) : (flag b).written ≠ (int n).written := by
  intro same
  have letter : 'e' ∈ (flag b).written := by cases b <;> decide
  rw [same] at letter
  exact absurd (Numeral.decimalChars n 'e' letter) (by decide)

theorem writtenInjective {a b : Channel} (same : a.written = b.written) : a = b := by
  cases a with
  | int m =>
    cases b with
    | int n => exact congrArg int (Numeral.decimalInjective same)
    | flag b => exact absurd same.symm (flagNotDecimal b m)
  | flag a =>
    cases b with
    | int n => exact absurd same (flagNotDecimal a n)
    | flag b =>
      revert same
      revert a b
      decide

def Separator (chars : List Char) : Prop :=
  ∃ mark tail, chars = mark :: tail ∧ mark ≠ '-' ∧ mark.isAlphanum = false

theorem writtenEnds {separator : List Char} (separates : Separator separator) {a b : Channel}
    {rest rest' : List Char}
    (same : a.written ++ (separator ++ rest) = b.written ++ (separator ++ rest')) :
    a = b ∧ rest = rest' := by
  obtain ⟨mark, tail, rfl, noSign, noLetter⟩ := separates
  have free (channel : Channel) : mark ∉ channel.written := by
    intro mem
    rcases channel.writtenChars mark mem with sign | letter
    · exact noSign sign
    · exact absurd letter (by simp [noLetter])
  obtain ⟨channels, rests⟩ := cutAtMark (free a) (free b) same
  exact ⟨writtenInjective channels, List.append_cancel_left rests⟩

end Channel

namespace Color

def Integral (c : Color) : Prop := ∃ r g b a : Int, c = ⟨.int r, .int g, .int b, .int a⟩

theorem integralSame {c d : Color} (whole : c.Integral) (other : d.Integral) :
    (c == d) = true ↔ c = d := by
  obtain ⟨r, g, b, a, rfl⟩ := whole
  obtain ⟨r', g', b', a', rfl⟩ := other
  rw [beqLevels, levelsSame]
  simp [Channel.level]

theorem writtenApart {c d : Color} (same : c.written = d.written) : c = d := by
  have green : Channel.Separator ", green=".toList := ⟨',', _, rfl, by decide⟩
  have blue : Channel.Separator ", blue=".toList := ⟨',', _, rfl, by decide⟩
  have alpha : Channel.Separator ", alpha=".toList := ⟨',', _, rfl, by decide⟩
  unfold written at same
  simp only [List.append_assoc] at same
  obtain ⟨atRed, same⟩ := Channel.writtenEnds green (List.append_cancel_left same)
  obtain ⟨atGreen, same⟩ := Channel.writtenEnds blue same
  obtain ⟨atBlue, same⟩ := Channel.writtenEnds alpha same
  have atAlpha := Channel.writtenInjective (List.append_cancel_right same)
  change mk c.red c.green c.blue c.alpha = d
  rw [atRed, atGreen, atBlue, atAlpha]

theorem describeSame {c d : Color} : c.describe = d.describe ↔ c = d := by
  constructor
  · intro same
    exact writtenApart (String.ofList_injective same)
  · exact congrArg describe

theorem describeText (r g b a : Int) : describe ⟨.int r, .int g, .int b, .int a⟩ =
    "Color(red=" ++ toString r ++ ", green=" ++ toString g ++ ", blue=" ++ toString b ++
      ", alpha=" ++ toString a ++ ")" := by
  unfold describe written
  simp only [String.ofList_append, String.ofList_toList, Channel.written, Numeral.decimalText]

/-- The description of a color of integers names the four of them in decimal, and no other color has
it: two colors of integers have one description exactly where they are equal, whether or not they
have octets. With truth values among its channels a color is told even from its equals. -/
theorem describeDeterminesChannels (c d : Color) :
    (c.Integral → c.describe = "Color(red=" ++ toString c.red.level ++ ", green=" ++
      toString c.green.level ++ ", blue=" ++ toString c.blue.level ++ ", alpha=" ++
      toString c.alpha.level ++ ")") ∧
    (c.Integral → d.Integral → (c.describe = d.describe ↔ (c == d) = true)) ∧
    (c.describe = d.describe ↔ c = d) := by
  refine ⟨?text, ?equal, describeSame⟩
  case text =>
    rintro ⟨r, g, b, a, rfl⟩
    exact describeText r g b a
  case equal =>
    intro whole other
    rw [describeSame, integralSame whole other]

example : hex ⟨.int 0x30, .int 0, .int (-1), .int 0x112⟩ =
    hex ⟨.int 0x230, .int 0, .int (-1), .int 0x11⟩ := by cbv

end Color
end BufferColor
