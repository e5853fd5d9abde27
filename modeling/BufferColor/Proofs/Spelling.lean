import BufferColor.HexText
import BufferColor.Numeral

/-! Spellings of octets, two hexadecimal digits each and every digit in either letter case. The
readers of the library take a spelling for the octets that it spells, and nothing else for one. -/
namespace BufferColor

def IsOctet (n : Int) : Prop := 0 ≤ n ∧ n ≤ 255
instance (n : Int) : Decidable (IsOctet n) := inferInstanceAs (Decidable (0 ≤ n ∧ n ≤ 255))

namespace Hex
open Numeral (lowerDigit upperDigit)

def alphabet : List Char := "0123456789abcdefABCDEF".toList
def capitals : List Char := "0123456789ABCDEF".toList

def DigitOf (d : Nat) (c : Char) : Prop := c = lowerDigit d ∨ c = upperDigit d
instance (d c) : Decidable (DigitOf d c) :=
  inferInstanceAs (Decidable (c = lowerDigit d ∨ c = upperDigit d))

inductive Spelling : List Int → List Char → Prop where
  | nil : Spelling [] []
  | octet {n : Nat} {c d : Char} {ns : List Int} {cs : List Char} (small : n < 256)
      (high : DigitOf (n / 16) c) (low : DigitOf (n % 16) d) (tail : Spelling ns cs) :
      Spelling (n :: ns) (c :: d :: cs)

theorem lettersRead : ∀ d < 16, digit? (lowerDigit d) = some d ∧ digit? (upperDigit d) = some d := by
  decide

theorem lettersListed : ∀ d < 16, lowerDigit d ∈ alphabet ∧ upperDigit d ∈ alphabet := by
  decide

theorem signUnlisted : '-' ∉ alphabet := by
  decide

theorem marksUnlisted : '#' ∉ alphabet ∧ 'x' ∉ alphabet := by
  decide

theorem digitRead {d : Nat} {c : Char} (small : d < 16) (spells : DigitOf d c) :
    digit? c = some d := by
  rcases spells with rfl | rfl
  · exact (lettersRead d small).1
  · exact (lettersRead d small).2

theorem digitListed {d : Nat} {c : Char} (small : d < 16) (spells : DigitOf d c) :
    c ∈ alphabet := by
  rcases spells with rfl | rfl
  · exact (lettersListed d small).1
  · exact (lettersListed d small).2

theorem digitSpelled {d : Nat} {c : Char} (h : digit? c = some d) : DigitOf d c := by
  have back : Char.ofNat c.toNat = c := Char.ofNat_toNat c
  have point : c.toNat = c.val.toNat := rfl
  simp only [digit?, Char.le_def, UInt32.le_iff_toNat_le] at h
  split at h
  · rename_i range
    have low : '0'.val.toNat = 48 := rfl
    have high : '9'.val.toNat = 57 := rfl
    obtain rfl := Option.some.inj h
    left
    rw [lowerDigit, if_pos (by omega), show 48 + (c.toNat - 48) = c.toNat by omega, back]
  · split at h
    · rename_i range
      have low : 'A'.val.toNat = 65 := rfl
      have high : 'F'.val.toNat = 70 := rfl
      obtain rfl := Option.some.inj h
      right
      rw [upperDigit, if_neg (by omega), show 55 + (c.toNat - 55) = c.toNat by omega, back]
    · split at h
      · rename_i range
        have low : 'a'.val.toNat = 97 := rfl
        have high : 'f'.val.toNat = 102 := rfl
        obtain rfl := Option.some.inj h
        left
        rw [lowerDigit, if_neg (by omega), show 87 + (c.toNat - 87) = c.toNat by omega, back]
      · contradiction

theorem digitAlphabet {c : Char} : (digit? c).isSome ↔ c ∈ alphabet := by
  constructor
  · intro h
    obtain ⟨d, read⟩ := Option.isSome_iff_exists.mp h
    exact digitListed (digitBound read) (digitSpelled read)
  · intro listed
    have all : allDigits alphabet = true := by decide
    exact List.all_eq_true.mp all c listed

theorem allListed {cs : List Char} (all : allDigits cs = true) : ∀ c ∈ cs, c ∈ alphabet :=
  fun c mem => digitAlphabet.mp (List.all_eq_true.mp all c mem)

theorem octetRead {n : Nat} {c d : Char} (small : n < 256) (high : DigitOf (n / 16) c)
    (low : DigitOf (n % 16) d) (rest : List Char) : octetOf? (c :: d :: rest) = some n := by
  have atHigh := digitRead (by omega) high
  have atLow := digitRead (by omega) low
  simp only [octetOf?, atHigh, atLow, bind, Option.bind, Option.some.injEq]
  omega

theorem octetSpelled {n : Nat} {c d : Char} {rest : List Char}
    (h : octetOf? (c :: d :: rest) = some n) :
    n < 256 ∧ DigitOf (n / 16) c ∧ DigitOf (n % 16) d := by
  simp only [octetOf?, bind, Option.bind_eq_some_iff] at h
  obtain ⟨high, atHigh, low, atLow, last⟩ := h
  have highBound := digitBound atHigh
  have lowBound := digitBound atLow
  obtain rfl := Option.some.inj last
  refine ⟨by omega, ?_, ?_⟩
  · rw [show (16 * high + low) / 16 = high by omega]
    exact digitSpelled atHigh
  · rw [show (16 * high + low) % 16 = low by omega]
    exact digitSpelled atLow

theorem spellingRead {n : Nat} {c d : Char} {rest cs : List Char} {ns : List Int}
    (read : octetOf? (c :: d :: rest) = some n) (tail : Spelling ns cs) :
    Spelling (n :: ns) (c :: d :: cs) := by
  obtain ⟨small, high, low⟩ := octetSpelled read
  exact .octet small high low tail

theorem spellingLength {ns : List Int} {cs : List Char} (spelled : Spelling ns cs) :
    cs.length = 2 * ns.length := by
  induction spelled with
  | nil => rfl
  | octet small high low tail ih => simp only [List.length_cons, ih]; omega

theorem spellingDigits {ns : List Int} {cs : List Char} (spelled : Spelling ns cs) :
    ∀ c ∈ cs, c ∈ alphabet := by
  induction spelled with
  | nil => simp
  | octet small high low tail ih =>
    intro c mem
    rcases List.mem_cons.mp mem with rfl | mem
    · exact digitListed (by omega) high
    · rcases List.mem_cons.mp mem with rfl | mem
      · exact digitListed (by omega) low
      · exact ih c mem

theorem spellingOctets {ns : List Int} {cs : List Char} (spelled : Spelling ns cs) :
    ∀ n ∈ ns, IsOctet n := by
  induction spelled with
  | nil => simp
  | octet small high low tail ih =>
    intro n mem
    rcases List.mem_cons.mp mem with rfl | mem
    · exact ⟨by omega, by omega⟩
    · exact ih n mem

theorem spellingAppend {ns ms : List Int} {cs ds : List Char} (spelled : Spelling ns cs)
    (after : Spelling ms ds) : Spelling (ns ++ ms) (cs ++ ds) := by
  induction spelled with
  | nil => exact after
  | octet small high low tail ih => exact .octet small high low ih

theorem digitsSpell (count : Nat) {cs : List Char} (size : cs.length = 2 * count)
    (digits : ∀ c ∈ cs, c ∈ alphabet) : ∃ ns, ns.length = count ∧ Spelling ns cs := by
  induction count generalizing cs with
  | zero =>
    obtain rfl := List.length_eq_zero_iff.mp size
    exact ⟨[], rfl, .nil⟩
  | succ count ih =>
    match cs, size with
    | c :: d :: rest, size =>
      obtain ⟨high, atHigh⟩ := Option.isSome_iff_exists.mp (digitAlphabet.mpr (digits c (by simp)))
      obtain ⟨low, atLow⟩ := Option.isSome_iff_exists.mp (digitAlphabet.mpr (digits d (by simp)))
      have read : octetOf? (c :: d :: rest) = some (16 * high + low) := by
        simp [octetOf?, atHigh, atLow]
      have left : rest.length = 2 * count := by simp only [List.length_cons] at size; omega
      obtain ⟨ns, length, tail⟩ := ih left fun x mem => digits x (by simp [mem])
      exact ⟨_ :: ns, by simp [length], spellingRead read tail⟩

end Hex
end BufferColor
