import BufferColor.Proofs.Spelling
import Mathlib.Algebra.Group.Int.Defs
import Mathlib.Algebra.Group.Nat.Defs

/-! Integers in two hexadecimal places or more. A minus sign takes one of the places; how many there
are tells how far from zero the integer is, and two without a sign are what the octets have and no other
integer. Digits stand for a number by their places in the alphabet, whatever their letter case; octets
spelled one after the other are the digits of that number to the base 256. -/
namespace BufferColor.Numeral
open Hex (Spelling DigitOf alphabet capitals)

theorem digitsPositive (base n : Nat) : 0 < (digits base n).length := by
  rw [digits]
  split <;> simp

theorem digitsLength {base : Nat} (two : 2 ≤ base) (k n : Nat) :
    (digits base n).length ≤ k + 1 ↔ n < base ^ (k + 1) := by
  induction k generalizing n with
  | zero =>
    by_cases small : n < base
    · simp [digitsBelow small, small]
    · have front := digitsPositive base (n / base)
      rw [digitsStep two (by omega)]
      simp only [List.length_append, List.length_singleton, Nat.zero_add, Nat.pow_one]
      omega
  | succ k ih =>
    by_cases small : n < base
    · have more : base ≤ base ^ (k + 1 + 1) := Nat.le_self_pow (by omega) base
      simp only [digitsBelow small, List.length_singleton]
      omega
    · have front := ih (n / base)
      rw [Nat.div_lt_iff_lt_mul (by omega), ← Nat.pow_succ] at front
      rw [digitsStep two (by omega), ← front]
      simp

theorem upperDigitCapital : ∀ d < 16, upperDigit d ∈ capitals := by
  decide

theorem upperHexCapitals (n : Nat) : ∀ c ∈ upperHex n, c ∈ capitals := by
  intro c mem
  obtain ⟨d, inside, rfl⟩ := List.mem_map.mp mem
  exact upperDigitCapital d (digitsBounded (by omega) n d inside)

theorem upperHexPositive (n : Nat) : 0 < (upperHex n).length := by
  rw [upperHex, List.length_map]
  exact digitsPositive 16 n

theorem paddedLength (width : Nat) (cs : List Char) :
    (padded width cs).length = max width cs.length := by
  simp only [padded, List.length_append, List.length_replicate]
  omega

def sign (n : Int) : List Char := if n < 0 then ['-'] else []

theorem signCases (n : Int) : n < 0 ∧ sign n = ['-'] ∨ 0 ≤ n ∧ sign n = [] := by
  by_cases negative : n < 0
  · exact .inl ⟨negative, if_pos negative⟩
  · exact .inr ⟨Int.not_lt.mp negative, if_neg negative⟩

def digitPlaces (n : Int) : List Char := padded (2 - (sign n).length) (upperHex n.natAbs)

theorem digitPlacesCapitals (n : Int) : ∀ c ∈ digitPlaces n, c ∈ capitals := by
  intro c mem
  rcases List.mem_append.mp mem with zero | digit
  · obtain ⟨_, rfl⟩ := List.mem_replicate.mp zero
    exact upperDigitCapital 0 (by omega)
  · exact upperHexCapitals n.natAbs c digit

theorem digitPlacesSome (n : Int) : digitPlaces n ≠ [] := by
  apply List.ne_nil_of_length_pos
  rw [digitPlaces, paddedLength]
  exact Nat.lt_of_lt_of_le (upperHexPositive n.natAbs) (Nat.le_max_right _ _)

theorem placesParts (n : Int) : hexPlaces n = sign n ++ digitPlaces n := by
  cases n with
  | ofNat n => rfl
  | negSucc n =>
    have filled : 1 - (upperHex (n + 1)).length = 0 :=
      Nat.sub_eq_zero_of_le (upperHexPositive (n + 1))
    have minus : sign (.negSucc n) = ['-'] := if_pos (Int.negSucc_lt_zero n)
    rw [digitPlaces, minus]
    change '-' :: upperHex (n + 1) = '-' :: padded 1 (upperHex (n + 1))
    rw [padded, filled, List.replicate_zero, List.nil_append]

theorem placesLength (n : Int) :
    (hexPlaces n).length = max 2 ((sign n).length + (digits 16 n.natAbs).length) := by
  have short : (sign n).length ≤ 1 := by
    rcases signCases n with ⟨_, same⟩ | ⟨_, same⟩ <;> simp [same]
  rw [placesParts, List.length_append, digitPlaces, paddedLength, upperHex, List.length_map]
  omega

theorem hexPlacesLength (n : Int) : 2 ≤ (hexPlaces n).length := by
  rw [placesLength]
  exact Nat.le_max_left _ _

theorem hexPlacesChars (n : Int) : ∀ c ∈ hexPlaces n, c = '-' ∨ c ∈ capitals := by
  intro c mem
  rw [placesParts] at mem
  rcases List.mem_append.mp mem with minus | digit
  · rcases signCases n with ⟨_, same⟩ | ⟨_, same⟩
    · exact .inl (List.mem_singleton.mp (same ▸ minus))
    · exact absurd (same ▸ minus) List.not_mem_nil
  · exact .inr (digitPlacesCapitals n c digit)

theorem placesSigned (n : Int) : '-' ∈ hexPlaces n ↔ n < 0 := by
  have unsigned : '-' ∉ digitPlaces n := fun mem =>
    absurd (digitPlacesCapitals n _ mem) (by decide)
  rw [placesParts, List.mem_append, or_iff_left unsigned]
  rcases signCases n with ⟨negative, same⟩ | ⟨natural, same⟩
  · simp [same, negative]
  · simp [same, Int.not_lt.mpr natural]

theorem digitsWithin (k n : Nat) : (digits 16 n).length ≤ k + 1 ↔ (n : Int) < 16 ^ (k + 1) := by
  rw [digitsLength (by omega), ← Int.ofNat_lt]
  push_cast
  rfl

theorem placesWithin (k : Nat) (n : Int) :
    (hexPlaces n).length ≤ k + 2 ↔ -16 ^ (k + 1) < n ∧ n < 16 ^ (k + 2) := by
  have positive : (0 : Int) < 16 ^ (k + 1) := Int.pow_pos (by omega)
  have next : (16 : Int) ^ (k + 2) = 16 ^ (k + 1) * 16 := Int.pow_succ 16 (k + 1)
  rw [placesLength, Nat.max_le, and_iff_right (Nat.le_add_left 2 k)]
  rcases signCases n with ⟨negative, same⟩ | ⟨natural, same⟩
  · have size := digitsWithin k n.natAbs
    simp only [same, List.length_singleton]
    omega
  · have size := digitsWithin (k + 1) n.natAbs
    simp only [same, List.length_nil, Nat.zero_add]
    omega

theorem placesTwo (n : Int) : (hexPlaces n).length = 2 ↔ -16 < n ∧ n < 256 := by
  have long := hexPlacesLength n
  have within := placesWithin 0 n
  simp only [Nat.zero_add, Int.reducePow] at within
  omega

theorem paddedOctet {letter : Nat → Char} (zero : letter 0 = '0') {n : Nat} (small : n < 256) :
    padded 2 ((digits 16 n).map letter) = [letter (n / 16), letter (n % 16)] := by
  by_cases one : n < 16
  · rw [digitsBelow one, Nat.div_eq_of_lt one, Nat.mod_eq_of_lt one, zero]
    rfl
  · rw [digitsStep (by omega) (by omega), digitsBelow (by omega)]
    simp [padded]

theorem hexPlacesOctet {n : Nat} (small : n < 256) :
    hexPlaces n = [upperDigit (n / 16), upperDigit (n % 16)] := paddedOctet rfl small

theorem lowerOctet {n : Nat} (small : n < 256) :
    padded 2 (lowerHex n) = [lowerDigit (n / 16), lowerDigit (n % 16)] := paddedOctet rfl small

theorem hexPlacesSpelling {n : Int} (octet : IsOctet n) : Spelling [n] (hexPlaces n) := by
  obtain ⟨n, rfl⟩ := Int.eq_ofNat_of_zero_le octet.1
  have small : n < 256 := by have := octet.2; omega
  rw [hexPlacesOctet small]
  exact .octet small (.inr rfl) (.inr rfl) .nil

theorem octetOfPlaces {n : Int} (two : (hexPlaces n).length = 2) (unsigned : '-' ∉ hexPlaces n) :
    IsOctet n := by
  rw [placesTwo] at two
  rw [placesSigned] at unsigned
  exact ⟨by omega, by omega⟩

end BufferColor.Numeral

namespace BufferColor

namespace Numeral

theorem ofDigitsZeros (base count : Nat) (ds : List Nat) :
    ofDigits base (List.replicate count 0 ++ ds) = ofDigits base ds := by
  induction count with
  | zero => rfl
  | succ count ih => simpa [ofDigits, List.replicate_succ] using ih

end Numeral

namespace Hex
open Numeral (digits ofDigits padded lowerDigit upperDigit)

def place (c : Char) : Nat := capitals.idxOf c.toUpper

def number (cs : List Char) : Nat := ofDigits 16 (cs.map place)

theorem lettersPlaced : ∀ d < 16, place (lowerDigit d) = d ∧ place (upperDigit d) = d := by
  decide

theorem digitPlaced {d : Nat} {c : Char} (small : d < 16) (spells : DigitOf d c) : place c = d := by
  rcases spells with rfl | rfl
  · exact (lettersPlaced d small).1
  · exact (lettersPlaced d small).2

def joined (octets : List Int) : Int := octets.foldl (fun n octet => 256 * n + octet) 0

theorem spellingNumber {ns : List Int} {cs : List Char} (spelled : Spelling ns cs) :
    (number cs : Int) = joined ns := by
  suffices general : ∀ start : Nat,
      (((cs.map place).foldl (fun n d => n * 16 + d) start : Nat) : Int) =
        ns.foldl (fun n octet => 256 * n + octet) (start : Int) from general 0
  induction spelled with
  | nil => intro start; rfl
  | @octet n c d ns cs small high low tail ih =>
    intro start
    have atHigh : place c = n / 16 := digitPlaced (by omega) high
    have atLow : place d = n % 16 := digitPlaced (by omega) low
    have step : (start * 16 + n / 16) * 16 + n % 16 = 256 * start + n := by omega
    rw [List.map_cons, List.map_cons, List.foldl_cons, List.foldl_cons, atHigh, atLow, step, ih,
      List.foldl_cons, Int.natCast_add, Int.natCast_mul]
    rfl

section
variable {letter : Nat → Char} (letters : ∀ d, DigitOf d (letter d))
include letters

theorem paddedNumber (width n : Nat) : number (padded width ((digits 16 n).map letter)) = n := by
  have back : ∀ d ∈ digits 16 n, (place ∘ letter) d = id d := fun d mem =>
    digitPlaced (Numeral.digitsBounded (by omega) n d mem) (letters d)
  have zero : place '0' = 0 := rfl
  rw [number, padded, List.map_append, List.map_replicate, zero, Numeral.ofDigitsZeros, List.map_map,
    List.map_congr_left back, List.map_id, Numeral.ofDigitsDigits (by omega)]

theorem paddedListed (width n : Nat) :
    ∀ c ∈ padded width ((digits 16 n).map letter), c ∈ alphabet := by
  intro c mem
  rw [padded, List.mem_append] at mem
  rcases mem with zero | digit
  · obtain ⟨_, rfl⟩ := List.mem_replicate.mp zero
    exact (lettersListed 0 (by decide)).1
  · obtain ⟨d, inside, rfl⟩ := List.mem_map.mp digit
    exact digitListed (Numeral.digitsBounded (by omega) n d inside) (letters d)

end

theorem paddedSize (letter : Nat → Char) {width n : Nat} (small : n < 16 ^ (width + 1)) :
    (padded (width + 1) ((digits 16 n).map letter)).length = width + 1 := by
  have size := (Numeral.digitsLength (by omega) width n).mpr small
  rw [Numeral.paddedLength, List.length_map]
  omega

end Hex
end BufferColor
