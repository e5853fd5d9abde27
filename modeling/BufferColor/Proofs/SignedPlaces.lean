import BufferColor.Proofs.OctetText
import Mathlib.Data.List.Basic

/-! Integers of any size and sign read back from their places in the text of a color. A minus sign, or
none, and the digits behind it are the text of one integer only, and how many places there are tells
where it lies. This holds of each channel by itself, since nothing keeps the places of two apart. -/
namespace BufferColor

namespace Hex
open Numeral (sign)

/- Goes on with a number whose first digits are read already; nothing but digits may follow them. -/
def numberBehind? (n : Nat) : List Char → Option Nat
  | [] => some n
  | c :: rest => do
      let d ← digit? c
      numberBehind? (n * 16 + d) rest

def unsigned? : List Char → Option Nat
  | [] => none
  | c :: rest => numberBehind? 0 (c :: rest)

def signed? : List Char → Option Int
  | '-' :: rest => (unsigned? rest).map fun n : Nat => -(n : Int)
  | cs => (unsigned? cs).map fun n : Nat => (n : Int)

theorem behindRead {cs : List Char} (digits : ∀ c ∈ cs, c ∈ alphabet) (start : Nat) :
    numberBehind? start cs = some ((cs.map place).foldl (fun n d => n * 16 + d) start) := by
  induction cs generalizing start with
  | nil => rfl
  | cons c rest ih =>
    obtain ⟨small, spells⟩ := alphabetSpells (digits c List.mem_cons_self)
    have tail := ih (fun d mem => digits d (List.mem_cons_of_mem c mem)) (start * 16 + place c)
    rw [numberBehind?, digitRead small spells]
    exact tail

theorem unsignedRead {cs : List Char} (more : cs ≠ []) (digits : ∀ c ∈ cs, c ∈ alphabet) :
    unsigned? cs = some (number cs) := by
  cases cs with
  | nil => contradiction
  | cons c rest => exact behindRead digits 0

theorem signedRead {n : Int} {cs : List Char} (read : unsigned? cs = some n.natAbs)
    (plain : '-' ∉ cs) : signed? (sign n ++ cs) = some n := by
  rcases Numeral.signCases n with ⟨negative, same⟩ | ⟨natural, same⟩
  · have back : -(n.natAbs : Int) = n := by omega
    rw [same, List.singleton_append, signed?, read, Option.map_some, back]
  · have back : (n.natAbs : Int) = n := by omega
    rw [same, List.nil_append, signed?, read, Option.map_some, back]
    rintro rest rfl
    exact plain List.mem_cons_self

end Hex

namespace Numeral
open Hex (alphabet capitals signed?)

theorem placesRead (n : Int) : signed? (hexPlaces n) = some n := by
  have letters : ∀ d, Hex.DigitOf d (upperDigit d) := fun d => .inr rfl
  have digits : ∀ c ∈ digitPlaces n, c ∈ alphabet := Hex.paddedListed letters _ _
  have value : Hex.number (digitPlaces n) = n.natAbs := Hex.paddedNumber letters _ _
  have read := Hex.unsignedRead (digitPlacesSome n) digits
  rw [value] at read
  rw [placesParts]
  exact Hex.signedRead read fun minus => Hex.signUnlisted (digits _ minus)

theorem placesInjective : Function.Injective hexPlaces := by
  intro m n same
  have read := placesRead m
  rw [same, placesRead] at read
  exact (Option.some.inj read).symm

theorem placesUnmarked (n : Int) : '#' ∉ hexPlaces n ∧ 'x' ∉ hexPlaces n := by
  constructor
  · intro mem
    exact absurd (hexPlacesChars n _ mem) (by decide)
  · intro mem
    exact absurd (hexPlacesChars n _ mem) (by decide)

theorem placesOctet (n : Int) : IsOctet n ↔
    ∃ high low, hexPlaces n = [high, low] ∧ high ∈ alphabet ∧ low ∈ alphabet := by
  constructor
  · intro octet
    have spelled := hexPlacesSpelling octet
    have digits := Hex.spellingDigits spelled
    obtain ⟨high, low, pair⟩ := List.length_eq_two.mp (Hex.spellingLength spelled)
    rw [pair] at digits
    exact ⟨high, low, pair, digits high (by simp), digits low (by simp)⟩
  · intro ⟨high, low, pair, atHigh, atLow⟩
    apply octetOfPlaces
    · rw [pair]
      rfl
    · intro mem
      rw [pair] at mem
      rcases List.mem_cons.mp mem with rfl | mem
      · exact Hex.signUnlisted atHigh
      · exact Hex.signUnlisted (List.mem_singleton.mp mem ▸ atLow)

/-- The text of a color is a mark and the places of its channels, whatever integers these are. The
places of an integer are its sign, if it has one, and its digits in capitals, with a zero in front of
them where one of two places is left. They are read back to the integer, so no other one has them.
Their count tells how far from zero it lies: two digits without a sign are what the octets have, and
two places with a sign what the integers from -15 to -1 have. -/
theorem integerReadFromPlaces (n : Int) :
    (∀ c : Color, c.hex.toList = '#' :: (hexPlaces c.alpha.level ++ (hexPlaces c.red.level ++
      (hexPlaces c.green.level ++ hexPlaces c.blue.level)))) ∧
    hexPlaces n = sign n ++ digitPlaces n ∧ (∀ c ∈ digitPlaces n, c ∈ capitals) ∧
    '#' ∉ hexPlaces n ∧ 'x' ∉ hexPlaces n ∧
    signed? (hexPlaces n) = some n ∧ (∀ m, hexPlaces m = hexPlaces n ↔ m = n) ∧
    2 ≤ (hexPlaces n).length ∧
    (∀ k, (hexPlaces n).length ≤ k + 2 ↔ -16 ^ (k + 1) < n ∧ n < 16 ^ (k + 2)) ∧
    (IsOctet n ↔ ∃ high low, hexPlaces n = [high, low] ∧ high ∈ alphabet ∧ low ∈ alphabet) ∧
    ((hexPlaces n).length = 2 ∧ '-' ∈ hexPlaces n ↔ -15 ≤ n ∧ n ≤ -1) := by
  refine ⟨?text, placesParts n, digitPlacesCapitals n, (placesUnmarked n).1, (placesUnmarked n).2,
    placesRead n, fun m => placesInjective.eq_iff, hexPlacesLength n, fun k => placesWithin k n,
    placesOctet n, ?signed⟩
  case text =>
    intro c
    have mark : c.hex.toList = '#' :: c.places := String.toList_ofList
    rw [mark, Color.placesAppended]
  case signed =>
    rw [placesTwo, placesSigned]
    omega

example : [-16, -1, 1, 255, 256].map hexPlaces =
    ["-10", "-1", "01", "FF", "100"].map String.toList := by cbv

end Numeral
end BufferColor
