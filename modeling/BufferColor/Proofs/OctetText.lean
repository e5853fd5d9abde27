import BufferColor.Proofs.HexPlaces
import BufferColor.Proofs.NormalForm

/-! The octet at the front of a text. It is there exactly where the first two characters are digits,
and it is the number of these two whatever follows them; two digits of an octet, in capitals or in
small letters, are read back to it, and no other texts are. -/
namespace BufferColor.Hex
open CodePoint (points pointListed)
open Numeral (hexPlaces lowerHex padded)

theorem alphabetSpells {c : Char} (listed : c ∈ alphabet) : place c < 16 ∧ DigitOf (place c) c := by
  obtain ⟨d, read⟩ := Option.isSome_iff_exists.mp (digitAlphabet.mpr listed)
  have small := digitBound read
  have spells := digitSpelled read
  rw [digitPlaced small spells]
  exact ⟨small, spells⟩

theorem octetOfDigits {c d : Char} (high : c ∈ alphabet) (low : d ∈ alphabet) (rest : List Char) :
    octetOf? (c :: d :: rest) = some (16 * place c + place d) := by
  obtain ⟨highSmall, highSpells⟩ := alphabetSpells high
  obtain ⟨lowSmall, lowSpells⟩ := alphabetSpells low
  apply octetRead (by omega)
  · rwa [show (16 * place c + place d) / 16 = place c by omega]
  · rwa [show (16 * place c + place d) % 16 = place d by omega]

theorem octetSource {cs : List Char} {n : Nat} (read : octetOf? cs = some n) :
    ∃ c d rest, cs = c :: d :: rest ∧ c ∈ alphabet ∧ d ∈ alphabet := by
  match cs, read with
  | c :: d :: rest, read =>
    obtain ⟨small, high, low⟩ := octetSpelled read
    exact ⟨c, d, rest, rfl, digitListed (by omega) high, digitListed (by omega) low⟩

theorem octetForm {cs : List Char} : (∃ n, octetOf? cs = some n) ↔
    ∃ c d rest, cs = c :: d :: rest ∧ c ∈ alphabet ∧ d ∈ alphabet := by
  constructor
  · intro ⟨n, read⟩
    exact octetSource read
  · intro ⟨c, d, rest, split, high, low⟩
    exact ⟨_, split ▸ octetOfDigits high low rest⟩

theorem placesJoined (c : Char) {d : Char} (low : d ∈ alphabet) :
    16 * place c + place d = place c <<< 4 ||| place d := by
  have small : place d < 2 ^ 4 := (alphabetSpells low).1
  rw [← Nat.shiftLeft_add_eq_or_of_lt small, Nat.shiftLeft_eq, Nat.mul_comm]

theorem frontInCapitals {cs : List Char} {n : Nat} (read : octetOf? cs = some n) :
    (cs.take 2).map Char.toUpper = hexPlaces n := by
  match cs, read with
  | c :: d :: rest, read =>
    have spelled := spellingCapitals (spellingRead read .nil)
    rwa [List.flatMap_singleton] at spelled

theorem placesRead {n : Nat} (small : n < 256) (rest : List Char) :
    octetOf? (hexPlaces n ++ rest) = some n ∧ octetOf? (padded 2 (lowerHex n) ++ rest) = some n := by
  rw [Numeral.hexPlacesOctet small, Numeral.lowerOctet small]
  exact ⟨octetRead small (.inr rfl) (.inr rfl) rest, octetRead small (.inl rfl) (.inl rfl) rest⟩

theorem digitCase (c : Char) : digit? c.toUpper = digit? c := by
  by_cases small : 'a'.val ≤ c.val ∧ c.val ≤ 'z'.val
  · have letters : ∀ n ∈ points ('a'.toNat, 'z'.toNat),
        digit? (Char.ofNat n).toUpper = digit? (Char.ofNat n) := by decide
    have listed : c.toNat ∈ points ('a'.toNat, 'z'.toNat) := pointListed.mpr
      ⟨UInt32.le_iff_toNat_le.mp small.1, UInt32.le_iff_toNat_le.mp small.2⟩
    simpa only [Char.ofNat_toNat] using letters c.toNat listed
  · exact congrArg digit? (dif_neg small)

theorem octetFront (cs : List Char) : octetOf? ((cs.take 2).map Char.toUpper) = octetOf? cs := by
  match cs with
  | [] => rfl
  | [_] => rfl
  | c :: d :: rest =>
    simp only [List.take_succ_cons, List.take_zero, List.map_cons, List.map_nil, octetOf?, digitCase]

/-- A text begins with an octet exactly where its first two characters are digits. The octet is the
number of the two, one digit for each half of its bits; neither their letter case nor anything behind
them counts. Every octet is read back from its two places in either letter case, and wherever one is
read, its places in capitals are the two characters in front. -/
theorem octetReadInFront (text : String) :
    ((∃ n, octet? text = some n) ↔
      ∃ c d rest, text.toList = c :: d :: rest ∧ c ∈ alphabet ∧ d ∈ alphabet) ∧
    (∀ c d rest n, text.toList = c :: d :: rest → octet? text = some n →
      n ≤ 255 ∧ n = 16 * place c + place d ∧ n = place c <<< 4 ||| place d) ∧
    (∀ other : String, (text.toList.take 2).map Char.toUpper = (other.toList.take 2).map Char.toUpper →
      octet? text = octet? other) ∧
    (∀ n : Nat, n ≤ 255 → octet? (String.ofList (hexPlaces n) ++ text) = some n ∧
      octet? (String.ofList (padded 2 (lowerHex n)) ++ text) = some n) ∧
    (∀ n, octet? text = some n → (text.toList.take 2).map Char.toUpper = hexPlaces n) := by
  refine ⟨octetForm, ?number, ?front, ?places, fun n => frontInCapitals⟩
  case number =>
    intro c d rest n split read
    have bound : n < 256 := octetBound read
    obtain ⟨c', d', rest', same, high, low⟩ := octetSource read
    obtain ⟨rfl, rfl, rfl⟩ : c = c' ∧ d = d' ∧ rest = rest' := by simpa [split] using same
    rw [octet?, split, octetOfDigits high low] at read
    obtain rfl := Option.some.inj read
    exact ⟨Nat.le_of_lt_succ bound, rfl, placesJoined c low⟩
  case front =>
    intro other same
    rw [octet?, octet?, ← octetFront text.toList, same, octetFront]
  case places =>
    intro n octet
    rw [octet?, octet?, String.toList_append, String.toList_append, String.toList_ofList,
      String.toList_ofList]
    exact placesRead (Nat.lt_succ_of_le octet) text.toList

example : ["+1", " 1", "1_", "0x", "１２", "f"].map octet? = List.replicate 6 none := by decide +kernel

end BufferColor.Hex
