import BufferColor.Proofs.HexForm
import Mathlib.Data.List.Basic

/-! The readers of bare digits, beside the reader that takes marks off first. They agree on every
text of six characters; of the texts of eight, the marks make a difference where two characters of
them stand before six digits. The reader of eight digits is the one of six with an alpha in front. -/
namespace BufferColor.Color
open Hex (alphabet)

structure MarkedPair (text digits : List Char) : Prop where
  split : text = '#' :: '#' :: digits ∨ text = '0' :: 'x' :: digits
  size : digits.length = 6
  digits : ∀ c ∈ digits, c ∈ alphabet

theorem unmarkedBody {r g b a : Int} {body : List Char} (spelled : BodyOf r g b a body) :
    unmarked body = body :=
  unmarkedDigits .nil (bodyDigits spelled).2

theorem unmarkedWhole {text : List Char} (long : text.length ≤ (unmarked text).length) :
    unmarked text = text := by
  obtain ⟨marks, _, split⟩ := unmarkedSplit text
  have size := congrArg List.length split
  rw [List.length_append] at size
  obtain rfl := List.length_eq_zero_iff.mp (show marks.length = 0 by omega)
  exact split.symm

theorem hexReadAs {read : List Char → Except ComponentError (Option Color)}
    {means : Int → Int → Int → Int → List Char → Prop} (reads : Reads read means)
    {text : List Char}
    (same : ∀ r g b a, BodyOf r g b a (unmarked text) ↔ means r g b a text) :
    ofHexChars text = read text := by
  rcases reads text with ⟨r, g, b, a, spelled, given⟩ | ⟨other, refused⟩
  · rw [given, hexOfBody ((same r g b a).mpr spelled)]
  · rw [refused, hexRefused fun r g b a spelled => other r g b a ((same r g b a).mp spelled)]

theorem sixBody {text : List Char} (six : text.length = 6) (r g b a : Int) :
    BodyOf r g b a (unmarked text) ↔ RgbOf r g b a text := by
  constructor
  · intro spelled
    have size := (bodyDigits spelled).1
    rw [unmarkedWhole (by omega)] at spelled
    rcases spelled with short | long
    · exact short
    · have eight : text.length = 8 := Hex.spellingLength long
      omega
  · intro short
    rw [unmarkedBody (.inl short)]
    exact .inl short

theorem marksPair {marks : List Char} (chain : Marks marks) (two : marks.length = 2) :
    marks = ['#', '#'] ∨ marks = ['0', 'x'] := by
  cases chain with
  | nil => simp at two
  | hash tail =>
    cases tail with
    | nil => simp at two
    | hash tail =>
      obtain rfl : _ = [] := by simpa using two
      exact .inl rfl
    | zeroX tail => simp at two
  | zeroX tail =>
    obtain rfl : _ = [] := by simpa using two
    exact .inr rfl

theorem pairOfSix {text : List Char} {r g b a : Int} (eight : text.length = 8)
    (short : RgbOf r g b a (unmarked text)) : MarkedPair text (unmarked text) := by
  have six : (unmarked text).length = 6 := Hex.spellingLength short.2
  obtain ⟨marks, chain, split⟩ := unmarkedSplit text
  have two : marks.length = 2 := by
    have size := congrArg List.length split
    rw [List.length_append] at size
    omega
  refine ⟨?_, six, Hex.spellingDigits short.2⟩
  rcases marksPair chain two with rfl | rfl
  · exact .inl split
  · exact .inr split

theorem eightBody {text : List Char} (eight : text.length = 8)
    (apart : ∀ digits, ¬ MarkedPair text digits) (r g b a : Int) :
    BodyOf r g b a (unmarked text) ↔ ArgbOf r g b a text := by
  constructor
  · intro spelled
    rcases spelled with short | long
    · exact absurd (pairOfSix eight short) (apart _)
    · have size : (unmarked text).length = 8 := Hex.spellingLength long
      rwa [unmarkedWhole (by omega)] at long
  · intro long
    rw [unmarkedBody (.inr long)]
    exact .inr long

theorem pairNotArgb {text digits : List Char} (pair : MarkedPair text digits) :
    ofArgbChars text = .ok none := by
  apply argbRefused
  intro r g b a long
  have listed := Hex.spellingDigits long
  rcases pair.split with rfl | rfl
  · exact Hex.marksUnlisted.1 (listed '#' (by simp))
  · exact Hex.marksUnlisted.2 (listed 'x' (by simp))

theorem pairRead {text digits : List Char} (pair : MarkedPair text digits) :
    ∃ c, ofRgbChars digits = .ok (some c) ∧ ofHexChars text = .ok (some c) ∧
      c.alpha = .int 255 := by
  obtain ⟨r, g, b, short⟩ := sixDigits pair.size pair.digits
  refine ⟨ofMeant r g b 255, rgbOfSpelling short, ?_, rfl⟩
  rcases pair.split with rfl | rfl
  · exact markedBodyRead (.hash (.hash .nil)) (.inl short)
  · exact markedBodyRead (.zeroX .nil) (.inl short)

theorem strictRead {text : List Char} {c : Color}
    (read : ofRgbChars text = .ok (some c) ∨ ofArgbChars text = .ok (some c)) :
    ofHexChars text = .ok (some c) := by
  rcases read with short | long
  · obtain ⟨r, g, b, a, spelled, rfl⟩ := readsColor rgbReads short
    exact markedBodyRead .nil (.inl spelled)
  · obtain ⟨r, g, b, a, spelled, rfl⟩ := readsColor argbReads long
    exact markedBodyRead .nil (.inr spelled)

theorem strictApart {text : List Char} {c d : Color} (short : ofRgbChars text = .ok (some c))
    (long : ofArgbChars text = .ok (some d)) : False := by
  obtain ⟨_, _, _, _, six, _⟩ := readsColor rgbReads short
  obtain ⟨_, _, _, _, eight, _⟩ := readsColor argbReads long
  have six : text.length = 6 := Hex.spellingLength six.2
  have eight : text.length = 8 := Hex.spellingLength eight
  omega

/-- What a reader of bare digits reads, the reader with marks reads as the same color. On six
characters the two give one result; on eight they differ only where two characters of marks stand
before six digits, and there the digits are read and the eight characters are not. No text is read
both as six digits and as eight. -/
theorem strictReadersAgree (text : String) :
    (∀ c, ofRgbText text = .ok (some c) ∨ ofArgbText text = .ok (some c) →
      ofHexText text = .ok (some c)) ∧
    (text.length = 6 → ofHexText text = ofRgbText text) ∧
    (text.length = 8 →
      (ofHexText text ≠ ofArgbText text ↔ ∃ digits, MarkedPair text.toList digits)) ∧
    (∀ digits, MarkedPair text.toList digits → ofArgbText text = .ok none ∧
      ∃ c, ofRgbText (String.ofList digits) = .ok (some c) ∧ ofHexText text = .ok (some c) ∧
        c.alpha = .int 255) ∧
    ¬ ((∃ c, ofRgbText text = .ok (some c)) ∧ ∃ d, ofArgbText text = .ok (some d)) := by
  refine ⟨fun c => strictRead, fun six => hexReadAs rgbReads (sixBody six), fun eight => ⟨?differ, ?pair⟩,
    fun digits pair => ⟨pairNotArgb pair, ?read⟩, fun ⟨⟨c, short⟩, d, long⟩ => strictApart short long⟩
  case differ =>
    intro different
    apply Classical.byContradiction
    intro apart
    exact different (hexReadAs argbReads (eightBody eight (not_exists.mp apart)))
  case pair =>
    intro ⟨digits, pair⟩ same
    obtain ⟨c, _, read, _⟩ := pairRead pair
    have unread : ofHexChars text.toList = .ok none := same.trans (pairNotArgb pair)
    cases read.symm.trans unread
  case read =>
    rw [ofRgbText, String.toList_ofList]
    exact pairRead pair

example : ofHexText "0X12aBcD" = .ok none ∧ ofArgbText "0X12aBcD" = .ok none := ⟨rfl, rfl⟩

theorem argbInParts {c d : Char} {rest : List Char} {n : Nat} {solid : Color}
    (octet : Hex.octetOf? [c, d] = some n) (read : ofRgbChars rest = .ok (some solid)) :
    ofArgbChars (c :: d :: rest) = .ok (some { solid with alpha := .int n }) := by
  obtain ⟨r, g, b, a, ⟨rfl, spelled⟩, rfl⟩ := readsColor rgbReads read
  exact argbOfSpelling (Hex.spellingRead octet spelled)

theorem argbParts {c d : Char} {rest : List Char} {color : Color}
    (read : ofArgbChars (c :: d :: rest) = .ok (some color)) :
    (∃ n, Hex.octetOf? [c, d] = some n) ∧ ∃ solid, ofRgbChars rest = .ok (some solid) := by
  obtain ⟨r, g, b, a, spelled, _⟩ := readsColor argbReads read
  match spelled with
  | .octet small high low tail =>
    exact ⟨⟨_, Hex.octetRead small high low []⟩, _, rgbOfSpelling ⟨rfl, tail⟩⟩

theorem fullAlphaInFront (rest : List Char) : ofArgbChars ('f' :: 'f' :: rest) = ofRgbChars rest := by
  rcases rgbReads rest with ⟨r, g, b, a, ⟨rfl, spelled⟩, given⟩ | ⟨other, refused⟩
  · have full : Hex.octetOf? ['f', 'f'] = some 255 := rfl
    rw [given]
    exact argbOfSpelling (Hex.spellingRead full spelled)
  · rw [refused]
    apply argbRefused
    intro r g b a spelled
    match spelled with
    | .octet _ _ _ tail => exact other r g b 255 ⟨rfl, tail⟩

/-- Eight digits are read exactly where the first two are an octet and the rest are read as six
digits. The color is that of the six with the octet for its alpha, since the exchange of red and blue
in it is undone before the constructor makes the next one; with full alpha it is the very same. -/
theorem alphaJoinsColor (front rest : String) :
    (front.length = 2 →
      ((∃ c, ofArgbText (front ++ rest) = .ok (some c)) ↔
        (∃ n, Hex.octet? front = some n) ∧ ∃ c, ofRgbText rest = .ok (some c)) ∧
      ∀ n c, Hex.octet? front = some n → ofRgbText rest = .ok (some c) →
        ofArgbText (front ++ rest) = .ok (some { c with alpha := .int n })) ∧
    ofArgbText ("ff" ++ rest) = ofRgbText rest := by
  simp only [ofArgbText, ofRgbText, Hex.octet?, String.toList_append, ← String.length_toList]
  refine ⟨fun two => ?_, fullAlphaInFront rest.toList⟩
  obtain ⟨c, d, same⟩ := List.length_eq_two.mp two
  rw [same]
  refine ⟨⟨?parts, ?joined⟩, fun n solid => argbInParts⟩
  case parts =>
    rintro ⟨color, read⟩
    exact argbParts read
  case joined =>
    rintro ⟨⟨n, octet⟩, solid, read⟩
    exact ⟨_, argbInParts octet read⟩

end BufferColor.Color
