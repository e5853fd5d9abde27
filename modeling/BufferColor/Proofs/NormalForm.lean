import BufferColor.Proofs.Detour
import BufferColor.Proofs.HexForm

/-! A normal form of hexadecimal text. A color that is read, rendered, read and rendered once more
has had red and blue exchanged back, so the text that comes out is the body that went in, in capitals
and with its alpha. It stands for the same color, and texts of one color have it in common. -/
namespace BufferColor

namespace Hex
open Numeral (lowerDigit upperDigit hexPlaces)

theorem lettersCapital : ∀ d < 16,
    (lowerDigit d).toUpper = upperDigit d ∧ (upperDigit d).toUpper = upperDigit d := by
  decide

theorem digitCapital {d : Nat} {c : Char} (small : d < 16) (spells : DigitOf d c) :
    c.toUpper = upperDigit d := by
  rcases spells with rfl | rfl
  · exact (lettersCapital d small).1
  · exact (lettersCapital d small).2

theorem spellingCapitals {ns : List Int} {cs : List Char} (spelled : Spelling ns cs) :
    cs.map Char.toUpper = ns.flatMap hexPlaces := by
  induction spelled with
  | nil => rfl
  | octet small high low tail ih =>
    have atHigh := digitCapital (by omega) high
    have atLow := digitCapital (by omega) low
    simp only [List.map_cons, List.flatMap_cons, Numeral.hexPlacesOctet small, atHigh, atLow, ih,
      List.cons_append, List.nil_append]

end Hex

namespace Color
open Numeral (hexPlaces)

def read? (text : String) : Option Color := (ofHexText text).toOption.join

def normal? (text : String) : Option String := do
  let once ← read? text
  let twice ← read? once.hex
  some twice.hex

def completed (body : List Char) : List Char :=
  (if body.length = 6 then ['F', 'F'] else []) ++ body.map Char.toUpper

theorem bodyCompleted {r g b a : Int} {body : List Char} (spelled : BodyOf r g b a body) :
    completed body = [a, r, g, b].flatMap hexPlaces := by
  rcases spelled with ⟨rfl, short⟩ | long
  · have six : body.length = 6 := Hex.spellingLength short
    have full : hexPlaces 255 = ['F', 'F'] := Numeral.hexPlacesOctet (by decide)
    have whole : [255, r, g, b].flatMap hexPlaces = hexPlaces 255 ++ [r, g, b].flatMap hexPlaces := rfl
    rw [completed, if_pos six, Hex.spellingCapitals short, whole, full]
  · have eight : body.length = 8 := Hex.spellingLength long
    rw [completed, if_neg (by omega), Hex.spellingCapitals long, List.nil_append]

theorem meantReturns {r g b a : Int} (octets : IsOctet r ∧ IsOctet g ∧ IsOctet b ∧ IsOctet a) :
    ofHexText (ofMeant r g b a).hex = .ok (some (ofMeant r g b a).exchanged) :=
  hexReadBack (meantStorable.mpr octets)

theorem hexSame {c d : Color} (same : c.levels = d.levels) : c.hex = d.hex := by
  obtain ⟨red, green, blue, alpha⟩ := levelsSame.mp same
  simp only [hex, hexChars, List.flatMap_cons, red, green, blue, alpha]

structure NormalForm (text : String) (c : Color) (body : List Char) : Prop where
  normal : normal? text = some c.exchanged.hex
  chars : c.exchanged.hex.toList = '#' :: completed body
  back : ofHexText c.exchanged.hex = .ok (some c)

theorem normalOfBody {r g b a : Int} {text : String} (spelled : BodyOf r g b a (unmarked text.toList)) :
    NormalForm text (ofMeant r g b a) (unmarked text.toList) := by
  have octets := bodyOctets spelled
  have read : ofHexText text = .ok (some (ofMeant r g b a)) := hexOfBody spelled
  have once := meantReturns octets
  have twice := meantReturns ⟨octets.2.2.1, octets.2.1, octets.1, octets.2.2.2⟩
  refine ⟨?_, ?_, twice⟩
  · simp only [normal?, read?, read, once, Except.toOption, Option.join_some, bind, Option.bind]
  · rw [hex, String.toList_ofList, bodyCompleted spelled]
    rfl

theorem normalOfRead {text : String} {c : Color} (read : ofHexText text = .ok (some c)) :
    ∃ marks body, HexForm text.toList marks body ∧ NormalForm text c body := by
  obtain ⟨r, g, b, a, spelled, same⟩ := readsColor hexReads read
  obtain ⟨marks, body, form⟩ := formOfBody spelled
  subst same
  exact ⟨marks, body, form, formUnmarked form ▸ normalOfBody spelled⟩

/-- Every text that is read has a normal form: its body in capitals and with its alpha, behind one
mark. That form is read as the same color and is its own normal form. Two texts that are read are
read as one color exactly where they have one normal form, which is where their bodies agree but for
the letter case and a full alpha. -/
theorem normalFormDecidesColor (text other : String) :
    (∀ c, ofHexText text = .ok (some c) → ∃ marks body normal, HexForm text.toList marks body ∧
      normal? text = some normal ∧ normal.toList = '#' :: completed body ∧
      ofHexText normal = ofHexText text ∧ normal? normal = some normal) ∧
    (∀ c d, ofHexText text = .ok (some c) → ofHexText other = .ok (some d) →
      ∃ marks body marks' body', HexForm text.toList marks body ∧
        HexForm other.toList marks' body' ∧
        [ofHexText text = ofHexText other, (c == d) = true, normal? text = normal? other,
          completed body = completed body'].TFAE) := by
  refine ⟨?form, ?kernel⟩
  case form =>
    intro c read
    obtain ⟨marks, body, form, normal⟩ := normalOfRead read
    obtain ⟨_, _, _, again⟩ := normalOfRead normal.back
    exact ⟨marks, body, c.exchanged.hex, form, normal.normal, normal.chars,
      normal.back.trans read.symm, again.normal⟩
  case kernel =>
    intro c d read readOther
    obtain ⟨marks, body, form, normal⟩ := normalOfRead read
    obtain ⟨marks', body', form', normal'⟩ := normalOfRead readOther
    refine ⟨marks, body, marks', body', form, form', ?_⟩
    tfae_have 1 → 2 := by
      intro same
      obtain rfl := Option.some.inj (Except.ok.inj (read.symm.trans (same.trans readOther)))
      exact beqLevels.mpr rfl
    tfae_have 2 → 3 := by
      intro same
      rw [normal.normal, normal'.normal, hexSame (exchangedLevels (beqLevels.mp same))]
    tfae_have 3 → 4 := by
      intro same
      have texts := Option.some.inj (normal.normal.symm.trans (same.trans normal'.normal))
      have chars := congrArg String.toList texts
      rw [normal.chars, normal'.chars] at chars
      exact (List.cons.inj chars).2
    tfae_have 4 → 1 := by
      intro same
      have texts : c.exchanged.hex = d.exchanged.hex := by
        rw [← String.toList_inj, normal.chars, normal'.chars, same]
      have back := normal.back
      rw [texts, normal'.back] at back
      rw [read, readOther, back]
    tfae_finish

example : ofHexText "#0xfc0A1b" = .ok (some ⟨.int 27, .int 10, .int 252, .int 255⟩) ∧
    (normal? "#0xfc0A1b").map String.toList = some "#FFFC0A1B".toList := ⟨rfl, by cbv⟩

end Color
end BufferColor
