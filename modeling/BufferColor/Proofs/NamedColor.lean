import BufferColor.Proofs.HexReading
import BufferColor.Proofs.NameLetters
import BufferColor.Proofs.Scaling
import BufferColor.Proofs.Storable

/-! Colors by name. Whatever library gives their components, the constructor is handed octets. What a
library documents is stated as its own premise: which texts it takes, and which octets its components
are close to; all that a name gives for a color follows from that and from the scaling. -/
namespace BufferColor

namespace ColorName
open Hex (Spelling alphabet)

structure HashForm (count : Nat) (text digits : List Char) : Prop where
  split : text = '#' :: digits
  size : digits.length = count
  digits : ∀ c ∈ digits, c ∈ alphabet

inductive Means : List Char → Int → Int → Int → Prop where
  | six {r g b : Int} {digits : List Char} (spelled : Spelling [r, g, b] digits) :
      Means ('#' :: digits) r g b
  | three {r g b : Int} {x y z : Char} (spelled : Spelling [r, g, b] [x, x, y, y, z, z]) :
      Means ['#', x, y, z] r g b
  | listed {text : List Char} {entry : String × Nat} (listed : entry ∈ table)
      (lowered : LowerCase.lower text = entry.1.toList) :
      Means text (entry.2 / 65536 % 256 : Nat) (entry.2 / 256 % 256 : Nat) (entry.2 % 256 : Nat)

theorem meansOctets {cs : List Char} {r g b : Int} (means : Means cs r g b) :
    IsOctet r ∧ IsOctet g ∧ IsOctet b := by
  cases means with
  | six spelled =>
    have octets := Hex.spellingOctets spelled
    exact ⟨octets r (by simp), octets g (by simp), octets b (by simp)⟩
  | three spelled =>
    have octets := Hex.spellingOctets spelled
    exact ⟨octets r (by simp), octets g (by simp), octets b (by simp)⟩
  | listed listed lowered =>
    simp only [IsOctet]
    omega

theorem meansVisible {cs : List Char} {r g b : Int} (means : Means cs r g b) :
    Blank.isBlank cs = false := by
  have hash (rest : List Char) : Blank.isBlank ('#' :: rest) = false := by
    rw [Blank.isBlank, List.all_cons, show Blank.isSpace '#' = false by decide, Bool.false_and]
  cases means with
  | six spelled => exact hash _
  | three spelled => exact hash _
  | listed listed lowered =>
    refine Bool.eq_false_iff.mpr fun blank => ?_
    exact namesApart (LowerCase.blankNotWord blank) _ listed lowered

theorem hashMeans {digits : List Char} {r g b : Int} (means : Means ('#' :: digits) r g b) :
    Spelling [r, g, b] digits ∨
      ∃ x y z, digits = [x, y, z] ∧ Spelling [r, g, b] [x, x, y, y, z, z] := by
  cases means with
  | six spelled => exact .inl spelled
  | three spelled => exact .inr ⟨_, _, _, rfl, spelled⟩
  | listed listed lowered =>
    exact absurd lowered (namesApart (LowerCase.hashNotWord digits) _ listed)

theorem meansForm {cs : List Char} {r g b : Int} (means : Means cs r g b) :
    (∃ digits, HashForm 3 cs digits) ∨ (∃ digits, HashForm 6 cs digits) ∨
      ∃ entry ∈ table, LowerCase.lower cs = entry.1.toList := by
  cases means with
  | six spelled =>
    exact .inr (.inl ⟨_, rfl, Hex.spellingLength spelled, Hex.spellingDigits spelled⟩)
  | @three r g b x y z spelled =>
    have digits := Hex.spellingDigits spelled
    refine .inl ⟨_, rfl, rfl, fun c mem => digits c ?_⟩
    simpa using mem
  | listed listed lowered => exact .inr (.inr ⟨_, listed, lowered⟩)

theorem sixMeans {text digits : List Char} (form : HashForm 6 text digits) :
    ∃ r g b, Spelling [r, g, b] digits ∧ Means text r g b := by
  obtain ⟨ns, three, spelled⟩ := Hex.digitsSpell 3 form.size form.digits
  match ns, three with
  | [r, g, b], _ => exact ⟨r, g, b, spelled, form.split ▸ .six spelled⟩

theorem threeMeans {text digits : List Char} (form : HashForm 3 text digits) :
    ∃ r g b, Spelling [r, g, b] (digits.flatMap fun d => [d, d]) ∧ Means text r g b := by
  match digits, form with
  | [x, y, z], form =>
    have listed : ∀ c ∈ [x, x, y, y, z, z], c ∈ alphabet := fun c mem =>
      form.digits c (by simpa using mem)
    obtain ⟨ns, three, spelled⟩ := Hex.digitsSpell 3 rfl listed
    match ns, three with
    | [r, g, b], _ => exact ⟨r, g, b, spelled, form.split ▸ .three spelled⟩

end ColorName

namespace NamedColors
open ColorName (Means)

def Caught (names : NamedColors) : Prop := ∀ text kind, names.rgb text ≠ .error (.other kind)

/- What the library documents of its texts. The empty one is left open, as nothing asks for it. -/
structure Documented (names : NamedColors) : Prop where
  caught : names.Caught
  given : ∀ {text : String} {r g b : Int}, Means text.toList r g b →
    ∃ rgb, names.rgb text = .ok rgb ∧ rgb.Near r g b
  only : ∀ {text : String} {rgb : Rgb Binary}, text ≠ "" → names.rgb text = .ok rgb →
    ∃ r g b, Means text.toList r g b

end NamedColors

namespace Color
open ColorName (Means)

variable {names : NamedColors}

theorem visibleAsked {name : String} (visible : Blank.isBlank name.toList = false) : name ≠ "" := by
  rintro rfl
  contradiction

theorem componentsSource {name : String} {rgb : Rgb Int} (found : componentsOfName names name = .ok rgb) :
    Blank.isBlank name.toList = false ∧ ∃ parts, names.rgb name = .ok parts ∧ rgb = parts.map scaled := by
  unfold componentsOfName at found
  split at found
  · contradiction
  · rename_i visible
    refine ⟨Bool.eq_false_iff.mpr visible, ?_⟩
    split at found
    · rename_i parts given
      cases found
      exact ⟨parts, given, rfl⟩
    all_goals contradiction

theorem namedOctets {name : String} {rgb : Rgb Int} (found : componentsOfName names name = .ok rgb) :
    IsOctet rgb.red ∧ IsOctet rgb.green ∧ IsOctet rgb.blue := by
  obtain ⟨_, parts, _, rfl⟩ := componentsSource found
  exact ⟨scaledOctet parts.red, scaledOctet parts.green, scaledOctet parts.blue⟩

theorem namedStored {name : String} {rgb : Rgb Int} (found : componentsOfName names name = .ok rgb) :
    ofRgb rgb = .ok (ofMeant rgb.red rgb.green rgb.blue 255) := by
  obtain ⟨red, green, blue⟩ := namedOctets found
  exact levelsStored red green blue (by decide)

theorem nameFailure {name : String} {e : Failure} (failed : componentsOfName names name = .error e) :
    e = .conversion (if Blank.isBlank name.toList then .blankName name else .unknownName name) ∨
      ∃ kind, names.rgb name = .error (.other kind) ∧ e = .library kind := by
  unfold componentsOfName at failed
  split at failed
  · rename_i blank
    cases failed
    exact .inl (by rw [if_pos blank])
  · rename_i visible
    rw [if_neg visible]
    split at failed
    · contradiction
    · exact .inl (Except.error.inj failed).symm
    · exact .inl (Except.error.inj failed).symm
    · rename_i kind other
      exact .inr ⟨kind, other, (Except.error.inj failed).symm⟩

theorem nameRefusal (caught : names.Caught) {name : String} {e : Failure}
    (failed : componentsOfName names name = .error e) :
    e = .conversion (if Blank.isBlank name.toList then .blankName name else .unknownName name) := by
  rcases nameFailure failed with refused | ⟨kind, other, _⟩
  · exact refused
  · exact absurd other (caught name kind)

theorem componentsMeant (documented : names.Documented) {name : String} {rgb : Rgb Int} :
    componentsOfName names name = .ok rgb ↔ Means name.toList rgb.red rgb.green rgb.blue := by
  constructor
  · intro found
    obtain ⟨visible, parts, given, rfl⟩ := componentsSource found
    obtain ⟨r, g, b, means⟩ := documented.only (visibleAsked visible) given
    obtain ⟨same, again, near⟩ := documented.given means
    obtain rfl := Except.ok.inj (given.symm.trans again)
    rw [Rgb.scaledRgb (ColorName.meansOctets means) near]
    exact means
  · intro means
    obtain ⟨parts, given, near⟩ := documented.given means
    rw [componentsOfName, ColorName.meansVisible means, given]
    exact congrArg Except.ok (Rgb.scaledRgb (ColorName.meansOctets means) near)

theorem componentsMissing (documented : names.Documented) {name : String}
    (other : ∀ r g b, ¬ Means name.toList r g b) : componentsOfName names name =
      .error (.conversion (if Blank.isBlank name.toList then .blankName name else .unknownName name)) := by
  cases found : componentsOfName names name with
  | ok rgb => exact absurd ((componentsMeant documented).mp found) (other _ _ _)
  | error e => rw [nameRefusal documented.caught found]

end Color
namespace ColorName
open Hex (Spelling DigitOf alphabet)
open Numeral (lowerDigit upperDigit ofDigits)

theorem lookupListed {name : List Char} {rgb : Rgb Nat} : lookup? name = some rgb ↔
    ∃ entry ∈ table, entry.1.toList = name ∧ Rgb.ofPacked entry.2 = rgb := by
  constructor
  · intro found
    obtain ⟨entry, atEntry, last⟩ := Option.map_eq_some_iff.mp found
    have spelled : entry.1.toList = name := by simpa using List.find?_some atEntry
    exact ⟨entry, List.mem_of_find?_eq_some atEntry, spelled, last⟩
  · intro ⟨entry, listed, spelled, last⟩
    have present : (table.find? fun entry => entry.1.toList == name).isSome :=
      List.find?_isSome.mpr ⟨entry, listed, beq_iff_eq.mpr spelled⟩
    obtain ⟨other, atOther⟩ := Option.isSome_iff_exists.mp present
    have otherSpelled : other.1.toList = name := by simpa using List.find?_some atOther
    have otherListed := List.mem_of_find?_eq_some atOther
    obtain rfl := sameEntry listed otherListed (spelled.trans otherSpelled.symm)
    exact Option.map_eq_some_iff.mpr ⟨entry, atOther, last⟩

theorem lettersFound : ∀ d < 16, digit? (lowerDigit d) = some d ∧ digit? (upperDigit d) = some d := by
  decide

theorem digitFound {d : Nat} {c : Char} (small : d < 16) (spells : DigitOf d c) : digit? c = some d := by
  rcases spells with rfl | rfl
  · exact (lettersFound d small).1
  · exact (lettersFound d small).2

theorem lettersSpelled :
    (alphabet.all fun c => (digit? c).any fun d => d < 16 && decide (DigitOf d c)) = true := by
  decide

theorem digitSource {d : Nat} {c : Char} (found : digit? c = some d) : d < 16 ∧ DigitOf d c := by
  obtain ⟨place, atPlace, _⟩ := Option.map_eq_some_iff.mp found
  have listed : c ∈ alphabet := List.isSome_idxOf?.mp (Option.isSome_of_eq_some atPlace)
  have spelled := List.all_eq_true.mp lettersSpelled c listed
  simpa [found] using spelled

theorem octetsFound {ns : List Int} {cs : List Char} (spelled : Spelling ns cs) :
    ∃ octets, octets? cs = some octets ∧ octets.map Nat.cast = ns := by
  induction spelled with
  | nil => exact ⟨[], rfl, rfl⟩
  | @octet n c d ns cs small high low tail ih =>
    obtain ⟨octets, rest, same⟩ := ih
    have value : ofDigits 16 [n / 16, n % 16] = n := by
      simp only [ofDigits, List.foldl_cons, List.foldl_nil]
      omega
    refine ⟨n :: octets, ?_, congrArg (_ :: ·) same⟩
    rw [octets?, digitFound (by omega) high, digitFound (by omega) low, rest]
    simp [value]

theorem octetsSource {cs : List Char} {octets : List Nat} (found : octets? cs = some octets) :
    Spelling (octets.map Nat.cast) cs := by
  fun_induction octets? cs generalizing octets with
  | case1 =>
    cases found
    exact .nil
  | case2 c d rest ih =>
    simp only [bind, Option.bind_eq_some_iff] at found
    obtain ⟨high, atHigh, low, atLow, tail, later, last⟩ := found
    cases last
    obtain ⟨highSmall, highSpells⟩ := digitSource atHigh
    obtain ⟨lowSmall, lowSpells⟩ := digitSource atLow
    have value : ofDigits 16 [high, low] = 16 * high + low := by
      simp only [ofDigits, List.foldl_cons, List.foldl_nil]
      omega
    rw [value]
    refine .octet (by omega) ?_ ?_ (ih later)
    · rwa [show (16 * high + low) / 16 = high by omega]
    · rwa [show (16 * high + low) % 16 = low by omega]
  | case3 => contradiction

theorem digitsFound {cs : List Char} {r g b : Int} (spelled : Spelling [r, g, b] (doubled cs)) :
    ∃ rgb, digits? cs = some rgb ∧ rgb.red = r ∧ rgb.green = g ∧ rgb.blue = b := by
  obtain ⟨octets, found, same⟩ := octetsFound spelled
  match octets, same with
  | [red, green, blue], rfl => exact ⟨⟨red, green, blue⟩, by rw [digits?, found], rfl, rfl, rfl⟩

theorem digitsSource {cs : List Char} {rgb : Rgb Nat} (found : digits? cs = some rgb) :
    Spelling [(rgb.red : Int), (rgb.green : Int), (rgb.blue : Int)] (doubled cs) := by
  unfold digits? at found
  split at found
  · rename_i octets
    cases found
    exact octetsSource octets
  · contradiction

theorem doubledMeans {digits : List Char} {r g b : Int} (spelled : Spelling [r, g, b] (doubled digits)) :
    Means ('#' :: digits) r g b := by
  unfold doubled at spelled
  split at spelled
  · exact .three spelled
  · exact .six spelled

theorem sixDoubled {digits : List Char} (six : digits.length = 6) : doubled digits = digits := by
  unfold doubled
  split
  · exact absurd six (by simp)
  · rfl

end ColorName

namespace NamedColors
open ColorName (Means)

theorem charsGiven {cs : List Char} {r g b : Int} (means : Means cs r g b) :
    ∃ rgb, charsRgb cs = .ok rgb ∧ rgb.Near r g b := by
  have hashed {digits : List Char} (spelled : Hex.Spelling [r, g, b] (ColorName.doubled digits)) :
      ∃ rgb, charsRgb ('#' :: digits) = .ok rgb ∧ rgb.Near r g b := by
    obtain ⟨rgb, read, rfl, rfl, rfl⟩ := ColorName.digitsFound spelled
    refine ⟨rgb.map part, ?_, partsNear rgb⟩
    rw [charsRgb, read]
    rfl
  cases means with
  | six spelled =>
    apply hashed
    rwa [ColorName.sixDoubled (Hex.spellingLength spelled)]
  | three spelled => exact hashed spelled
  | @listed cs entry listed lowered =>
    have there := ColorName.lookupListed.mpr ⟨entry, listed, lowered.symm, rfl⟩
    refine ⟨(Rgb.ofPacked entry.2).map part, ?_, partsNear (Rgb.ofPacked entry.2)⟩
    unfold charsRgb
    split
    · exact absurd lowered (ColorName.namesApart (LowerCase.hashNotWord _) entry listed)
    · rw [there]
      rfl

theorem foundSource {kind : Error} {rgb? : Option (Rgb Nat)} {parts : Rgb Binary}
    (given : found kind rgb? = .ok parts) : ∃ rgb, rgb? = some rgb := by
  cases rgb? with
  | some rgb => exact ⟨rgb, rfl⟩
  | none => contradiction

theorem charsSource {cs : List Char} {parts : Rgb Binary} (given : charsRgb cs = .ok parts) :
    ∃ r g b, Means cs r g b := by
  unfold charsRgb at given
  split at given
  · obtain ⟨rgb, read⟩ := foundSource given
    exact ⟨_, _, _, ColorName.doubledMeans (ColorName.digitsSource read)⟩
  · obtain ⟨rgb, there⟩ := foundSource given
    obtain ⟨entry, listed, spelled, _⟩ := ColorName.lookupListed.mp there
    exact ⟨_, _, _, .listed listed spelled.symm⟩

theorem foundKind {kind e : Error} {rgb? : Option (Rgb Nat)} (failed : found kind rgb? = .error e) :
    kind = e := by
  cases rgb? with
  | some rgb => contradiction
  | none => exact Except.error.inj failed

theorem charsCaught (cs : List Char) (kind : String) : charsRgb cs ≠ .error (.other kind) := by
  intro failed
  unfold charsRgb at failed
  split at failed
  · cases foundKind failed
  · cases foundKind failed

theorem standardDocumented : standard.Documented where
  caught text kind := charsCaught text.toList kind
  given means := charsGiven means
  only _ given := charsSource given

end NamedColors
end BufferColor
