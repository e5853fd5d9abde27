import BufferColor.Proofs.Spelling

/-! What the readers of hexadecimal text give, in terms of the octets that a text spells. Each of
them gives the color of a spelling and nothing for any other text; none of them ever fails. -/
namespace BufferColor.Color
open Hex (Spelling alphabet)

def ofMeant (r g b a : Int) : Color := ⟨.int b, .int g, .int r, .int a⟩

def RgbOf (r g b a : Int) (cs : List Char) : Prop := a = 255 ∧ Spelling [r, g, b] cs

def ArgbOf (r g b a : Int) (cs : List Char) : Prop := Spelling [a, r, g, b] cs

def BodyOf (r g b a : Int) (cs : List Char) : Prop := RgbOf r g b a cs ∨ ArgbOf r g b a cs

def Reads (read : List Char → Except ComponentError (Option Color))
    (means : Int → Int → Int → Int → List Char → Prop) : Prop :=
  ∀ cs, (∃ r g b a, means r g b a cs ∧ read cs = .ok (some (ofMeant r g b a))) ∨
    (∀ r g b a, ¬ means r g b a cs) ∧ read cs = .ok none

theorem readsOf {read : List Char → Except ComponentError (Option Color)}
    {means : Int → Int → Int → Int → List Char → Prop}
    (accepts : ∀ {r g b a cs}, means r g b a cs → read cs = .ok (some (ofMeant r g b a)))
    (refuses : ∀ {cs}, (∀ r g b a, ¬ means r g b a cs) → read cs = .ok none) :
    Reads read means := by
  intro cs
  by_cases spelled : ∃ r g b a, means r g b a cs
  · obtain ⟨r, g, b, a, spelled⟩ := spelled
    exact .inl ⟨r, g, b, a, spelled, accepts spelled⟩
  · have other : ∀ r g b a, ¬ means r g b a cs := by simpa using spelled
    exact .inr ⟨other, refuses other⟩

theorem readsNeverFails {read : List Char → Except ComponentError (Option Color)}
    {means : Int → Int → Int → Int → List Char → Prop} (reads : Reads read means)
    (cs : List Char) : ∃ found, read cs = .ok found := by
  rcases reads cs with ⟨r, g, b, a, _, given⟩ | ⟨_, refused⟩
  · exact ⟨_, given⟩
  · exact ⟨_, refused⟩

theorem readsColor {read : List Char → Except ComponentError (Option Color)}
    {means : Int → Int → Int → Int → List Char → Prop} (reads : Reads read means)
    {cs : List Char} {c : Color} (given : read cs = .ok (some c)) :
    ∃ r g b a, means r g b a cs ∧ c = ofMeant r g b a := by
  rcases reads cs with ⟨r, g, b, a, spelled, found⟩ | ⟨_, refused⟩
  · rw [given] at found
    cases found
    exact ⟨r, g, b, a, spelled, rfl⟩
  · rw [given] at refused
    cases refused

theorem rgbOfSpelling {r g b a : Int} {cs : List Char} (spelled : RgbOf r g b a cs) :
    ofRgbChars cs = .ok (some (ofMeant r g b a)) := by
  obtain ⟨rfl, spelled⟩ := spelled
  match spelled with
  | .octet smallR highR lowR (.octet smallG highG lowG (.octet smallB highB lowB .nil)) =>
    exact rgbStored rfl (Hex.octetRead smallR highR lowR _) (Hex.octetRead smallG highG lowG _)
      (Hex.octetRead smallB highB lowB _)

theorem rgbSpelling {cs : List Char} {red green blue : Nat} (six : cs.length = 6)
    (atRed : Hex.octetOf? cs = some red) (atGreen : Hex.octetOf? (cs.drop 2) = some green)
    (atBlue : Hex.octetOf? (cs.drop 4) = some blue) :
    Spelling [(red : Int), (green : Int), (blue : Int)] cs := by
  match cs, six with
  | [c, d, e, f, g, h], _ =>
    exact Hex.spellingRead atRed (Hex.spellingRead atGreen (Hex.spellingRead atBlue .nil))

theorem rgbRefused {cs : List Char} (other : ∀ r g b a, ¬ RgbOf r g b a cs) :
    ofRgbChars cs = .ok none := by
  unfold ofRgbChars
  split
  · rfl
  · rename_i six
    split
    · rename_i red green blue atRed atGreen atBlue
      have spelled := rgbSpelling (by omega) atRed atGreen atBlue
      exact absurd ⟨rfl, spelled⟩ (other _ _ _ 255)
    · rfl

theorem rgbReads : Reads ofRgbChars RgbOf := readsOf rgbOfSpelling rgbRefused

theorem argbOfSpelling {r g b a : Int} {cs : List Char} (spelled : ArgbOf r g b a cs) :
    ofArgbChars cs = .ok (some (ofMeant r g b a)) := by
  have octets := Hex.spellingOctets spelled
  have eight : cs.length = 8 := Hex.spellingLength spelled
  have stored := levelsStored (octets r (by simp)) (octets g (by simp)) (octets b (by simp))
    (octets a (by simp))
  match spelled with
  | .octet small high low tail =>
    have solid := rgbOfSpelling ⟨rfl, tail⟩
    simp only [ofArgbChars, eight, ne_eq, not_true, if_false, Hex.octetRead small high low,
      List.drop_succ_cons, List.drop_zero, solid, bind, Except.bind, ofMeant, exchanged,
      Channel.value, stored, Except.map]

theorem argbRefused {cs : List Char} (other : ∀ r g b a, ¬ ArgbOf r g b a cs) :
    ofArgbChars cs = .ok none := by
  unfold ofArgbChars
  split
  · rfl
  · split
    · rfl
    · rename_i alpha atAlpha
      match cs, atAlpha with
      | c :: d :: rest, atAlpha =>
        have short : ∀ r g b a, ¬ RgbOf r g b a rest := fun r g b a spelled =>
          other r g b alpha (Hex.spellingRead atAlpha spelled.2)
        simp only [List.drop_succ_cons, List.drop_zero, rgbRefused short, bind, Except.bind]

theorem argbReads : Reads ofArgbChars ArgbOf := readsOf argbOfSpelling argbRefused

theorem bodyDigits {r g b a : Int} {body : List Char} (spelled : BodyOf r g b a body) :
    (body.length = 6 ∨ body.length = 8) ∧ ∀ c ∈ body, c ∈ alphabet := by
  rcases spelled with ⟨_, short⟩ | long
  · exact ⟨.inl (Hex.spellingLength short), Hex.spellingDigits short⟩
  · exact ⟨.inr (Hex.spellingLength long), Hex.spellingDigits long⟩

theorem bodyOctets {r g b a : Int} {body : List Char} (spelled : BodyOf r g b a body) :
    IsOctet r ∧ IsOctet g ∧ IsOctet b ∧ IsOctet a := by
  rcases spelled with ⟨rfl, short⟩ | long
  · have octets := Hex.spellingOctets short
    exact ⟨octets r (by simp), octets g (by simp), octets b (by simp), by decide⟩
  · have octets := Hex.spellingOctets long
    exact ⟨octets r (by simp), octets g (by simp), octets b (by simp), octets a (by simp)⟩

theorem sixDigits {body : List Char} (six : body.length = 6) (digits : ∀ c ∈ body, c ∈ alphabet) :
    ∃ r g b, RgbOf r g b 255 body := by
  obtain ⟨ns, three, short⟩ := Hex.digitsSpell 3 six digits
  match ns, three with
  | [r, g, b], _ => exact ⟨r, g, b, rfl, short⟩

theorem eightDigits {body : List Char} (eight : body.length = 8)
    (digits : ∀ c ∈ body, c ∈ alphabet) : ∃ r g b a, ArgbOf r g b a body := by
  obtain ⟨ns, four, long⟩ := Hex.digitsSpell 4 eight digits
  match ns, four with
  | [a, r, g, b], _ => exact ⟨r, g, b, a, long⟩

theorem digitsBody {body : List Char} (size : body.length = 6 ∨ body.length = 8)
    (digits : ∀ c ∈ body, c ∈ alphabet) : ∃ r g b a, BodyOf r g b a body := by
  rcases size with six | eight
  · obtain ⟨r, g, b, short⟩ := sixDigits six digits
    exact ⟨r, g, b, 255, .inl short⟩
  · obtain ⟨r, g, b, a, long⟩ := eightDigits eight digits
    exact ⟨r, g, b, a, .inr long⟩

theorem unmarkedPlain {body : List Char} (noHash : '#' ∉ body) (noX : 'x' ∉ body) :
    unmarked body = body := by
  unfold unmarked
  split
  · simp at noHash
  · simp at noX
  · rfl

theorem unmarkedDigits {marks body : List Char} (chain : Marks marks)
    (digits : ∀ c ∈ body, c ∈ alphabet) : unmarked (marks ++ body) = body := by
  rw [unmarkedAppend chain]
  apply unmarkedPlain
  · exact fun mem => Hex.marksUnlisted.1 (digits _ mem)
  · exact fun mem => Hex.marksUnlisted.2 (digits _ mem)

theorem hexOfSix {text : List Char} (six : (unmarked text).length = 6) :
    ofHexChars text = ofRgbChars (unmarked text) := by
  simp [ofHexChars, six]

theorem hexOfEight {text : List Char} (eight : (unmarked text).length = 8) :
    ofHexChars text = ofArgbChars (unmarked text) := by
  simp [ofHexChars, eight]

theorem hexOfBody {r g b a : Int} {text : List Char} (spelled : BodyOf r g b a (unmarked text)) :
    ofHexChars text = .ok (some (ofMeant r g b a)) := by
  rcases spelled with short | long
  · rw [hexOfSix (Hex.spellingLength short.2), rgbOfSpelling short]
  · rw [hexOfEight (Hex.spellingLength long), argbOfSpelling long]

theorem markedBodyRead {r g b a : Int} {marks body : List Char} (chain : Marks marks)
    (spelled : BodyOf r g b a body) :
    ofHexChars (marks ++ body) = .ok (some (ofMeant r g b a)) := by
  apply hexOfBody
  rwa [unmarkedDigits chain (bodyDigits spelled).2]

theorem hexRefused {text : List Char} (other : ∀ r g b a, ¬ BodyOf r g b a (unmarked text)) :
    ofHexChars text = .ok none := by
  simp only [ofHexChars]
  split
  · exact argbRefused fun r g b a long => other r g b a (.inr long)
  · split
    · exact rgbRefused fun r g b a short => other r g b a (.inl short)
    · rfl

theorem hexReads : Reads ofHexChars fun r g b a text => BodyOf r g b a (unmarked text) :=
  readsOf hexOfBody hexRefused

end BufferColor.Color
