import BufferColor.Proofs.Converted
import BufferColor.Session

/-! The calls that create a color, with the components that each of them means. Whichever of them
is taken, the color is the same, and red and blue are exchanged once in it. -/
namespace BufferColor.Call
open Color (Marks BodyOf ofMeant)
open Hex (Spelling)

/- What a call means by its arguments: components from red to alpha, of which the last is full
where the form of the call has no alpha. -/
inductive Means : Int → Int → Int → Int → Call → Prop where
  | components {r g b a : Int} : Means r g b a (.ofComponents (.int r) (.int g) (.int b) (.int a))
  | tuple {r g b a : Int} :
      Means r g b a (.ofValue (.tuple [.int r, .int g, .int b, .int a]))
  | triple {r g b : Int} : Means r g b 255 (.ofValue (.tuple [.int r, .int g, .int b]))
  | packed {r g b : Int} : Means r g b 255 (.ofPacked (65536 * r + 256 * g + b))
  | number {r g b : Int} : Means r g b 255 (.ofValue (.int (65536 * r + 256 * g + b)))
  | rgbText {r g b : Int} {digits : List Char} (spelled : Spelling [r, g, b] digits) :
      Means r g b 255 (.ofRgbText (String.ofList digits))
  | argbText {r g b a : Int} {digits : List Char} (spelled : Spelling [a, r, g, b] digits) :
      Means r g b a (.ofArgbText (String.ofList digits))
  | hexText {r g b a : Int} {marks body : List Char} (chain : Marks marks)
      (spelled : BodyOf r g b a body) : Means r g b a (.ofHexText (String.ofList (marks ++ body)))
  | text {r g b a : Int} {marks body : List Char} (chain : Marks marks)
      (spelled : BodyOf r g b a body) :
      Means r g b a (.ofValue (.text (String.ofList (marks ++ body))))

def created? (packages : Packages) (call : Call) : Option Color :=
  match call.outcome packages with
  | .ok outcome => outcome.color?
  | .error _ => none

theorem componentsStored {r g b a : Int}
    (octets : IsOctet r ∧ IsOctet g ∧ IsOctet b ∧ IsOctet a) :
    Color.ofComponents (.int r) (.int g) (.int b) (.int a) = .ok (ofMeant r g b a) :=
  Color.levelsStored octets.1 octets.2.1 octets.2.2.1 octets.2.2.2

theorem packedMeant {r g b : Int} (octets : IsOctet r ∧ IsOctet g ∧ IsOctet b) :
    Color.ofPacked (65536 * r + 256 * g + b) = .ok (ofMeant r g b 255) := by
  obtain ⟨⟨lowR, highR⟩, ⟨lowG, highG⟩, ⟨lowB, highB⟩⟩ := octets
  rw [Color.packedStored, ofMeant, show (65536 * r + 256 * g + b) % 256 = b by omega,
    show (65536 * r + 256 * g + b) / 256 % 256 = g by omega,
    show (65536 * r + 256 * g + b) / 65536 % 256 = r by omega]

theorem markedRead {r g b a : Int} {marks body : List Char} (chain : Marks marks)
    (spelled : BodyOf r g b a body) :
    Color.ofHexText (String.ofList (marks ++ body)) = .ok (some (ofMeant r g b a)) := by
  rw [Color.ofHexText, String.toList_ofList]
  exact Color.markedBodyRead chain spelled

theorem createdConverted {packages : Packages} {value : Value} {c : Color}
    (given : Color.ofValue packages.names value = .ok c) :
    (ofValue value).created? packages = some c := by
  rw [created?, outcome, given]
  rfl

theorem createdMeant (packages : Packages) {r g b a : Int} {call : Call}
    (octets : IsOctet r ∧ IsOctet g ∧ IsOctet b ∧ IsOctet a) (means : Means r g b a call) :
    call.created? packages = some (ofMeant r g b a) := by
  have stored := componentsStored octets
  cases means with
  | components =>
    rw [created?, outcome, stored]
    rfl
  | tuple =>
    apply createdConverted
    rw [Color.ofValue, Color.ofTuple, stored]
    rfl
  | triple =>
    apply createdConverted
    rw [Color.ofValue, Color.ofTuple, stored]
    rfl
  | packed =>
    rw [created?, outcome, packedMeant ⟨octets.1, octets.2.1, octets.2.2.1⟩]
    rfl
  | number =>
    apply createdConverted
    rw [Color.ofValue, packedMeant ⟨octets.1, octets.2.1, octets.2.2.1⟩]
    rfl
  | rgbText spelled =>
    rw [created?, outcome, Color.ofRgbText, String.toList_ofList,
      Color.rgbOfSpelling ⟨rfl, spelled⟩]
    rfl
  | argbText spelled =>
    rw [created?, outcome, Color.ofArgbText, String.toList_ofList, Color.argbOfSpelling spelled]
    rfl
  | hexText chain spelled =>
    rw [created?, outcome, markedRead chain spelled]
    rfl
  | text chain spelled =>
    apply createdConverted
    exact Color.textOfHex (markedRead chain spelled)

theorem meantInjective {r g b a r' g' b' a' : Int}
    (same : (ofMeant r g b a == ofMeant r' g' b' a') = true) : (r, g, b, a) = (r', g', b', a') := by
  obtain ⟨blue, green, red, alpha⟩ := Color.levelsSame.mp (Color.beqLevels.mp same)
  simp only [ofMeant, Channel.level] at red green blue alpha
  rw [red, green, blue, alpha]

/-- Every call that means components from 0 to 255 gives one color, which stores them with red and
blue exchanged. Exchanging these again gives the components, so calls that mean different
components give different colors. -/
theorem createdExchangedOnce (packages : Packages) {r g b a : Int} {call : Call}
    (octets : IsOctet r ∧ IsOctet g ∧ IsOctet b ∧ IsOctet a) (means : Means r g b a call) :
    call.created? packages = some ⟨.int b, .int g, .int r, .int a⟩ ∧
    (∀ c, call.created? packages = some c → c.exchanged = ⟨.int r, .int g, .int b, .int a⟩) ∧
    ∀ {r' g' b' a' : Int} {other : Call},
      (IsOctet r' ∧ IsOctet g' ∧ IsOctet b' ∧ IsOctet a') → Means r' g' b' a' other →
      (r, g, b, a) ≠ (r', g', b', a') → ∀ c d, call.created? packages = some c →
      other.created? packages = some d → (c == d) = false := by
  have created := createdMeant packages octets means
  refine ⟨created, ?_, ?_⟩
  · intro c given
    obtain rfl := Option.some.inj (created.symm.trans given)
    rfl
  · intro r' g' b' a' other otherOctets otherMeans different c d given otherGiven
    obtain rfl := Option.some.inj (created.symm.trans given)
    obtain rfl := Option.some.inj ((createdMeant packages otherOctets otherMeans).symm.trans otherGiven)
    exact Bool.eq_false_iff.mpr fun same => different (meantInjective same)

/-- Both letter cases and a chain of three marks, with four different components. -/
theorem createdFromMixedLetters :
    (IsOctet 0xab ∧ IsOctet 0x0c ∧ IsOctet 0xd0 ∧ IsOctet 0x7f) ∧
    Means 0xab 0x0c 0xd0 0x7f (.ofValue (.text (String.ofList "#0x#7FaB0Cd0".toList))) ∧
    (ofValue (.text (String.ofList "#0x#7FaB0Cd0".toList))).created? .standard =
      some ⟨.int 0xd0, .int 0x0c, .int 0xab, .int 0x7f⟩ := by
  have octets : IsOctet 0xab ∧ IsOctet 0x0c ∧ IsOctet 0xd0 ∧ IsOctet 0x7f := by decide
  have chain : Marks ['#', '0', 'x', '#'] := .hash (.zeroX (.hash .nil))
  have spelled : BodyOf 0xab 0x0c 0xd0 0x7f ['7', 'F', 'a', 'B', '0', 'C', 'd', '0'] :=
    .inr (@Hex.spellingRead 0x7f '7' 'F' [] _ _ rfl
      (@Hex.spellingRead 0xab 'a' 'B' [] _ _ rfl
        (@Hex.spellingRead 0x0c '0' 'C' [] _ _ rfl
          (@Hex.spellingRead 0xd0 'd' '0' [] _ _ rfl .nil))))
  have means : Means 0xab 0x0c 0xd0 0x7f (.ofValue (.text (String.ofList "#0x#7FaB0Cd0".toList))) :=
    .text chain spelled
  exact ⟨octets, means, (createdExchangedOnce .standard octets means).1⟩

end BufferColor.Call
