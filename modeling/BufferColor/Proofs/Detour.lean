import BufferColor.Proofs.Converted
import BufferColor.Proofs.HexPlaces
import Mathlib.Tactic.TFAE

/-! Colors that go out of the library and come in again, by their channels, their octets or their
text. Every such way is open to the storable colors and to no others, each exchanges red and blue,
and two of them, whichever they are, give back the color. -/
namespace BufferColor

namespace Color
open Hex (Spelling alphabet capitals)
open Numeral (hexPlaces)

def places (c : Color) : List Char :=
  [c.alpha, c.red, c.green, c.blue].flatMap fun channel => hexPlaces channel.level

theorem placesAppended (c : Color) :
    c.places = hexPlaces c.alpha.level ++ (hexPlaces c.red.level ++
      (hexPlaces c.green.level ++ hexPlaces c.blue.level)) := by
  simp [places]

theorem placesChars (c : Color) : ∀ x ∈ c.places, x = '-' ∨ x ∈ capitals := by
  intro x mem
  obtain ⟨channel, _, inside⟩ := List.mem_flatMap.mp mem
  exact Numeral.hexPlacesChars channel.level x inside

theorem hexUnmarked (c : Color) : unmarked c.hexChars = c.places := by
  change unmarked ('#' :: c.places) = c.places
  rw [unmarked]
  apply unmarkedPlain
  · intro mem
    exact absurd (c.placesChars _ mem) (by decide)
  · intro mem
    exact absurd (c.placesChars _ mem) (by decide)

theorem placesLong (c : Color) : 8 ≤ c.places.length := by
  have alpha := Numeral.hexPlacesLength c.alpha.level
  have red := Numeral.hexPlacesLength c.red.level
  have green := Numeral.hexPlacesLength c.green.level
  have blue := Numeral.hexPlacesLength c.blue.level
  simp only [placesAppended, List.length_append]
  omega

theorem placesSpelling {c : Color} (stored : c.Storable) :
    Spelling [c.alpha.level, c.red.level, c.green.level, c.blue.level] c.places := by
  obtain ⟨red, green, blue, alpha⟩ := storableChannels.mp stored
  rw [placesAppended]
  exact Hex.spellingAppend (Numeral.hexPlacesSpelling alpha)
    (Hex.spellingAppend (Numeral.hexPlacesSpelling red)
      (Hex.spellingAppend (Numeral.hexPlacesSpelling green) (Numeral.hexPlacesSpelling blue)))

theorem storableOfBody {c : Color} {r g b a : Int} (spelled : BodyOf r g b a c.places) :
    c.Storable := by
  obtain ⟨size, digits⟩ := bodyDigits spelled
  have long := c.placesLong
  have eight : c.places.length = 8 := by omega
  have two : ∀ channel ∈ c.channels, (hexPlaces channel.level).length = 2 := by
    have alpha := Numeral.hexPlacesLength c.alpha.level
    have red := Numeral.hexPlacesLength c.red.level
    have green := Numeral.hexPlacesLength c.green.level
    have blue := Numeral.hexPlacesLength c.blue.level
    simp only [placesAppended, List.length_append] at eight
    simp only [channels, List.mem_cons, List.not_mem_nil, or_false, forall_eq_or_imp, forall_eq]
    omega
  have inside : ∀ channel ∈ c.channels, ∀ x ∈ hexPlaces channel.level, x ∈ c.places := by
    intro channel mem x atX
    refine List.mem_flatMap.mpr ⟨channel, ?_, atX⟩
    simp only [channels, List.mem_cons, List.not_mem_nil, or_false] at mem
    rcases mem with rfl | rfl | rfl | rfl <;> simp
  intro channel mem
  apply Numeral.octetOfPlaces (two channel mem)
  intro sign
  exact Hex.signUnlisted (digits _ (inside channel mem _ sign))

theorem hexReadBack {c : Color} (stored : c.Storable) :
    ofHexText c.hex =
      .ok (some (ofMeant c.red.level c.green.level c.blue.level c.alpha.level)) := by
  rw [ofHexText, hex, String.toList_ofList]
  apply hexOfBody
  rw [hexUnmarked]
  exact .inr (placesSpelling stored)

theorem hexNotRead {c : Color} (unstored : ¬ c.Storable) : ofHexText c.hex = .ok none := by
  rw [ofHexText, hex, String.toList_ofList]
  apply hexRefused
  intro r g b a spelled
  rw [hexUnmarked] at spelled
  exact unstored (storableOfBody spelled)

variable {names : NamedColors}

theorem hexNameless (documented : names.Documented) (c : Color) :
    ∃ e, componentsOfName names c.hex = .error e := by
  have long := c.placesLong
  have unmeant : ∀ r g b, ¬ ColorName.Means c.hex.toList r g b := by
    intro r g b means
    rw [show c.hex.toList = '#' :: c.places from String.toList_ofList] at means
    rcases ColorName.hashMeans means with spelled | ⟨x, y, z, three, _⟩
    · have six := Hex.spellingLength spelled
      simp only [List.length_cons, List.length_nil] at six
      omega
    · simp only [three, List.length_cons, List.length_nil] at long
      omega
  exact ⟨_, componentsMissing documented unmeant⟩

def values (c : Color) : List Value := c.channels.map Channel.value

theorem valuesRead {c d : Color} :
    ofValue names (.tuple c.values) = .ok d ↔ c.Storable ∧ d = c.exchanged := by
  change (ofTuple [c.red.value, c.green.value, c.blue.value, c.alpha.value]).mapError _ = _ ↔ _
  rw [mapErrorOk, ofTuple, mapErrorOk, channelsRead]
  constructor
  · intro ⟨stored, same⟩
    subst same
    exact ⟨storableExchanged.mp stored, rfl⟩
  · intro ⟨stored, same⟩
    subst same
    exact ⟨storableExchanged.mpr stored, rfl⟩

theorem textRead (documented : names.Documented) {c d : Color} : ofValue names (.text c.hex) = .ok d ↔
    c.Storable ∧ d = ofMeant c.red.level c.green.level c.blue.level c.alpha.level := by
  change ofText names c.hex = _ ↔ _
  by_cases stored : c.Storable
  · rw [textOfHex (hexReadBack stored), Except.ok.injEq, eq_comm]
    exact ⟨fun same => ⟨stored, same⟩, And.right⟩
  · obtain ⟨e, missing⟩ := hexNameless documented c
    rw [textOfNone (hexNotRead stored) missing]
    exact ⟨nofun, fun ⟨held, _⟩ => absurd held stored⟩

inductive Detour where
  | channels
  | octets
  | tuple
  | hexText
  | text
  deriving DecidableEq, Repr

def Detour.taken (names : NamedColors) (c : Color) : Detour → Option Color
  | channels =>
      (ofComponents c.red.value c.green.value c.blue.value c.alpha.value).toOption
  | octets => do
      match ← c.octets? with
      | [red, green, blue, alpha] =>
          (ofComponents (.int red.toNat) (.int green.toNat) (.int blue.toNat)
            (.int alpha.toNat)).toOption
      | _ => none
  | tuple => (ofValue names (.tuple c.values)).toOption
  | hexText => (ofHexText c.hex).toOption.join
  | text => (ofValue names (.text c.hex)).toOption

theorem detourTaken (documented : names.Documented) {c : Color} (stored : c.Storable) (way : Detour) :
    ∃ d, way.taken names c = some d ∧ d.levels = c.exchanged.levels := by
  cases way with
  | channels =>
    have read := channelsRead.mpr ⟨storableExchanged.mpr stored, rfl⟩
    exact ⟨c.exchanged, congrArg Except.toOption read, rfl⟩
  | octets =>
    obtain ⟨r, g, b, a, given, same⟩ := octetsGiven stored
    have held := (storableSame same).mpr stored
    have read := channelsRead.mpr ⟨storableExchanged.mpr held, rfl⟩
    refine ⟨(ofOctets r g b a).exchanged, ?_, exchangedLevels same⟩
    simp only [Detour.taken, given]
    exact congrArg Except.toOption read
  | tuple =>
    have read : ofValue names (.tuple c.values) = .ok c.exchanged := valuesRead.mpr ⟨stored, rfl⟩
    exact ⟨c.exchanged, congrArg Except.toOption read, rfl⟩
  | hexText =>
    refine ⟨ofMeant c.red.level c.green.level c.blue.level c.alpha.level, ?_, rfl⟩
    rw [Detour.taken, hexReadBack stored]
    rfl
  | text =>
    have read := (textRead documented).mpr ⟨stored, rfl⟩
    exact ⟨_, congrArg Except.toOption read, rfl⟩

theorem detourOpen (documented : names.Documented) {c : Color} (way : Detour) :
    (way.taken names c).isSome ↔ c.Storable := by
  constructor
  · intro taken
    cases way with
    | channels =>
      obtain ⟨d, read⟩ := toOptionSome.mp taken
      obtain ⟨stored, rfl⟩ := channelsRead.mp read
      exact storableExchanged.mp stored
    | octets =>
      obtain ⟨d, read⟩ := Option.isSome_iff_exists.mp taken
      simp only [Detour.taken, bind, Option.bind_eq_some_iff] at read
      obtain ⟨octets, given, _⟩ := read
      exact octetsOpen.mp (by simp [given])
    | tuple =>
      obtain ⟨d, read⟩ := toOptionSome.mp taken
      exact (valuesRead.mp read).1
    | hexText =>
      by_cases stored : c.Storable
      · exact stored
      · rw [Detour.taken, hexNotRead stored] at taken
        contradiction
    | text =>
      obtain ⟨d, read⟩ := toOptionSome.mp taken
      exact ((textRead documented).mp read).1
  · intro stored
    obtain ⟨d, taken, _⟩ := detourTaken documented stored way
    rw [taken]
    rfl

/-- A color in range is one that goes out of the library and in again, whichever way is taken. Its
octets are its channels in stored order, each way exchanges red and blue, and so two ways one after
the other give back the color. -/
theorem storableReturns {names : NamedColors} (documented : names.Documented) (terminal : Terminal)
    (c : Color) :
    [c.Storable, c.octets?.isSome = true,
      ∀ description, (consoleLine? terminal c description).isSome = true,
      (Detour.channels.taken names c).isSome = true, (Detour.tuple.taken names c).isSome = true,
      (Detour.hexText.taken names c).isSome = true, (Detour.text.taken names c).isSome = true].TFAE ∧
    (c.Storable →
      (∃ octets, c.octets? = some octets ∧
        octets.map (fun octet => (octet.toNat : Int)) = c.levels) ∧
      (∀ way : Detour, ∃ d, way.taken names c = some d ∧ (d == c.exchanged) = true) ∧
      ∀ first second : Detour, ∃ d e, first.taken names c = some d ∧ second.taken names d = some e ∧
        (e == c) = true) := by
  refine ⟨?equivalent, fun stored => ⟨?octets, ?once, ?twice⟩⟩
  case equivalent =>
    tfae_have 2 ↔ 1 := octetsOpen
    tfae_have 3 ↔ 1 := ⟨fun lines => lineOpen.mp (lines ""), fun stored _ => lineOpen.mpr stored⟩
    tfae_have 4 ↔ 1 := detourOpen documented .channels
    tfae_have 5 ↔ 1 := detourOpen documented .tuple
    tfae_have 6 ↔ 1 := detourOpen documented .hexText
    tfae_have 7 ↔ 1 := detourOpen documented .text
    tfae_finish
  case octets =>
    obtain ⟨r, g, b, a, given, same⟩ := octetsGiven stored
    exact ⟨_, given, same⟩
  case once =>
    intro way
    obtain ⟨d, taken, same⟩ := detourTaken documented stored way
    exact ⟨d, taken, beqLevels.mpr same⟩
  case twice =>
    intro first second
    obtain ⟨d, takenFirst, sameFirst⟩ := detourTaken documented stored first
    have again := (storableSame sameFirst).mpr (storableExchanged.mpr stored)
    obtain ⟨e, takenSecond, sameSecond⟩ := detourTaken documented again second
    exact ⟨d, e, takenFirst, takenSecond,
      beqLevels.mpr (sameSecond.trans (exchangedLevels sameFirst))⟩

/-- A channel of 256 shows in three places, and the text has no way back. -/
theorem overflowReturnsNowhere : NamedColors.standard.Documented ∧
    (Detour.text.taken .standard ⟨.int 256, .int 0, .int 0, .int 255⟩).isSome = false := by
  have documented := NamedColors.standardDocumented
  have same := (storableReturns documented .ansi ⟨.int 256, .int 0, .int 0, .int 255⟩).1.out 0 6
  have unstored : ¬ Storable ⟨.int 256, .int 0, .int 0, .int 255⟩ := fun stored =>
    absurd (storableChannels.mp stored).1 (by decide)
  exact ⟨documented, Bool.eq_false_iff.mpr fun taken => unstored (same.mpr taken)⟩

end Color
end BufferColor
