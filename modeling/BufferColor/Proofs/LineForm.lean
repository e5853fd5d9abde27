import BufferColor.Proofs.NormalForm
import BufferColor.Proofs.Swatch

/-! Lines of a console. Any text may stand in front of a color, but what shows the color has one
length for all of them, so a line is taken apart from its end. The two hexadecimal forms in it are
the same digits, in the order of the text and in the order of the buffer. -/
namespace BufferColor

namespace Color
open Numeral (hexPlaces)

theorem octetsSame {c d : Color} (same : c.levels = d.levels) : c.octets? = d.octets? := by
  obtain ⟨red, green, blue, alpha⟩ := levelsSame.mp same
  simp only [octets?, Channel.octet?, red, green, blue, alpha]

theorem hexLength {c : Color} (stored : c.Storable) : c.hexChars.length = 9 :=
  congrArg Nat.succ (Hex.spellingLength (placesSpelling stored))

end Color

namespace ConsoleLine
open Numeral (digits hexPlaces upperDigit)
open Terminal (octetChars)

def dumped (octets : List UInt8) : List Char := [' '].intercalate (octets.map octetChars)

def octetsOf? : List Char → Option (List UInt8)
  | [] => some []
  | ' ' :: rest => octetsOf? rest
  | c :: d :: rest => do
      let octet ← Hex.octetOf? [c, d]
      let octets ← octetsOf? rest
      some (UInt8.ofNat octet :: octets)
  | _ => none

theorem octetPlaces (octet : UInt8) : octetChars octet = hexPlaces octet.toNat :=
  (Numeral.hexPlacesOctet octet.toNat_lt).symm

theorem octetCapitals (octet : UInt8) : ∀ c ∈ octetChars octet, c ∈ Hex.capitals := by
  have small := octet.toNat_lt
  refine List.forall_mem_cons.mpr ⟨?_, List.forall_mem_singleton.mpr ?_⟩
  · exact Numeral.upperDigitCapital _ (by omega)
  · exact Numeral.upperDigitCapital _ (by omega)

theorem octetVisible (octet : UInt8) : ' ' ∉ octetChars octet := by
  intro mem
  exact absurd (octetCapitals octet _ mem) (by decide)

theorem octetRead (octet : UInt8) (rest : List Char) :
    octetsOf? (octetChars octet ++ rest) = (octetsOf? rest).map (octet :: ·) := by
  have read : Hex.octetOf? (octetChars octet) = some octet.toNat :=
    Hex.octetRead octet.toNat_lt (.inr rfl) (.inr rfl) []
  have visible : upperDigit (octet.toNat / 16) ≠ ' ' := fun blank =>
    octetVisible octet (blank ▸ List.mem_cons_self)
  simp only [octetChars] at read
  simp only [octetChars, List.cons_append, List.nil_append]
  rw [octetsOf?]
  · simp only [read]
    cases octetsOf? rest <;> simp
  · exact visible

theorem dumpedStep (first second : UInt8) (rest : List UInt8) :
    dumped (first :: second :: rest) = octetChars first ++ ' ' :: dumped (second :: rest) := by
  simp [dumped, List.intercalate]

theorem dumpedOne (octet : UInt8) : dumped [octet] = octetChars octet := by
  simp [dumped, List.intercalate]

theorem dumpedRead (octets : List UInt8) : octetsOf? (dumped octets) = some octets := by
  match octets with
  | [] => rfl
  | [octet] =>
    have read := octetRead octet []
    rwa [List.append_nil, ← dumpedOne] at read
  | first :: second :: rest =>
    rw [dumpedStep, octetRead, octetsOf?, dumpedRead (second :: rest)]
    rfl

theorem dumpedDigits (octets : List UInt8) :
    (dumped octets).filter (· ≠ ' ') = octets.flatMap octetChars := by
  have kept (octet : UInt8) : (octetChars octet).filter (· ≠ ' ') = octetChars octet :=
    List.filter_eq_self.mpr fun c mem =>
      decide_eq_true fun blank => octetVisible octet (blank ▸ mem)
  match octets with
  | [] => rfl
  | [octet] => rw [dumpedOne, kept, List.flatMap_singleton]
  | first :: second :: rest =>
    rw [dumpedStep, List.filter_append, kept, List.filter_cons_of_neg (by decide),
      dumpedDigits (second :: rest), ← List.flatMap_cons]

theorem dumpedLength (octets : List UInt8) : (dumped octets).length = 3 * octets.length - 1 := by
  match octets with
  | [] => rfl
  | [octet] => rw [dumpedOne]; rfl
  | first :: second :: rest =>
    have later := dumpedLength (second :: rest)
    simp only [dumpedStep, octetChars, List.length_append, List.length_cons, List.length_nil] at later ⊢
    omega

variable {terminal : Terminal}

section
variable (documented : terminal.Documented)
include documented

theorem swatchLength (c : Color) : (swatch terminal c).length = 11 := by
  have background : (terminal.background (background c)).length = 5 := by
    rw [documented.background]
    cases ConsoleLine.background c <;> rfl
  simp only [swatch, List.length_append, background, documented.reset]
  rfl

theorem bodyLength {c : Color} (stored : c.Storable) {octets : List UInt8} (four : octets.length = 4) :
    (body terminal c octets).length = 41 := by
  have dumped : (terminal.dump octets [' ']).length = 11 := by
    rw [documented.dump, ← dumped, dumpedLength, four]
  simp only [body, List.length_append, List.length_cons, swatchLength documented, dumped,
    Color.hexLength stored, documented.dim, documented.reset]
  rfl

theorem bodyHex {c d : Color} (stored : c.Storable) (other : d.Storable)
    {octets octets' : List UInt8} (same : body terminal c octets = body terminal d octets') :
    c.hex = d.hex := by
  simp only [body, List.append_assoc, List.cons_append] at same
  have behind := List.append_inj_right same
    ((swatchLength documented c).trans (swatchLength documented d).symm)
  have digits := List.append_inj_left (List.cons.inj behind).2
    ((Color.hexLength stored).trans (Color.hexLength other).symm)
  rw [Color.hex, Color.hex, digits]

end

theorem backgroundSame {c d : Color} (same : c.levels = d.levels) : background c = background d := by
  obtain ⟨red, green, blue, _⟩ := Color.levelsSame.mp same
  simp only [background, index, red, green, blue]

theorem bodySame {c d : Color} (same : c.levels = d.levels) (octets : List UInt8) :
    body terminal c octets = body terminal d octets := by
  have digits : c.hexChars = d.hexChars := String.ofList_injective (Color.hexSame same)
  rw [body, body, swatch, swatch, backgroundSame same, digits]

theorem levelsOfHex {c d : Color} (stored : c.Storable) (other : d.Storable) (same : c.hex = d.hex) :
    c.levels = d.levels := by
  have read := Color.hexReadBack stored
  rw [same, Color.hexReadBack other] at read
  have levels := congrArg Color.levels (Option.some.inj (Except.ok.inj read.symm))
  exact Color.exchangedLevels levels

theorem labelInjective {first second : List Char} (same : label first = label second) :
    first = second := by
  cases first with
  | nil =>
    cases second with
    | nil => rfl
    | cons d rest => cases same
  | cons c rest =>
    cases second with
    | nil => cases same
    | cons d other => exact List.append_cancel_right same

structure LineForm (terminal : Terminal) (c : Color) (octets : List UInt8) : Prop where
  stored : c.octets? = some octets
  size : (body terminal c octets).length = 41
  inside : terminal.dump octets [' '] <:+: body terminal c octets
  digits : (terminal.dump octets [' ']).filter (· ≠ ' ') = (c.hex.toList.drop 1).rotateLeft 2
  read : octetsOf? (terminal.dump octets [' ']) = some octets
  line : ∀ description, ∃ line, consoleLine? terminal c description = some line ∧ line.toList =
    (if description = "" then [] else description.toList ++ [':', ' ']) ++ body terminal c octets
  output : ∀ description, consoleOutput? terminal c description =
    (consoleLine? terminal c description).map fun line => line ++ "\n"

theorem outputGiven (c : Color) (description : String) : consoleOutput? terminal c description =
    (consoleLine? terminal c description).map fun line => line ++ "\n" := by
  rw [consoleOutput?, consoleLine?, Option.map_map]
  congr 1
  funext line
  exact String.ofList_append

theorem dumpedPlaces {c : Color} {red green blue alpha : UInt8}
    (same : (Color.ofOctets red green blue alpha).levels = c.levels) :
    c.hexChars.drop 1 = [alpha, red, green, blue].flatMap octetChars := by
  obtain ⟨atRed, atGreen, atBlue, atAlpha⟩ : (red.toNat : Int) = c.red.level ∧
      (green.toNat : Int) = c.green.level ∧ (blue.toNat : Int) = c.blue.level ∧
      (alpha.toNat : Int) = c.alpha.level := Color.levelsSame.mp same
  simp only [octetPlaces, Color.hexChars, List.drop_succ_cons, List.drop_zero, List.flatMap_cons,
    ← atRed, ← atGreen, ← atBlue, ← atAlpha, List.flatMap_nil]

theorem lineFormed (documented : terminal.Documented) {c : Color} (stored : c.Storable) :
    ∃ octets, LineForm terminal c octets := by
  obtain ⟨red, green, blue, alpha, given, same⟩ := Color.octetsGiven stored
  refine ⟨_, given, bodyLength documented stored rfl, ?inside, ?digits, ?read, ?line, outputGiven c⟩
  case inside =>
    refine ⟨swatch terminal c ++ ' ' :: c.hexChars ++ ' ' :: terminal.dim, terminal.reset, ?_⟩
    simp only [body, List.append_assoc, List.cons_append]
  case digits =>
    rw [documented.dump, ← dumped, Color.hex, String.toList_ofList, dumpedPlaces same, dumpedDigits]
    rfl
  case read =>
    rw [documented.dump, ← dumped]
    exact dumpedRead _
  case line =>
    intro description
    refine ⟨_, lineGiven given description, ?_⟩
    rw [String.toList_ofList, labelShown]

/-- Two lines are one only where both the descriptions and the colors are: whatever the description
is, what shows the color comes last in the line and has one length for all colors. In it stands a
dump that is read back as the octets of the color; without its blanks it is the text of the color
with the two digits of alpha brought from the front to the end. What goes to the console is the line
and its end. -/
theorem lineDeterminesInputs (documented : terminal.Documented) {c d : Color} (stored : c.Storable)
    (other : d.Storable) (first second : String) :
    (∃ octets, LineForm terminal c octets) ∧
    ∃ line line', consoleLine? terminal c first = some line ∧ consoleLine? terminal d second = some line' ∧
      (line = line' ↔ (c == d) = true ∧ first = second) := by
  obtain ⟨octets, form⟩ := lineFormed documented stored
  obtain ⟨octets', form'⟩ := lineFormed documented other
  refine ⟨⟨octets, form⟩, _, _, lineGiven form.stored first, lineGiven form'.stored second,
    ⟨?apart, ?same⟩⟩
  case apart =>
    intro same
    obtain ⟨labels, bodies⟩ := List.append_inj' (String.ofList_injective same)
      (form.size.trans form'.size.symm)
    exact ⟨Color.beqLevels.mpr (levelsOfHex stored other (bodyHex documented stored other bodies)),
      String.toList_injective (labelInjective labels)⟩
  case same =>
    rintro ⟨same, rfl⟩
    have levels := Color.beqLevels.mp same
    have octets : octets = octets' := by
      have given := form.stored
      rw [Color.octetsSame levels, form'.stored] at given
      exact (Option.some.inj given).symm
    rw [octets, bodySame levels]

/-- Equal colors, one with a truth value in it, behind descriptions of which one ends like a label. -/
theorem lineBehindLabel : Terminal.ansi.Documented ∧
    Color.Storable ⟨.int 1, .int 2, .int 255, .flag true⟩ ∧
    Color.Storable ⟨.int 1, .int 2, .int 255, .int 1⟩ ∧
    consoleLine? .ansi ⟨.int 1, .int 2, .int 255, .flag true⟩ "a" ≠
      consoleLine? .ansi ⟨.int 1, .int 2, .int 255, .int 1⟩ "a: " := by
  have stored : Color.Storable ⟨.int 1, .int 2, .int 255, .flag true⟩ :=
    Color.storableChannels.mpr (by decide)
  have other : Color.Storable ⟨.int 1, .int 2, .int 255, .int 1⟩ :=
    Color.storableChannels.mpr (by decide)
  have documented := Terminal.ansiDocumented
  obtain ⟨_, line, line', shown, shown', apart⟩ :=
    lineDeterminesInputs documented stored other "a" "a: "
  refine ⟨documented, stored, other, fun same => ?_⟩
  have lines : line = line' := Option.some.inj (shown.symm.trans (same.trans shown'))
  exact absurd (apart.mp lines).2 (by decide)

end ConsoleLine
end BufferColor
