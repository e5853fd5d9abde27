import BufferColor.Value
import BufferColor.Proofs.Description
import BufferColor.Proofs.HexPlaces

/-! The written form of a value shows printable characters only. A quoted text has each of its
characters as it is or as an escape, and all else that is written are ASCII characters, so whatever
a value holds at any depth stays on one line. -/
namespace BufferColor

def Shows (cs : List Char) : Prop := ∀ c ∈ cs, isPrintable c = true

theorem showsNil : Shows [] := List.forall_mem_nil _

theorem showsAppend {cs ds : List Char} : Shows (cs ++ ds) ↔ Shows cs ∧ Shows ds :=
  List.forall_mem_append

theorem showsCons {c : Char} {cs : List Char} :
    Shows (c :: cs) ↔ isPrintable c = true ∧ Shows cs := List.forall_mem_cons

theorem showsSublist {cs ds : List Char} (inside : cs.Sublist ds) (shows : Shows ds) : Shows cs :=
  fun c mem => shows c (inside.subset mem)

namespace Printable
open Quoted (isPrintableAscii)

theorem hiddenBeyond : ∀ span ∈ hidden, span.2 < 0x20 ∨ 0x7e < span.1 := by
  decide +kernel

theorem plainShown {c : Char} (plain : isPrintableAscii c = true) : isPrintable c = true := by
  obtain ⟨low, high⟩ : 0x20 ≤ c.toNat ∧ c.toNat ≤ 0x7e := by simpa [isPrintableAscii] using plain
  unfold isPrintable
  cases within : CodePoint.within hidden c.toNat with
  | false => rfl
  | true =>
    obtain ⟨span, listed, first, last⟩ := CodePoint.withinSome within
    rcases hiddenBeyond span listed with before | after <;> omega

theorem alphanumShown {c : Char} (plain : c.isAlphanum = true) : isPrintable c = true := by
  delta Char.isAlphanum Char.isAlpha Char.isUpper Char.isLower Char.isDigit at plain
  simp only [Bool.or_eq_true, Bool.and_eq_true, decide_eq_true_eq, ge_iff_le,
    UInt32.le_iff_toNat_le] at plain
  change ((65 ≤ c.toNat ∧ c.toNat ≤ 90) ∨ (97 ≤ c.toNat ∧ c.toNat ≤ 122)) ∨
    (48 ≤ c.toNat ∧ c.toNat ≤ 57) at plain
  have low : 0x20 ≤ c.toNat := by omega
  have high : c.toNat ≤ 0x7e := by omega
  exact plainShown (by simp [isPrintableAscii, low, high])

theorem digitShown {c : Char} (digit : c.isDigit = true) : isPrintable c = true :=
  alphanumShown (by simp [Char.isAlphanum, digit])

end Printable

open Printable (plainShown)

theorem showsPlain {cs : List Char} (plain : cs.all Quoted.isPrintableAscii = true) : Shows cs :=
  fun c mem => plainShown (List.all_eq_true.mp plain c mem)

namespace Numeral
open Printable (digitShown)

theorem naturalShows (n : Nat) : Shows (natural n) := fun c mem => digitShown (naturalChars n c mem)

theorem decimalShows (n : Int) : Shows (decimal n) := by
  intro c mem
  rcases decimalChars n c mem with rfl | digit
  · exact plainShown rfl
  · exact digitShown digit

theorem hexShows (width n : Nat) : Shows (padded width (lowerHex n)) := by
  have alphabet : Shows Hex.alphabet := showsPlain rfl
  exact fun c mem => alphabet c (Hex.paddedListed (fun _ => .inl rfl) width n c mem)

end Numeral

namespace Quoted

theorem markShown (cs : List Char) : isPrintable (mark cs) = true := by
  rcases markIsMark cs with same | same <;> rw [same] <;> exact plainShown rfl

theorem letterShown {c letter : Char} (named : controlLetter? c = some letter) :
    isPrintable letter = true := by
  have letters : Shows ['t', 'n', 'r'] := showsPlain rfl
  exact letters letter (List.mem_map_of_mem (f := Prod.snd) (controlListed named))

theorem numberedShows (n : Nat) : Shows (numbered n) := by
  unfold numbered
  split
  · exact showsCons.mpr ⟨plainShown rfl, Numeral.hexShows 2 n⟩
  · split
    · exact showsCons.mpr ⟨plainShown rfl, Numeral.hexShows 4 n⟩
    · exact showsCons.mpr ⟨plainShown rfl, Numeral.hexShows 8 n⟩

theorem characterShows {shown : Char → Bool} (kept : ∀ c, shown c = true → isPrintable c = true)
    {mark : Char} (visible : isPrintable mark = true) (c : Char) : Shows (character shown mark c) := by
  have slash : isPrintable backslash = true := plainShown rfl
  unfold character
  split
  · rename_i special
    refine showsCons.mpr ⟨slash, showsCons.mpr ⟨?_, showsNil⟩⟩
    rcases special with rfl | rfl <;> assumption
  · split
    · rename_i letter named
      exact showsCons.mpr ⟨slash, showsCons.mpr ⟨letterShown named, showsNil⟩⟩
    · split
      · rename_i plain
        exact showsCons.mpr ⟨kept c plain, showsNil⟩
      · exact showsCons.mpr ⟨slash, numberedShows c.toNat⟩

theorem enclosedShows {shown : Char → Bool} (kept : ∀ c, shown c = true → isPrintable c = true)
    (cs : List Char) : Shows (enclosed shown cs) := by
  have visible := markShown cs
  refine showsCons.mpr ⟨visible, showsAppend.mpr ⟨fun d mem => ?_, showsCons.mpr ⟨visible, showsNil⟩⟩⟩
  obtain ⟨c, _, inside⟩ := List.mem_flatMap.mp mem
  exact characterShows kept visible c d inside

theorem textShows (cs : List Char) : Shows (text cs) := enclosedShows (fun _ shown => shown) cs

theorem octetsShow (bytes : List UInt8) : Shows (octets bytes) := by
  exact showsCons.mpr ⟨plainShown rfl, enclosedShows (fun _ plain => plainShown plain) _⟩

end Quoted

namespace Decimal

theorem signShows (negative : Bool) : Shows (sign negative) := by
  cases negative <;> exact showsPlain rfl

theorem zerosShow (count : Nat) : Shows (List.replicate count '0') := by
  intro c mem
  rw [(List.mem_replicate.mp mem).2]
  exact plainShown rfl

theorem positionalShows {digits : List Char} (shows : Shows digits) (point : Int) :
    Shows (positional digits point) := by
  have dot : isPrintable '.' = true := plainShown rfl
  unfold positional
  split
  · exact showsCons.mpr ⟨plainShown rfl, showsCons.mpr ⟨dot, showsAppend.mpr ⟨zerosShow _, shows⟩⟩⟩
  · refine showsAppend.mpr ⟨showsAppend.mpr ⟨?_, zerosShow _⟩, showsCons.mpr ⟨dot, ?_⟩⟩
    · exact showsSublist (List.take_sublist _ _) shows
    · split
      · exact zerosShow 1
      · exact showsSublist (List.drop_sublist _ _) shows

theorem exponentialShows {digits : List Char} (shows : Shows digits) (leading : Int) :
    Shows (exponential digits leading) := by
  refine showsAppend.mpr ⟨showsAppend.mpr ⟨?_, ?_⟩, showsCons.mpr ⟨plainShown rfl, showsCons.mpr ⟨?_, ?_⟩⟩⟩
  · exact showsSublist (List.take_sublist _ _) shows
  · split
    · exact showsNil
    · exact showsCons.mpr ⟨plainShown rfl, showsSublist (List.drop_sublist _ _) shows⟩
  · split <;> exact plainShown rfl
  · exact showsAppend.mpr ⟨zerosShow _, Numeral.naturalShows _⟩

theorem magnitudeShows (significand : Nat) (exponent : Int) : Shows (magnitude significand exponent) := by
  have digits := Numeral.naturalShows significand
  unfold magnitude
  split
  · exact showsPlain rfl
  · dsimp only
    split
    · exact positionalShows digits _
    · exact exponentialShows digits _

theorem writtenShows (d : Decimal) : Shows d.written := by
  cases d with
  | nan => exact showsPlain rfl
  | infinite negative => exact showsAppend.mpr ⟨signShows negative, showsPlain rfl⟩
  | finite negative significand exponent =>
    exact showsAppend.mpr ⟨signShows negative, magnitudeShows significand exponent⟩

end Decimal

theorem Channel.writtenShows (channel : Channel) : Shows channel.written := by
  intro c mem
  rcases channel.writtenChars c mem with rfl | plain
  · exact plainShown rfl
  · exact Printable.alphanumShown plain

theorem Color.writtenShows (c : Color) : Shows c.written := by
  have red : Shows "Color(red=".toList := showsPlain rfl
  have green : Shows ", green=".toList := showsPlain rfl
  have blue : Shows ", blue=".toList := showsPlain rfl
  have alpha : Shows ", alpha=".toList := showsPlain rfl
  have last : Shows [')'] := showsPlain rfl
  unfold written
  simp only [showsAppend]
  exact ⟨⟨⟨⟨⟨⟨⟨⟨red, c.red.writtenShows⟩, green⟩, c.green.writtenShows⟩, blue⟩, c.blue.writtenShows⟩,
    alpha⟩, c.alpha.writtenShows⟩, last⟩

namespace Value

theorem commaShows : Shows comma := showsPlain rfl

theorem bracketsShow {first last : Char} (opens : isPrintable first = true)
    (closes : isPrintable last = true) {cs : List Char} (shows : Shows cs) :
    Shows (first :: cs ++ [last]) :=
  showsCons.mpr ⟨opens, showsAppend.mpr ⟨shows, showsCons.mpr ⟨closes, showsNil⟩⟩⟩

mutual

/- The induction follows the written form: a value by its kind, items and entries by their number. -/
theorem writtenShows : (value : Value) → Shows value.written
  | null => showsPlain rfl
  | bool b => (Channel.flag b).writtenShows
  | int n => Numeral.decimalShows n
  | float d => d.writtenShows
  | text s => Quoted.textShows s.toList
  | octets bytes => Quoted.octetsShow bytes
  | tuple [] => showsPlain rfl
  | tuple [item] =>
    showsCons.mpr ⟨plainShown rfl, showsAppend.mpr ⟨item.writtenShows, showsPlain rfl⟩⟩
  | tuple (item :: next :: rest) =>
    bracketsShow (plainShown rfl) (plainShown rfl) (sequenceShows (item :: next :: rest))
  | list items => bracketsShow (plainShown rfl) (plainShown rfl) (sequenceShows items)
  | table items => bracketsShow (plainShown rfl) (plainShown rfl) (entriesShow items)
  | color c => c.writtenShows

theorem sequenceShows : (items : List Value) → Shows (sequence items)
  | [] => showsNil
  | [item] => item.writtenShows
  | item :: next :: rest =>
    showsAppend.mpr ⟨showsAppend.mpr ⟨item.writtenShows, commaShows⟩, sequenceShows (next :: rest)⟩

theorem entriesShow : (items : List (Value × Value)) → Shows (entries items)
  | [] => showsNil
  | [item] => entryShows item
  | item :: next :: rest =>
    showsAppend.mpr ⟨showsAppend.mpr ⟨entryShows item, commaShows⟩, entriesShow (next :: rest)⟩

theorem entryShows : (item : Value × Value) → Shows (entry item)
  | (key, value) =>
    showsAppend.mpr ⟨showsAppend.mpr ⟨key.writtenShows, showsPlain rfl⟩, value.writtenShows⟩

end

end Value
end BufferColor
