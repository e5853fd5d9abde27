import BufferColor.Proofs.PrintedValue
import BufferColor.Proofs.Refusal

/-! The messages of refusals show printable characters only. A refused value stands in a message in
its written form and the rest of every message is fixed, so nothing that a caller hands in can break
the line of a message, steer a console or stand in it unseen. -/
namespace BufferColor

namespace Printable
open CodePoint (Span points)

/- Code points that a text could be disturbed by: controls and line breaks, spaces without a break,
marks of direction and of no width, the byte order mark, and all in private use. -/
def disturbing : List Span := [
  (0x0, 0x1f), (0x7f, 0xa0), (0xad, 0xad), (0x1680, 0x1680), (0x180e, 0x180e), (0x2000, 0x200f),
  (0x2028, 0x202f), (0x205f, 0x2064), (0x2066, 0x206f), (0x3000, 0x3000), (0xe000, 0xf8ff),
  (0xfeff, 0xfeff), (0xfff9, 0xfffb), (0xe0001, 0xe0001), (0xe0020, 0xe007f), (0xf0000, 0x10ffff)]

theorem disturbingHidden : ∀ span ∈ disturbing, ∃ wide ∈ hidden, wide.1 ≤ span.1 ∧ span.2 ≤ wide.2 := by
  decide +kernel

theorem spacesDisturbing : ∀ span ∈ Blank.spaces, ∀ n ∈ points span,
    n = ' '.toNat ∨ CodePoint.within disturbing n = true := by
  decide +kernel

end Printable

structure Legible (c : Char) : Prop where
  printable : isPrintable c = true
  undisturbing : ∀ span ∈ Printable.disturbing, ¬ (span.1 ≤ c.toNat ∧ c.toNat ≤ span.2)
  space : Blank.isSpace c = true → c = ' '

theorem legible {c : Char} (printable : isPrintable c = true) : Legible c := by
  have apart : ∀ span ∈ Printable.disturbing, ¬ (span.1 ≤ c.toNat ∧ c.toNat ≤ span.2) := by
    intro span listed ⟨low, high⟩
    obtain ⟨wide, inside, first, last⟩ := Printable.disturbingHidden span listed
    have within := CodePoint.withinMember Printable.hiddenOrdered inside (Nat.le_trans first low)
      (Nat.le_trans high last)
    rw [isPrintable, within] at printable
    contradiction
  refine ⟨printable, apart, fun space => ?_⟩
  obtain ⟨span, listed, inside⟩ := CodePoint.withinSome space
  have point := CodePoint.pointListed.mpr inside
  rcases Printable.spacesDisturbing span listed c.toNat point with blank | disturbs
  · exact Char.toNat_inj.mp blank
  · obtain ⟨other, inside, bounds⟩ := CodePoint.withinSome disturbs
    exact absurd bounds (apart other inside)

namespace ComponentError

theorem messageShows (e : ComponentError) : Shows e.messageChars := by
  cases e with
  | notInteger component value =>
    have front : Shows (component.name.toList ++ " component must be an integer, got ".toList) := by
      cases component <;> exact showsPlain rfl
    exact showsAppend.mpr ⟨front, value.writtenShows⟩
  | outOfRange component level =>
    have front : Shows (component.name.toList ++ " component must be in [0; 255], got ".toList) := by
      cases component <;> exact showsPlain rfl
    exact showsAppend.mpr ⟨front, Numeral.decimalShows level⟩

end ComponentError

namespace ConversionError

theorem refusalShows (value : Value) : Shows (refusal value) := by
  have front : Shows "cannot convert ".toList := showsPlain rfl
  have back : Shows " into a color".toList := showsPlain rfl
  exact showsAppend.mpr ⟨showsAppend.mpr ⟨front, value.writtenShows⟩, back⟩

theorem messageShows {value : Value} {e : ConversionError} (refused : Color.Refused value e) :
    Shows e.messageChars := by
  cases refused with
  | blank blank => exact showsPlain rfl
  | @unknown name visible =>
    have front : Shows "unknown color: ".toList := showsPlain rfl
    exact showsAppend.mpr ⟨front, Quoted.textShows name.toList⟩
  | component cause => exact refusalShows _
  | kind other => exact refusalShows value

end ConversionError

namespace Color

/-- Whatever values are refused as components or for a conversion, the message of the refusal and
that of its cause show legible characters alone: they are printable, none of them is a control, a
mark that is not seen or in private use, and no white space is among them but the blank. -/
theorem refusalLegible {names : NamedColors} (caught : names.Caught) :
    (∀ red green blue alpha e, ofComponents red green blue alpha = .error e →
      ∀ c ∈ e.message.toList, Legible c) ∧
    (∀ value failure, ofValue names value = .error failure → ∃ e, failure = .conversion e ∧
      (∀ c ∈ e.message.toList, Legible c) ∧
      ∀ cause, e.cause? = some cause → ∀ c ∈ cause.message.toList, Legible c) := by
  have component (e : ComponentError) : ∀ c ∈ e.message.toList, Legible c := by
    intro c mem
    rw [ComponentError.message, String.toList_ofList] at mem
    exact legible (e.messageShows c mem)
  refine ⟨fun red green blue alpha e refused => component e, fun value failure failed => ?_⟩
  obtain ⟨e, rfl⟩ := valueRefusal caught failed
  refine ⟨e, rfl, fun c mem => ?_, fun cause _ => component cause⟩
  rw [ConversionError.message, String.toList_ofList] at mem
  exact legible (ConversionError.messageShows (valueRefused failed) c mem)

/-- A text with a line break in it, in a list. -/
theorem brokenTextLegible : NamedColors.standard.Caught ∧
    ofValue .standard (.list [.text "a\nb"]) = .error (.conversion (.unsupported (.list [.text "a\nb"]))) ∧
    ∀ c ∈ (ConversionError.unsupported (.list [.text "a\nb"])).message.toList, Legible c := by
  have caught := NamedColors.standardDocumented.caught
  obtain ⟨e, same, legible, _⟩ := (refusalLegible caught).2 (.list [.text "a\nb"]) _ rfl
  obtain rfl := Failure.conversion.inj same
  exact ⟨caught, rfl, legible⟩

end Color
end BufferColor
