import BufferColor.Numeral

/-! Colors as they lie in a buffer whose compositor paints red as blue and blue as red.
A color is its four stored channels; the color that is meant has red and blue exchanged. A channel is
an integer, or a truth value that counts as one or zero, and nothing bounds it here; the constructors
of colors do. Equality counts numbers only, so a truth value equals the integer that it counts as. -/
namespace BufferColor

inductive Channel where
  | int (n : Int)
  | flag (b : Bool)
  deriving DecidableEq, Repr

namespace Channel

def level : Channel → Int
  | int n => n
  | flag b => if b then 1 else 0

def written : Channel → List Char
  | int n => Numeral.decimal n
  | flag true => ['T', 'r', 'u', 'e']
  | flag false => ['F', 'a', 'l', 's', 'e']

def octet? (channel : Channel) : Option UInt8 :=
  if 0 ≤ channel.level ∧ channel.level ≤ 255 then some (UInt8.ofNat channel.level.toNat) else none

end Channel

structure Color where
  red : Channel
  green : Channel
  blue : Channel
  alpha : Channel
  deriving Repr

namespace Color

def channels (c : Color) : List Channel := [c.red, c.green, c.blue, c.alpha]

def levels (c : Color) : List Int := c.channels.map Channel.level

instance : BEq Color := ⟨fun a b => a.levels == b.levels⟩

instance : Hashable Color :=
  ⟨fun c => hash (c.levels.map fun level => String.ofList (Numeral.decimal level))⟩

def exchanged (c : Color) : Color := ⟨c.blue, c.green, c.red, c.alpha⟩

def octets? (c : Color) : Option (List UInt8) := do
  let red ← c.red.octet?
  let green ← c.green.octet?
  let blue ← c.blue.octet?
  let alpha ← c.alpha.octet?
  some [red, green, blue, alpha]

def hexChars (c : Color) : List Char :=
  '#' :: [c.alpha, c.red, c.green, c.blue].flatMap fun channel => Numeral.hexPlaces channel.level

def hex (c : Color) : String := String.ofList c.hexChars

def written (c : Color) : List Char :=
  "Color(red=".toList ++ c.red.written ++ ", green=".toList ++ c.green.written ++
    ", blue=".toList ++ c.blue.written ++ ", alpha=".toList ++ c.alpha.written ++ [')']

def describe (c : Color) : String := String.ofList c.written

instance : ToString Color := ⟨hex⟩

theorem levelsSame {a b : Color} : a.levels = b.levels ↔ a.red.level = b.red.level ∧
    a.green.level = b.green.level ∧ a.blue.level = b.blue.level ∧ a.alpha.level = b.alpha.level := by
  simp [levels, channels]

theorem beqLevels {a b : Color} : (a == b) = true ↔ a.levels = b.levels := by
  show (a.levels == b.levels) = true ↔ _
  exact beq_iff_eq

theorem hashOfEqual {a b : Color} (same : (a == b) = true) : hash a = hash b := by
  simp only [hash, beqLevels.mp same]

end Color

namespace Palette

def insert (palette : List Color) (c : Color) : List Color :=
  if palette.contains c then palette else palette ++ [c]

def ofList (colors : List Color) : List Color := colors.foldl insert []

end Palette
end BufferColor
