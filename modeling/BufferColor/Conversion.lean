import BufferColor.Failure
import BufferColor.HexText
import BufferColor.NamedColors

/-! Colors out of arbitrary values. A color stays as it is; an integer is 24 bits, a tuple of three
or four its components, a text hexadecimal or else a name. Every refusal names the value that was
refused, and the bad component where there is one. -/
namespace BufferColor

namespace Blank
open CodePoint (Span within)

/- The separators of the bidirectional classes WS, B and S together with every space separator. -/
def spaces : List Span := [
  (0x9, 0xd), (0x1c, 0x20), (0x85, 0x85), (0xa0, 0xa0), (0x1680, 0x1680), (0x2000, 0x200a),
  (0x2028, 0x2029), (0x202f, 0x202f), (0x205f, 0x205f), (0x3000, 0x3000)]

def isSpace (c : Char) : Bool := within spaces c.toNat

def isBlank (cs : List Char) : Bool := cs.all isSpace

end Blank

namespace Color

def scaled (part : Binary) : Int := max 0 (min 255 (part.times 255).rounded)

/- Two kinds of errors of the library say that it does not know the name; any other passes through. -/
def componentsOfName (names : NamedColors) (name : String) : Except Failure (Rgb Int) :=
  if Blank.isBlank name.toList then .error (.conversion (.blankName name))
  else match names.rgb name with
    | .ok rgb => .ok (rgb.map scaled)
    | .error .attribute => .error (.conversion (.unknownName name))
    | .error .value => .error (.conversion (.unknownName name))
    | .error (.other kind) => .error (.library kind)

def ofRgb (rgb : Rgb Int) : Except ComponentError Color :=
  ofComponents (.int rgb.red) (.int rgb.green) (.int rgb.blue) (.int 255)

def ofText (names : NamedColors) (text : String) : Except Failure Color := do
  match ← (ofHexText text).mapError .component with
  | some color => .ok color
  | none =>
      let rgb ← componentsOfName names text
      (ofRgb rgb).mapError .component

def ofTuple (items : List Value) : Except ConversionError Color :=
  match items with
  | [red, green, blue] =>
      (ofComponents red green blue (.int 255)).mapError (.badComponent (.tuple items))
  | [red, green, blue, alpha] =>
      (ofComponents red green blue alpha).mapError (.badComponent (.tuple items))
  | _ => .error (.unsupported (.tuple items))

def ofValue (names : NamedColors) : Value → Except Failure Color
  | .color c => .ok c
  | .int n => (ofPacked n).mapError .component
  | .text s => ofText names s
  | .tuple items => (ofTuple items).mapError .conversion
  | value => .error (.conversion (.unsupported value))

end Color
end BufferColor
