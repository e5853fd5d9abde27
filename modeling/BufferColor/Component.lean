import BufferColor.Value

/-! Colors from the components that are meant. Each component has to be an integer, or a truth
value, from 0 to 255; they are checked in the order red, green, blue, alpha, and the first bad one
is reported. Red and blue are exchanged here and nowhere else. -/
namespace BufferColor

inductive Component where
  | red
  | green
  | blue
  | alpha
  deriving DecidableEq, Repr

namespace Component

def name : Component → String
  | red => "red"
  | green => "green"
  | blue => "blue"
  | alpha => "alpha"

def ofName? (name : String) : Option Component :=
  [red, green, blue, alpha].find? fun component => component.name == name

end Component

def Color.channel (c : Color) : Component → Channel
  | .red => c.red
  | .green => c.green
  | .blue => c.blue
  | .alpha => c.alpha

inductive ComponentError where
  | notInteger (component : Component) (value : Value)
  | outOfRange (component : Component) (level : Int)

namespace ComponentError

def messageChars : ComponentError → List Char
  | notInteger component value =>
      component.name.toList ++ " component must be an integer, got ".toList ++ value.written
  | outOfRange component level =>
      component.name.toList ++ " component must be in [0; 255], got ".toList ++ Numeral.decimal level

def message (e : ComponentError) : String := String.ofList e.messageChars

end ComponentError

def Component.channelOf (component : Component) : Value → Except ComponentError Channel
  | .int n => if 0 ≤ n ∧ n ≤ 255 then .ok (.int n) else .error (.outOfRange component n)
  | .bool b => .ok (.flag b)
  | value => .error (.notInteger component value)

namespace Color

def ofComponents (red green blue alpha : Value) : Except ComponentError Color := do
  let red ← Component.red.channelOf red
  let green ← Component.green.channelOf green
  let blue ← Component.blue.channelOf blue
  let alpha ← Component.alpha.channelOf alpha
  .ok ⟨blue, green, red, alpha⟩

theorem levelsStored {red green blue alpha : Int}
    (atRed : 0 ≤ red ∧ red ≤ 255) (atGreen : 0 ≤ green ∧ green ≤ 255)
    (atBlue : 0 ≤ blue ∧ blue ≤ 255) (atAlpha : 0 ≤ alpha ∧ alpha ≤ 255) :
    ofComponents (.int red) (.int green) (.int blue) (.int alpha) =
      .ok ⟨.int blue, .int green, .int red, .int alpha⟩ := by
  simp only [ofComponents, Component.channelOf, if_pos atRed, if_pos atGreen, if_pos atBlue,
    if_pos atAlpha, bind, Except.bind]

/- A negative number stands for its two's complement without end. -/
def ofPacked (n : Int) : Except ComponentError Color :=
  ofComponents (.int (n / 65536 % 256)) (.int (n / 256 % 256)) (.int (n % 256)) (.int 255)

theorem packedStored (n : Int) :
    ofPacked n =
      .ok ⟨.int (n % 256), .int (n / 256 % 256), .int (n / 65536 % 256), .int 255⟩ := by
  exact levelsStored (by omega) (by omega) (by omega) (by omega)

end Color
end BufferColor
