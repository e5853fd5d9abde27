import BufferColor.Color

/-! A color on one line of a console: a swatch in the basic background color that is nearest to the
painted color, the stored channels in hexadecimal, and the octets of the buffer. What switches the
style of a console, and how octets are dumped, is up to the terminal. -/
namespace BufferColor

inductive Background where
  | black
  | red
  | green
  | yellow
  | blue
  | magenta
  | cyan
  | white
  deriving DecidableEq, Repr

def Background.code : Background → Nat
  | black => 40
  | red => 41
  | green => 42
  | yellow => 43
  | blue => 44
  | magenta => 45
  | cyan => 46
  | white => 47

structure Terminal where
  background : Background → List Char
  dim : List Char
  reset : List Char
  dump : List UInt8 → List Char → List Char

namespace Terminal

def escape (code : Nat) : List Char := '\x1b' :: '[' :: Numeral.natural code ++ ['m']

def octetChars (octet : UInt8) : List Char :=
  [Numeral.upperDigit (octet.toNat / 16), Numeral.upperDigit (octet.toNat % 16)]

def ansi : Terminal where
  background basic := escape basic.code
  dim := escape 2
  reset := escape 0
  dump octets separator := separator.intercalate (octets.map octetChars)

end Terminal

namespace ConsoleLine

/- The basic colors by the number of red, green and blue in them, which count one, two and four. -/
def swatches : List Background :=
  [.black, .red, .green, .yellow, .blue, .magenta, .cyan, .white]

def index (c : Color) : Nat :=
  (if 128 ≤ c.blue.level then 1 else 0) ||| (if 128 ≤ c.green.level then 2 else 0) |||
    (if 128 ≤ c.red.level then 4 else 0)

theorem indexBound (c : Color) : index c < swatches.length := by
  unfold index
  split <;> split <;> split <;> decide

def background (c : Color) : Background := swatches.get ⟨index c, indexBound c⟩

variable (terminal : Terminal)

def swatch (c : Color) : List Char :=
  terminal.background (background c) ++ [' ', ' '] ++ terminal.reset

def parts (c : Color) (octets : List UInt8) (description : List Char) : List (List Char) :=
  let data := terminal.dump octets [' ']
  let shown := [swatch terminal c, c.hexChars, terminal.dim ++ data ++ terminal.reset]
  if description.isEmpty then shown else (description ++ [':']) :: shown

def chars? (c : Color) (description : List Char) : Option (List Char) :=
  c.octets?.map fun octets => [' '].intercalate (parts terminal c octets description)

end ConsoleLine

def consoleLine? (terminal : Terminal) (c : Color) (description : String) : Option String :=
  (ConsoleLine.chars? terminal c description.toList).map String.ofList

def consoleOutput? (terminal : Terminal) (c : Color) (description : String) : Option String :=
  (ConsoleLine.chars? terminal c description.toList).map fun line => String.ofList (line ++ ['\n'])

end BufferColor
