import BufferColor.Color
import BufferColor.Floating
import BufferColor.Quoted

/-! What may be offered as a color: plain data nested to any depth, with colors among it.
The written form shows the kind and the content of a value at every level; a limit of depth, as an
interpreter has one, is not modelled. -/
namespace BufferColor

inductive Value where
  | null
  | bool (b : Bool)
  | int (n : Int)
  | float (d : Decimal)
  | text (s : String)
  | octets (bytes : List UInt8)
  | tuple (items : List Value)
  | list (items : List Value)
  | table (entries : List (Value × Value))
  | color (c : Color)

namespace Channel

def value : Channel → Value
  | int n => .int n
  | flag b => .bool b

end Channel

namespace Value

def comma : List Char := [',', ' ']

mutual

def written : Value → List Char
  | null => ['N', 'o', 'n', 'e']
  | bool b => (Channel.flag b).written
  | int n => Numeral.decimal n
  | float d => d.written
  | text s => Quoted.text s.toList
  | octets bytes => Quoted.octets bytes
  | tuple [item] => '(' :: item.written ++ [',', ')']
  | tuple items => '(' :: sequence items ++ [')']
  | list items => '[' :: sequence items ++ [']']
  | table items => '\x7b' :: entries items ++ ['\x7d']
  | color c => c.written

def sequence : List Value → List Char
  | [] => []
  | [item] => item.written
  | item :: rest => item.written ++ comma ++ sequence rest

def entries : List (Value × Value) → List Char
  | [] => []
  | [item] => entry item
  | item :: rest => entry item ++ comma ++ entries rest

def entry : Value × Value → List Char
  | (key, value) => key.written ++ [':', ' '] ++ value.written

end

end Value
end BufferColor
