import BufferColor.Component
import BufferColor.Equality

/-! Why a call fails, as causes and not as texts; each cause has one text of its own.
A refused conversion keeps the refused value, and the bad component where that was the reason. -/
namespace BufferColor

inductive ConversionError where
  | blankName (name : String)
  | unknownName (name : String)
  | unsupported (value : Value)
  | badComponent (value : Value) (cause : ComponentError)
  | described (message : String) (value : Value)

namespace ConversionError

def ofMessage (message : Option String) (value : Value) : ConversionError :=
  match message with
  | some text => if text.isEmpty then unsupported value else described text value
  | none => unsupported value

def value : ConversionError → Value
  | blankName name => .text name
  | unknownName name => .text name
  | unsupported value => value
  | badComponent value _ => value
  | described _ value => value

def cause? : ConversionError → Option ComponentError
  | badComponent _ cause => some cause
  | _ => none

def refusal (value : Value) : List Char :=
  "cannot convert ".toList ++ value.written ++ " into a color".toList

def messageChars : ConversionError → List Char
  | blankName _ => "color name must not be empty".toList
  | unknownName name => "unknown color: ".toList ++ Quoted.text name.toList
  | unsupported value => refusal value
  | badComponent value _ => refusal value
  | described message _ => message.toList

def message (e : ConversionError) : String := String.ofList e.messageChars

end ConversionError

inductive ChangeError where
  | assigned (name : String)
  | deleted (name : String)
  deriving DecidableEq, Repr

namespace ChangeError

def messageChars : ChangeError → List Char
  | assigned name => "cannot assign to field ".toList ++ Quoted.text name.toList
  | deleted name => "cannot delete field ".toList ++ Quoted.text name.toList

def message (e : ChangeError) : String := String.ofList e.messageChars

end ChangeError

inductive Failure where
  | component (e : ComponentError)
  | conversion (e : ConversionError)
  | change (e : ChangeError)
  | unhashable (kind : Value.Mutable)
  | library (kind : String)
  | noOctets

end BufferColor
