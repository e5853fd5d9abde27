import BufferColor.ConsoleLine
import BufferColor.Conversion

/-! Calls of the library as data, what each of them gives, and sessions in which later calls take
up what earlier ones gave. No call changes a color, so a session is the list of its results. The
packages that the library builds on, for names and for the console, are the same in a whole session. -/
namespace BufferColor

structure Packages where
  names : NamedColors
  terminal : Terminal

def Packages.standard : Packages := ⟨.standard, .ansi⟩

structure Release where
  version : String
  octetsPerColor : Nat
  publicNames : List String
  colorNames : List String
  consoleNames : List String

def Release.current : Release where
  version := "0.1.0"
  octetsPerColor := 4
  publicNames := ["Color", "ColorError", "ColorLike", "__version__", "decode_channel", "from_int",
    "parse", "parse_argb", "parse_rgb", "rgba", "to_color", "values"]
  colorNames := ["Color", "decode_channel", "from_int", "parse", "parse_argb", "parse_rgb", "rgba",
    "values"]
  consoleNames := ["format_color", "print_color"]

inductive Call where
  | ofComponents (red green blue alpha : Value)
  | ofPacked (n : Int)
  | ofHexText (text : String)
  | ofRgbText (text : String)
  | ofArgbText (text : String)
  | octet (text : String)
  | ofValue (value : Value)
  | describe (c : Color)
  | compare (a b : Value)
  | palette (colors : List Color)
  | assign (c : Color) (name : String) (value : Value)
  | delete (c : Color) (name : String)
  | consoleLine (c : Color) (description : String)
  | consoleOutput (c : Color) (description : String)
  | refuse (message : Option String) (value : Value)
  | release

/- A conversion also tells whether the color was the given value itself; a line is handed back, while
a shown text has gone to the console. -/
inductive Outcome where
  | color (c : Option Color)
  | converted (c : Color) (given : Bool)
  | octet (n : Option Nat)
  | description (c : Color)
  | comparison (equal sameHash : Bool)
  | palette (colors : List Color)
  | line (text : String)
  | shown (text : String)
  | release (current : Release)

namespace Value

def isColor : Value → Bool
  | color _ => true
  | _ => false

end Value

namespace Outcome

def color? : Outcome → Option Color
  | color c => c
  | converted c _ => some c
  | description c => some c
  | _ => none

def value (outcome : Outcome) : Value :=
  match outcome with
  | octet (some n) => .int n
  | line text => .text text
  | _ => (outcome.color?.map Value.color).getD .null

end Outcome

namespace Call

def stored (text : Option String) : Except Failure String :=
  match text with
  | some text => .ok text
  | none => .error .noOctets

def outcome (packages : Packages) : Call → Except Failure Outcome
  | ofComponents red green blue alpha =>
      ((Color.ofComponents red green blue alpha).mapError .component).map fun c => .color (some c)
  | ofPacked n => ((Color.ofPacked n).mapError .component).map fun c => .color (some c)
  | ofHexText text => ((Color.ofHexText text).mapError .component).map .color
  | ofRgbText text => ((Color.ofRgbText text).mapError .component).map .color
  | ofArgbText text => ((Color.ofArgbText text).mapError .component).map .color
  | octet text => .ok (.octet (Hex.octet? text))
  | ofValue value => (Color.ofValue packages.names value).map fun c => .converted c value.isColor
  | describe c => .ok (.description c)
  | compare a b =>
      ((a.sharesHash b).mapError .unhashable).map fun shared => .comparison (a.same b) shared
  | palette colors => .ok (.palette (Palette.ofList colors))
  | assign _ name _ => .error (.change (.assigned name))
  | delete _ name => .error (.change (.deleted name))
  | consoleLine c description => (stored (consoleLine? packages.terminal c description)).map .line
  | consoleOutput c description =>
      (stored (consoleOutput? packages.terminal c description)).map .shown
  | refuse message value => .error (.conversion (.ofMessage message value))
  | release => .ok (.release .current)

end Call

structure Session where
  results : List (Except Failure Outcome)

namespace Session

def empty : Session := ⟨[]⟩

def perform (packages : Packages) (session : Session) (call : Call) : Session :=
  ⟨session.results ++ [call.outcome packages]⟩

def outcome? (session : Session) (step : Nat) : Option Outcome :=
  match session.results[step]? with
  | some (.ok outcome) => some outcome
  | _ => none

def run (packages : Packages) (calls : List Call) : Session := calls.foldl (perform packages) empty

def value (session : Session) (step : Nat) : Value :=
  ((session.outcome? step).map Outcome.value).getD .null

def channel? (session : Session) (step : Nat) (component : Component) : Option Channel := do
  let outcome ← session.outcome? step
  let c ← outcome.color?
  some (c.channel component)

end Session
end BufferColor
