import BufferColor.Component

/-! Colors from hexadecimal text. A digit is an ASCII one in either letter case and nothing else: no
sign, no blank, no separator, no digit of another script. Six digits are red, green and blue; eight have
alpha in front. Any chain of the marks # and 0x may stand before them. The readers pass on what the
check of the components says, though octets never fail it; a text of another form gives no color. -/
namespace BufferColor.Hex

def digit? (c : Char) : Option Nat :=
  if '0' ≤ c ∧ c ≤ '9' then some (c.toNat - 48)
  else if 'A' ≤ c ∧ c ≤ 'F' then some (c.toNat - 55)
  else if 'a' ≤ c ∧ c ≤ 'f' then some (c.toNat - 87)
  else none

def octetOf? : List Char → Option Nat
  | c :: d :: _ => do
      let high ← digit? c
      let low ← digit? d
      some (16 * high + low)
  | _ => none

def octet? (text : String) : Option Nat := octetOf? text.toList

def allDigits (cs : List Char) : Bool := cs.all fun c => (digit? c).isSome

theorem digitBound {c : Char} {d : Nat} (h : digit? c = some d) : d < 16 := by
  simp only [digit?, Char.le_def, UInt32.le_iff_toNat_le] at h
  have shape : c.toNat = c.val.toNat := rfl
  split at h
  · rename_i range
    have low : '0'.val.toNat = 48 := rfl
    have high : '9'.val.toNat = 57 := rfl
    cases h; omega
  · split at h
    · rename_i range
      have low : 'A'.val.toNat = 65 := rfl
      have high : 'F'.val.toNat = 70 := rfl
      cases h; omega
    · split at h
      · rename_i range
        have low : 'a'.val.toNat = 97 := rfl
        have high : 'f'.val.toNat = 102 := rfl
        cases h; omega
      · cases h

theorem octetBound {cs : List Char} {n : Nat} (h : octetOf? cs = some n) : n < 256 := by
  match cs, h with
  | c :: d :: rest, h =>
    simp only [octetOf?, bind, Option.bind_eq_some_iff] at h
    obtain ⟨high, atHigh, low, atLow, last⟩ := h
    have highBound := digitBound atHigh
    have lowBound := digitBound atLow
    cases last
    omega

end BufferColor.Hex

namespace BufferColor.Color

def ofRgbChars (cs : List Char) : Except ComponentError (Option Color) :=
  if cs.length ≠ 6 then .ok none
  else match Hex.octetOf? cs, Hex.octetOf? (cs.drop 2), Hex.octetOf? (cs.drop 4) with
    | some red, some green, some blue =>
        (ofComponents (.int red) (.int green) (.int blue) (.int 255)).map some
    | _, _, _ => .ok none

theorem rgbStored {cs : List Char} {red green blue : Nat} (six : cs.length = 6)
    (atRed : Hex.octetOf? cs = some red) (atGreen : Hex.octetOf? (cs.drop 2) = some green)
    (atBlue : Hex.octetOf? (cs.drop 4) = some blue) :
    ofRgbChars cs = .ok (some ⟨.int blue, .int green, .int red, .int 255⟩) := by
  have redBound := Hex.octetBound atRed
  have greenBound := Hex.octetBound atGreen
  have blueBound := Hex.octetBound atBlue
  have stored := @levelsStored red green blue 255
    (by omega) (by omega) (by omega) (by omega)
  simp [ofRgbChars, six, atRed, atGreen, atBlue, stored, Except.map]

/- The color of the last six digits has red and blue exchanged already, so it is exchanged back. -/
def ofArgbChars (cs : List Char) : Except ComponentError (Option Color) :=
  if cs.length ≠ 8 then .ok none
  else match Hex.octetOf? cs with
    | none => .ok none
    | some alpha => do
        match ← ofRgbChars (cs.drop 2) with
        | none => .ok none
        | some solid =>
            let meant := solid.exchanged
            (ofComponents meant.red.value meant.green.value meant.blue.value (.int alpha)).map some

inductive Marks : List Char → Prop where
  | nil : Marks []
  | hash {rest} (tail : Marks rest) : Marks ('#' :: rest)
  | zeroX {rest} (tail : Marks rest) : Marks ('0' :: 'x' :: rest)

def unmarked : List Char → List Char
  | '#' :: rest => unmarked rest
  | '0' :: 'x' :: rest => unmarked rest
  | cs => cs

theorem unmarkedSplit (cs : List Char) : ∃ marks, Marks marks ∧ cs = marks ++ unmarked cs := by
  fun_induction unmarked cs with
  | case1 rest ih =>
    obtain ⟨marks, chain, split⟩ := ih
    exact ⟨'#' :: marks, .hash chain, by simpa using split⟩
  | case2 rest ih =>
    obtain ⟨marks, chain, split⟩ := ih
    exact ⟨'0' :: 'x' :: marks, .zeroX chain, by simpa using split⟩
  | case3 cs => exact ⟨[], .nil, rfl⟩

theorem unmarkedAppend {marks : List Char} (chain : Marks marks) (body : List Char) :
    unmarked (marks ++ body) = unmarked body := by
  induction chain with
  | nil => rfl
  | hash tail ih => simpa [unmarked] using ih
  | zeroX tail ih => simpa [unmarked] using ih

def ofHexChars (cs : List Char) : Except ComponentError (Option Color) :=
  let body := unmarked cs
  if body.length = 8 then ofArgbChars body
  else if body.length = 6 then ofRgbChars body
  else .ok none

def ofRgbText (text : String) : Except ComponentError (Option Color) := ofRgbChars text.toList

def ofArgbText (text : String) : Except ComponentError (Option Color) := ofArgbChars text.toList

def ofHexText (text : String) : Except ComponentError (Option Color) := ofHexChars text.toList

end BufferColor.Color
