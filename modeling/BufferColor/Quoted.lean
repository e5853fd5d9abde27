import BufferColor.Numeral
import BufferColor.Printable

/-! Quoted texts and octets for messages. The mark is an apostrophe unless the text holds an
apostrophe and no double quote. The backslash, the mark and all that is not printable are written
as escapes, so a quoted text stays on its line and shows each of its characters. -/
namespace BufferColor.Quoted
open Numeral (padded lowerHex)

def apostrophe : Char := '\x27'
def doubleQuote : Char := '\x22'
def backslash : Char := '\x5c'

def mark (cs : List Char) : Char :=
  if cs.contains apostrophe && !cs.contains doubleQuote then doubleQuote else apostrophe

def IsMark (c : Char) : Prop := c = apostrophe ∨ c = doubleQuote

theorem markIsMark (cs : List Char) : IsMark (mark cs) := by
  unfold mark
  split
  · exact .inr rfl
  · exact .inl rfl

def controlLetter? (c : Char) : Option Char :=
  if c = '\t' then some 't' else if c = '\n' then some 'n' else if c = '\r' then some 'r' else none

theorem controlListed {c letter : Char} (named : controlLetter? c = some letter) :
    (c, letter) ∈ [('\t', 't'), ('\n', 'n'), ('\r', 'r')] := by
  unfold controlLetter? at named
  split at named
  · subst c
    cases named
    decide
  · split at named
    · subst c
      cases named
      decide
    · split at named
      · subst c
        cases named
        decide
      · contradiction

def numbered (n : Nat) : List Char :=
  if n < 0x100 then 'x' :: padded 2 (lowerHex n)
  else if n < 0x10000 then 'u' :: padded 4 (lowerHex n)
  else 'U' :: padded 8 (lowerHex n)

def character (shown : Char → Bool) (mark c : Char) : List Char :=
  if c = backslash ∨ c = mark then [backslash, c]
  else match controlLetter? c with
    | some letter => [backslash, letter]
    | none => if shown c then [c] else backslash :: numbered c.toNat

def enclosed (shown : Char → Bool) (cs : List Char) : List Char :=
  mark cs :: cs.flatMap (character shown (mark cs)) ++ [mark cs]

def text (cs : List Char) : List Char := enclosed isPrintable cs

def isPrintableAscii (c : Char) : Bool := 0x20 ≤ c.toNat && c.toNat ≤ 0x7e

def octets (bytes : List UInt8) : List Char :=
  'b' :: enclosed isPrintableAscii (bytes.map fun byte => Char.ofNat byte.toNat)

end BufferColor.Quoted
