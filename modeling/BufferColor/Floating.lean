import BufferColor.Numeral

/-! Floating numbers, written and calculated with. Each of them is written as the shortest decimal that
identifies it: positional while the leading digit stands between the fifth place after the point and
the sixteenth before it, and with an exponent of at least two places beyond. A product is rounded to
53 binary digits, to an even last digit where two are as near. -/
namespace BufferColor
open Numeral (natural padded decimalDigit? ofDigits)

inductive Decimal where
  | nan
  | infinite (negative : Bool)
  | finite (negative : Bool) (significand : Nat) (exponent : Int)
  deriving DecidableEq, Repr

namespace Decimal

def sign (negative : Bool) : List Char := if negative then ['-'] else []

def positional (digits : List Char) (point : Int) : List Char :=
  if point ≤ 0 then '0' :: '.' :: List.replicate (-point).toNat '0' ++ digits
  else
    let whole := digits.take point.toNat
    let part := digits.drop point.toNat
    whole ++ List.replicate (point.toNat - whole.length) '0' ++
      '.' :: if part.isEmpty then ['0'] else part

def exponential (digits : List Char) (leading : Int) : List Char :=
  digits.take 1 ++ (if digits.length ≤ 1 then [] else '.' :: digits.drop 1) ++
    'e' :: (if leading < 0 then '-' else '+') :: padded 2 (natural leading.natAbs)

def magnitude (significand : Nat) (exponent : Int) : List Char :=
  if significand = 0 then ['0', '.', '0']
  else
    let digits := natural significand
    let leading := exponent + digits.length - 1
    if -4 ≤ leading ∧ leading < 16 then positional digits (leading + 1)
    else exponential digits leading

def written : Decimal → List Char
  | nan => ['n', 'a', 'n']
  | infinite negative => sign negative ++ ['i', 'n', 'f']
  | finite negative significand exponent => sign negative ++ magnitude significand exponent

def trimmed : Nat → Nat × Nat
  | 0 => (0, 0)
  | n + 1 =>
      if _divides : (n + 1) % 10 = 0 then
        let (rest, count) := trimmed ((n + 1) / 10)
        (rest, count + 1)
      else (n + 1, 0)
termination_by n => n
decreasing_by omega

def ofScaled (negative : Bool) (significand : Nat) (exponent : Int) : Decimal :=
  let (rest, count) := trimmed significand
  if rest = 0 then finite negative 0 0 else finite negative rest (exponent + count)

def natural? (cs : List Char) : Option Nat :=
  if cs.isEmpty then none else (cs.mapM decimalDigit?).map (ofDigits 10)

def integer? : List Char → Option Int
  | '-' :: cs => (natural? cs).map fun n => -(n : Int)
  | '+' :: cs => (natural? cs).map fun n => (n : Int)
  | cs => (natural? cs).map fun n => (n : Int)

def magnitude? (negative : Bool) (cs : List Char) : Option Decimal := do
  let mantissa := cs.takeWhile (· != 'e')
  let exponent ← match cs.drop mantissa.length with
    | [] => some 0
    | _ :: rest => integer? rest
  let whole := mantissa.takeWhile (· != '.')
  match mantissa.drop whole.length with
  | [] => return ofScaled negative (← natural? whole) exponent
  | _ :: part => return ofScaled negative (← natural? (whole ++ part)) (exponent - part.length)

def read? : List Char → Option Decimal
  | ['n', 'a', 'n'] => some nan
  | '-' :: cs => if cs = ['i', 'n', 'f'] then some (infinite true) else magnitude? true cs
  | cs => if cs = ['i', 'n', 'f'] then some (infinite false) else magnitude? false cs

def nearestMultiple (unit n : Nat) : Nat :=
  let below := n / unit
  let excess := 2 * (n % unit)
  if excess < unit ∨ (excess = unit ∧ below % 2 = 0) then below * unit else (below + 1) * unit

/- A floating number has 53 binary digits, so from 2^53 on it is the nearest multiple of a power of two
and need not be the number that is written. -/
def identified (n : Nat) : Nat :=
  if n < 1 <<< 53 then n else nearestMultiple (1 <<< (n.log2 - 52)) n

def integer : Decimal → Option Int
  | finite negative significand exponent =>
      let scale := Nat.pow 10 exponent.natAbs
      let whole? : Option Nat :=
        if 0 ≤ exponent then some (significand * scale)
        else if significand % scale = 0 then some (significand / scale)
        else none
      whole?.map fun whole => if negative then -(identified whole : Int) else identified whole
  | _ => none

end Decimal

/- A finite floating number as a whole number over a power of two. -/
structure Binary where
  significand : Int
  places : Nat
  deriving DecidableEq, Repr

namespace Binary

def times (x : Binary) (n : Nat) : Binary :=
  ⟨x.significand.sign * Decimal.identified (x.significand.natAbs * n), x.places⟩

def rounded (x : Binary) : Int :=
  let unit := 1 <<< x.places
  x.significand.sign * (Decimal.nearestMultiple unit x.significand.natAbs / unit : Nat)

end Binary
end BufferColor
