/-! Numerals: natural numbers and integers as digits, the most significant digit first.
Decimal texts of integers, and the two-place hexadecimal text in which a minus sign takes a place. -/
namespace BufferColor.Numeral

def digits (base n : Nat) : List Nat :=
  if _more : 2 ≤ base ∧ base ≤ n then digits base (n / base) ++ [n % base] else [n]
termination_by n
decreasing_by exact Nat.div_lt_self (by omega) (by omega)

def ofDigits (base : Nat) (ds : List Nat) : Nat := ds.foldl (fun n d => n * base + d) 0

def lowerDigit (d : Nat) : Char := if d < 10 then Char.ofNat (48 + d) else Char.ofNat (87 + d)
def upperDigit (d : Nat) : Char := if d < 10 then Char.ofNat (48 + d) else Char.ofNat (55 + d)

def padded (width : Nat) (cs : List Char) : List Char := List.replicate (width - cs.length) '0' ++ cs

def lowerHex (n : Nat) : List Char := (digits 16 n).map lowerDigit
def upperHex (n : Nat) : List Char := (digits 16 n).map upperDigit

def natural (n : Nat) : List Char := (digits 10 n).map lowerDigit

def decimal : Int → List Char
  | .ofNat n => natural n
  | .negSucc n => '-' :: natural (n + 1)

def hexPlaces : Int → List Char
  | .ofNat n => padded 2 (upperHex n)
  | .negSucc n => '-' :: upperHex (n + 1)

def decimalDigit? (c : Char) : Option Nat :=
  if '0' ≤ c ∧ c ≤ '9' then some (c.toNat - 48) else none

theorem digitsBelow {base n : Nat} (h : n < base) : digits base n = [n] := by
  rw [digits, dif_neg (by omega)]

theorem digitsStep {base n : Nat} (two : 2 ≤ base) (h : base ≤ n) :
    digits base n = digits base (n / base) ++ [n % base] := by
  rw [digits, dif_pos ⟨two, h⟩]

theorem ofDigitsAppend (base : Nat) (ds : List Nat) (d : Nat) :
    ofDigits base (ds ++ [d]) = ofDigits base ds * base + d := by
  simp [ofDigits]

theorem ofDigitsDigits {base : Nat} (two : 2 ≤ base) (n : Nat) : ofDigits base (digits base n) = n := by
  induction n using Nat.strongRecOn with
  | ind n ih =>
    by_cases small : n < base
    · simp [digitsBelow small, ofDigits]
    · have big : base ≤ n := by omega
      rw [digitsStep two big, ofDigitsAppend, ih _ (Nat.div_lt_self (by omega) (by omega))]
      exact Nat.div_add_mod' n base

theorem digitsBounded {base : Nat} (two : 2 ≤ base) (n : Nat) : ∀ d ∈ digits base n, d < base := by
  induction n using Nat.strongRecOn with
  | ind n ih =>
    by_cases small : n < base
    · simpa [digitsBelow small] using small
    · have big : base ≤ n := by omega
      rw [digitsStep two big]
      intro d mem
      rcases List.mem_append.mp mem with front | last
      · exact ih _ (Nat.div_lt_self (by omega) (by omega)) d front
      · rw [List.mem_singleton.mp last]
        exact Nat.mod_lt n (by omega)

end BufferColor.Numeral
