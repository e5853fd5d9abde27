import BufferColor.Proofs.Creation
import BufferColor.Proofs.HexPlaces
import Mathlib.Data.Int.Bitwise
import Mathlib.Data.Int.ModEq
import Mathlib.Data.Nat.Bitwise
import Mathlib.Tactic.TFAE

/-! Packed numbers, of any size and sign. The color of a number depends on its lowest 24 bits and
shows all of them, whether they are taken by masks from the two's complement or by remainders, and it
is the color of the hexadecimal text of that number. -/
namespace BufferColor

namespace Bits

def ones (width shift : Nat) : Nat := (2 ^ width - 1) <<< shift

theorem onesBit (width shift i : Nat) :
    (ones width shift).testBit (shift + i) = decide (i < width) := by
  simp [ones, Nat.testBit_shiftLeft, Nat.testBit_two_pow_sub_one]

theorem maskedNatural (n width shift : Nat) :
    (n &&& ones width shift) >>> shift = n / 2 ^ shift % 2 ^ width := by
  apply Nat.eq_of_testBit_eq
  intro i
  rw [Nat.testBit_shiftRight, Nat.testBit_and, onesBit, Nat.testBit_mod_two_pow,
    Nat.testBit_div_two_pow, Nat.add_comm, Bool.and_comm]

theorem maskedComplement (n width shift : Nat) :
    Nat.ldiff (ones width shift) n >>> shift = 2 ^ width - (n / 2 ^ shift % 2 ^ width + 1) := by
  have small : n / 2 ^ shift % 2 ^ width < 2 ^ width := Nat.mod_lt _ (Nat.two_pow_pos width)
  apply Nat.eq_of_testBit_eq
  intro i
  rw [Nat.testBit_shiftRight, Nat.testBit_ldiff, onesBit, Nat.testBit_two_pow_sub_succ small,
    Nat.testBit_mod_two_pow, Nat.testBit_div_two_pow, Nat.add_comm]
  cases decide (i < width) <;> rfl

theorem shiftedComplement (n shift : Nat) :
    Int.negSucc n / 2 ^ shift = Int.negSucc (n / 2 ^ shift) := by
  have shifted := Int.shiftRight_eq_div_pow (Int.negSucc n) shift
  rw [Int.natCast_pow] at shifted
  rw [← Nat.shiftRight_eq_div_pow]
  exact shifted.symm

theorem masked (n : Int) (width shift : Nat) :
    Int.land n (ones width shift) >>> shift = n / 2 ^ shift % 2 ^ width := by
  cases n with
  | ofNat n =>
    change (((n &&& ones width shift) >>> shift : Nat) : Int) = _
    rw [maskedNatural]
    simp
  | negSucc n =>
    have small : n / 2 ^ shift % 2 ^ width < 2 ^ width := Nat.mod_lt _ (Nat.two_pow_pos width)
    have power : ((2 ^ width : Nat) : Int) = 2 ^ width := Int.natCast_pow 2 width
    have rest : ((n / 2 ^ shift % 2 ^ width : Nat) : Int) = (n / 2 ^ shift : Nat) % 2 ^ width := by
      rw [Int.natCast_emod, power]
    change ((Nat.ldiff (ones width shift) n >>> shift : Nat) : Int) = _
    rw [maskedComplement, shiftedComplement, Int.negSucc_emod _ (Int.pow_pos (by decide)), ← rest,
      ← power]
    omega

end Bits

namespace Color
open Hex (number joined)
open Numeral (padded lowerHex upperHex)

def ofMasked (n : Int) : Except ComponentError Color :=
  ofComponents (.int (Int.land n 0xff0000 >>> (16 : Nat))) (.int (Int.land n 0x00ff00 >>> (8 : Nat)))
    (.int (Int.land n 0x0000ff)) (.int 255)

theorem maskedPacked (n : Int) : ofMasked n = ofPacked n := by
  have red : Int.land n 0xff0000 >>> (16 : Nat) = n / 65536 % 256 := Bits.masked n 8 16
  have green : Int.land n 0x00ff00 >>> (8 : Nat) = n / 256 % 256 := Bits.masked n 8 8
  have blue : Int.land n 0x0000ff >>> (0 : Nat) = n / 1 % 256 := Bits.masked n 8 0
  rw [Int.shiftRight_zero, Int.ediv_one] at blue
  rw [ofMasked, red, green, blue, ofPacked]

theorem packedCongruent {m n : Int} (same : m ≡ n [ZMOD 2 ^ 24]) : ofPacked m = ofPacked n := by
  have rest : m % 16777216 = n % 16777216 := same
  rw [packedStored, packedStored, show m % 256 = n % 256 by omega,
    show m / 256 % 256 = n / 256 % 256 by omega, show m / 65536 % 256 = n / 65536 % 256 by omega]

theorem packedShown (n : Int) : ∃ c, ofPacked n = .ok c ∧ c.Storable ∧ c.alpha.level = 255 ∧
    65536 * c.blue.level + 256 * c.green.level + c.red.level = n % 2 ^ 24 := by
  refine ⟨_, packedStored n, componentsStorable (packedStored n), rfl, ?_⟩
  simp only [Channel.level]
  omega

theorem packedSame (m n : Int) : ∃ c d, ofPacked m = .ok c ∧ ofPacked n = .ok d ∧
    [ofPacked m = ofPacked n, (c == d) = true, m ≡ n [ZMOD 2 ^ 24]].TFAE := by
  obtain ⟨c, madeC, _, _, shownC⟩ := packedShown m
  obtain ⟨d, madeD, _, _, shownD⟩ := packedShown n
  refine ⟨c, d, madeC, madeD, ?_⟩
  tfae_have 1 → 2 := by
    intro same
    obtain rfl := Except.ok.inj (madeC.symm.trans (same.trans madeD))
    exact beqLevels.mpr rfl
  tfae_have 2 → 3 := by
    intro same
    obtain ⟨red, green, blue, _⟩ := levelsSame.mp (beqLevels.mp same)
    rw [Int.ModEq, ← shownC, ← shownD, red, green, blue]
  tfae_have 3 → 1 := packedCongruent
  tfae_finish

theorem sixPacked {body : List Char} (six : body.length = 6) (digits : ∀ c ∈ body, c ∈ Hex.alphabet) :
    ∃ c, ofPacked (number body) = .ok c ∧ ofHexChars body = .ok (some c) := by
  obtain ⟨r, g, b, short⟩ := sixDigits six digits
  have octets := bodyOctets (.inl short)
  have value : (number body : Int) = 65536 * r + 256 * g + b := by
    rw [Hex.spellingNumber short.2]
    simp only [joined, List.foldl_cons, List.foldl_nil]
    omega
  rw [value, Call.packedMeant ⟨octets.1, octets.2.1, octets.2.2.1⟩]
  exact ⟨_, rfl, markedBodyRead .nil (.inl short)⟩

theorem eightPacked {body : List Char} (eight : body.length = 8)
    (digits : ∀ c ∈ body, c ∈ Hex.alphabet) :
    ∃ c, ofPacked (number body) = .ok c ∧
      ofHexChars body = .ok (some { c with alpha := .int (number body / 2 ^ 24 : Nat) }) := by
  obtain ⟨r, g, b, a, long⟩ := eightDigits eight digits
  have octets := bodyOctets (.inr long)
  have value : (number body : Int) = 16777216 * a + (65536 * r + 256 * g + b) := by
    rw [Hex.spellingNumber long]
    simp only [joined, List.foldl_cons, List.foldl_nil]
    omega
  have lowest : (number body : Int) ≡ 65536 * r + 256 * g + b [ZMOD 2 ^ 24] := by
    change (number body : Int) % 16777216 = _ % 16777216
    omega
  have alpha : ((number body / 2 ^ 24 : Nat) : Int) = a := by
    obtain ⟨⟨_, _⟩, ⟨_, _⟩, ⟨_, _⟩, _⟩ := octets
    omega
  rw [packedCongruent lowest, Call.packedMeant ⟨octets.1, octets.2.1, octets.2.2.1⟩, alpha]
  exact ⟨_, rfl, markedBodyRead .nil (.inr long)⟩

theorem writtenPacked {letter : Nat → Char} (letters : ∀ d, Hex.DigitOf d (letter d)) (n : Int) :
    let text := padded 6 ((Numeral.digits 16 (n % 2 ^ 24).toNat).map letter)
    text.length = 6 ∧ ∃ c, ofPacked n = .ok c ∧ ofHexChars text = .ok (some c) := by
  have small : (n % 2 ^ 24).toNat < 16 ^ (5 + 1) := by omega
  have six := Hex.paddedSize letter small
  obtain ⟨c, made, read⟩ := sixPacked six (Hex.paddedListed letters 6 _)
  rw [Hex.paddedNumber letters] at made
  refine ⟨six, c, ?_, read⟩
  rw [← made]
  apply packedCongruent
  change n % 16777216 = _ % 16777216
  omega

/-- The color of a number is opaque and shows in its channels what remains of the number by 2^24,
which is also what the masks take; so two numbers have one color exactly where they are congruent.
Six hexadecimal digits are read as the color of the number that they stand for, eight as the same
with what is above 24 bits for their alpha, and every color of a number is read from six digits. -/
theorem packedByRemainder (m n : Int) (text : String) :
    (∃ c, ofPacked n = .ok c ∧ c.Storable ∧ c.alpha.level = 255 ∧
      65536 * c.blue.level + 256 * c.green.level + c.red.level = n % 2 ^ 24) ∧
    ofMasked n = ofPacked n ∧
    (∃ c d, ofPacked m = .ok c ∧ ofPacked n = .ok d ∧
      [ofPacked m = ofPacked n, (c == d) = true, m ≡ n [ZMOD 2 ^ 24]].TFAE) ∧
    ((∀ c ∈ text.toList, c ∈ Hex.alphabet) →
      (text.length = 6 → ∃ c, ofPacked (number text.toList) = .ok c ∧
        ofHexText text = .ok (some c)) ∧
      (text.length = 8 → ∃ c, ofPacked (number text.toList) = .ok c ∧
        ofHexText text = .ok (some { c with alpha := .int (number text.toList / 2 ^ 24 : Nat) }))) ∧
    ∀ hex ∈ [lowerHex, upperHex],
      (padded 6 (hex (n % 2 ^ 24).toNat)).length = 6 ∧
      ∃ c, ofPacked n = .ok c ∧
        ofHexText (String.ofList (padded 6 (hex (n % 2 ^ 24).toNat))) = .ok (some c) := by
  refine ⟨packedShown n, maskedPacked n, packedSame m n,
    fun digits => ⟨fun six => sixPacked six digits, fun eight => eightPacked eight digits⟩, ?_⟩
  simp only [List.forall_mem_cons, ofHexText, String.toList_ofList]
  exact ⟨writtenPacked (fun d => .inl rfl) n, writtenPacked (fun d => .inr rfl) n, by simp⟩

example : ofPacked (-2) = .ok ⟨.int 254, .int 255, .int 255, .int 255⟩ := rfl

end Color
end BufferColor
