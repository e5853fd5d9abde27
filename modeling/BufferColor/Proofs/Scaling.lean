import BufferColor.Conversion
import BufferColor.Proofs.Spelling
import Mathlib.Algebra.Order.Ring.Abs
import Mathlib.Tactic.FieldSimp
import Mathlib.Tactic.Linarith
import Mathlib.Tactic.Positivity
import Mathlib.Tactic.Ring

/-! Octets out of the components of a named color. A component is multiplied by 255 in floating
numbers, rounded and clamped, so it gives an octet in any case; a component within a thousandth of an
octet out of 255 gives that octet, as neither of the two roundings goes as far as the next one. -/
namespace BufferColor

namespace Decimal

theorem nearestMultipleDivides (unit n : Nat) : unit ∣ nearestMultiple unit n := by
  simp only [nearestMultiple]
  split <;> exact Nat.dvd_mul_left _ _

theorem nearestMultipleClose {unit : Nat} (positive : 0 < unit) (n : Nat) :
    2 * |(nearestMultiple unit n : Int) - n| ≤ unit := by
  have split := Nat.div_add_mod' n unit
  have small := Nat.mod_lt n positive
  simp only [nearestMultiple]
  split_ifs with near
  · rw [abs_sub_comm, abs_of_nonneg (by omega)]
    omega
  · have next : (n / unit + 1) * unit = n / unit * unit + unit := Nat.succ_mul _ _
    rw [abs_of_nonneg (by omega)]
    omega

theorem identifiedClose (n : Nat) : 2 ^ 53 * |(identified n : Int) - n| ≤ n := by
  unfold identified
  split_ifs with small
  · simp
  · have large : 2 ^ 53 ≤ n := by simpa [Nat.shiftLeft_eq] using small
    have places : 53 ≤ n.log2 := (Nat.le_log2 (by omega)).mpr large
    have positive : 0 < 1 <<< (n.log2 - 52) := by simp [Nat.shiftLeft_eq]
    have close := nearestMultipleClose positive n
    have top : 2 ^ 52 * 1 <<< (n.log2 - 52) ≤ n := by
      rw [Nat.shiftLeft_eq, Nat.one_mul, ← Nat.pow_add, Nat.add_sub_cancel' (by omega)]
      exact Nat.log2_self_le (by omega)
    omega

end Decimal
namespace Binary

def number (x : Binary) : ℚ := x.significand / 2 ^ x.places

def Near (x : Binary) (octet : Int) : Prop := |x.number - octet / 255| ≤ 1 / 1000

theorem signedClose (s : Int) (m k : Nat) :
    |s.sign * m - s * k| ≤ |(m : Int) - (s.natAbs * k : Nat)| := by
  rcases lt_trichotomy s 0 with negative | rfl | positive
  · have size : (s.natAbs : Int) = -s := by omega
    rw [Int.sign_eq_neg_one_of_neg negative, Nat.cast_mul, size, ← abs_neg]
    exact le_of_eq (congrArg abs (by ring))
  · simp
  · have size : (s.natAbs : Int) = s := by omega
    rw [Int.sign_eq_one_of_pos positive, Nat.cast_mul, size, one_mul]

theorem timesClose (x : Binary) (k : Nat) :
    2 ^ 53 * |(x.times k).significand - x.significand * k| ≤ |x.significand| * k := by
  have close := Decimal.identifiedClose (x.significand.natAbs * k)
  have signed := signedClose x.significand (Decimal.identified (x.significand.natAbs * k)) k
  have size : ((x.significand.natAbs * k : Nat) : Int) = |x.significand| * k := by
    rw [Nat.cast_mul, Int.natCast_natAbs]
  change 2 ^ 53 * |x.significand.sign * _ - x.significand * k| ≤ _
  omega

theorem roundedClose (x : Binary) :
    2 * |x.rounded * 2 ^ x.places - x.significand| ≤ 2 ^ x.places := by
  have unit : (1 <<< x.places : Nat) = 2 ^ x.places := by rw [Nat.shiftLeft_eq, Nat.one_mul]
  have close := Decimal.nearestMultipleClose (Nat.two_pow_pos x.places) x.significand.natAbs
  have signed := signedClose x.significand
    (Decimal.nearestMultiple (2 ^ x.places) x.significand.natAbs) 1
  obtain ⟨quotient, multiple⟩ :=
    Decimal.nearestMultipleDivides (2 ^ x.places) x.significand.natAbs
  have whole : x.rounded * 2 ^ x.places =
      x.significand.sign * Decimal.nearestMultiple (2 ^ x.places) x.significand.natAbs := by
    rw [rounded, unit, multiple, Nat.mul_div_cancel_left _ (Nat.two_pow_pos x.places)]
    push_cast
    ring
  rw [whole]
  simp only [Nat.cast_pow, Nat.cast_ofNat, Nat.cast_one, mul_one] at close signed ⊢
  omega

theorem nearScaled {x : Binary} {octet : Int} (near : x.Near octet) :
    1000 * |x.significand * 255 - octet * 2 ^ x.places| ≤ 255 * 2 ^ x.places := by
  have unit : (0 : ℚ) < 2 ^ x.places := by positivity
  have quotient : x.number - octet / 255 =
      ((x.significand * 255 - octet * 2 ^ x.places : Int) : ℚ) / (255 * 2 ^ x.places) := by
    rw [number]
    push_cast
    field_simp
  rw [Near, quotient, abs_div, abs_of_pos (by positivity : (0 : ℚ) < 255 * 2 ^ x.places),
    div_le_iff₀ (by positivity)] at near
  have whole : (1000 : ℚ) * |((x.significand * 255 - octet * 2 ^ x.places : Int) : ℚ)| ≤
      255 * 2 ^ x.places := by linarith
  exact_mod_cast whole

end Binary

namespace Color

theorem scaledOctet (x : Binary) : IsOctet (scaled x) := by
  unfold scaled IsOctet
  omega

theorem roundedNear {x : Binary} {octet : Int} (inside : IsOctet octet) (near : x.Near octet) :
    (x.times 255).rounded = octet := by
  have unit : (0 : Int) < 2 ^ x.places := by positivity
  have component := Binary.nearScaled near
  have product : 2 ^ 53 * |(x.times 255).significand - x.significand * 255| ≤ |x.significand| * 255 :=
    Binary.timesClose x 255
  have whole : 2 * |(x.times 255).rounded * 2 ^ x.places - (x.times 255).significand| ≤ 2 ^ x.places :=
    Binary.roundedClose (x.times 255)
  have size : |x.significand| * 255 ≤ 256 * 2 ^ x.places := by
    have bound : octet * 2 ^ x.places ≤ 255 * 2 ^ x.places :=
      mul_le_mul_of_nonneg_right inside.2 unit.le
    have apart := abs_sub_abs_le_abs_sub (x.significand * 255) (octet * 2 ^ x.places)
    rw [abs_mul, abs_of_nonneg (mul_nonneg inside.1 unit.le)] at apart
    norm_num at apart
    linarith
  -- The three errors together stay below the distance of two octets.
  have error : |(x.times 255).rounded * 2 ^ x.places - octet * 2 ^ x.places| < 2 ^ x.places := by
    have first := abs_sub_le ((x.times 255).rounded * 2 ^ x.places) (x.times 255).significand
      (octet * 2 ^ x.places)
    have second := abs_sub_le (x.times 255).significand (x.significand * 255) (octet * 2 ^ x.places)
    linarith
  have less : |(x.times 255).rounded - octet| * 2 ^ x.places < 1 * 2 ^ x.places := by
    rwa [one_mul, ← abs_of_pos unit, ← abs_mul, abs_of_pos unit, sub_mul]
  have same := Int.abs_lt_one_iff.mp (lt_of_mul_lt_mul_right less unit.le)
  omega

theorem scaledNear {x : Binary} {octet : Int} (inside : IsOctet octet) (near : x.Near octet) :
    scaled x = octet := by
  obtain ⟨low, high⟩ := inside
  rw [scaled, roundedNear ⟨low, high⟩ near]
  omega

end Color

namespace Rgb

structure Near (rgb : Rgb Binary) (red green blue : Int) : Prop where
  red : rgb.red.Near red
  green : rgb.green.Near green
  blue : rgb.blue.Near blue

theorem scaledRgb {rgb : Rgb Binary} {red green blue : Int}
    (octets : IsOctet red ∧ IsOctet green ∧ IsOctet blue) (near : rgb.Near red green blue) :
    rgb.map Color.scaled = ⟨red, green, blue⟩ := by
  rw [map, Color.scaledNear octets.1 near.red, Color.scaledNear octets.2.1 near.green,
    Color.scaledNear octets.2.2 near.blue]

end Rgb

namespace NamedColors

theorem quotientNear {q n : Nat} (low : q * 255 ≤ n * 2 ^ 53) (high : n * 2 ^ 53 ≤ q * 255 + 255) :
    Binary.Near ⟨q, 53⟩ n := by
  have lower : (q : ℚ) * 255 ≤ n * 2 ^ 53 := by exact_mod_cast low
  have upper : (n : ℚ) * 2 ^ 53 ≤ q * 255 + 255 := by exact_mod_cast high
  rw [Binary.Near, Binary.number, Int.cast_natCast, Int.cast_natCast]
  exact abs_le.mpr ⟨by linarith, by linarith⟩

theorem partNear (n : Nat) : (part n).Near n := by
  have quotient := Nat.div_add_mod' (n * 2 ^ 53) 255
  have excess := Nat.mod_lt (n * 2 ^ 53) (show 0 < 255 by decide)
  rw [part, Nat.shiftLeft_eq]
  exact quotientNear (by omega) (by omega)

theorem partsNear (rgb : Rgb Nat) : (rgb.map part).Near rgb.red rgb.green rgb.blue :=
  ⟨partNear rgb.red, partNear rgb.green, partNear rgb.blue⟩

end NamedColors
end BufferColor
