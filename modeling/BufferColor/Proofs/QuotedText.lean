import BufferColor.Quoted
import BufferColor.Proofs.HexPlaces

/-! Quoted texts are read back. The character at the front of a quotation is told by a reader that
knows nothing of the class of characters that are shown, so a quotation determines what it quotes and
where it ends, whatever stands behind it. -/
namespace BufferColor.Quoted
open Numeral (padded lowerHex)

def placesBehind? (letter : Char) : Option Nat :=
  if letter = 'x' then some 2 else if letter = 'u' then some 4 else if letter = 'U' then some 8
  else none

def unescaped (letter : Char) : Char :=
  if letter = 't' then '\t' else if letter = 'n' then '\n' else if letter = 'r' then '\r' else letter

def front? : List Char → Option (Char × List Char)
  | [] => none
  | c :: rest =>
      if c = backslash then match rest with
        | [] => none
        | letter :: rest => match placesBehind? letter with
          | some count => some (Char.ofNat (Hex.number (rest.take count)), rest.drop count)
          | none => some (unescaped letter, rest)
      else some (c, rest)

theorem markNotBackslash {c : Char} (isMark : IsMark c) : c ≠ backslash := by
  rcases isMark with rfl | rfl <;> decide

theorem numberedForm {n : Nat} (small : n < 16 ^ 8) : ∃ letter count,
    numbered n = letter :: padded (count + 1) (lowerHex n) ∧
      placesBehind? letter = some (count + 1) ∧ n < 16 ^ (count + 1) := by
  unfold numbered
  split
  · exact ⟨'x', 1, rfl, rfl, by assumption⟩
  · split
    · exact ⟨'u', 3, rfl, rfl, by assumption⟩
    · exact ⟨'U', 7, rfl, rfl, small⟩

theorem frontPlain {c : Char} (plain : c ≠ backslash) (rest : List Char) :
    front? (c :: rest) = some (c, rest) := if_neg plain

theorem frontEscaped {letter : Char} (alone : placesBehind? letter = none) (rest : List Char) :
    front? (backslash :: letter :: rest) = some (unescaped letter, rest) := by
  rw [front?, if_pos rfl, alone]

theorem frontNumbered (c : Char) (rest : List Char) :
    front? (backslash :: numbered c.toNat ++ rest) = some (c, rest) := by
  have small : c.toNat < 16 ^ 8 := by
    rcases c.valid with low | ⟨_, high⟩ <;> exact Nat.lt_trans (by assumption) (by decide)
  obtain ⟨letter, count, form, places, fits⟩ := numberedForm small
  have size := Hex.paddedSize Numeral.lowerDigit fits
  have number := Hex.paddedNumber (fun _ => .inl rfl) (count + 1) c.toNat
  change (padded (count + 1) (lowerHex c.toNat)).length = count + 1 at size
  change Hex.number (padded (count + 1) (lowerHex c.toNat)) = c.toNat at number
  simp only [form, List.cons_append, front?, if_true, places, List.take_left' size,
    List.drop_left' size, number, Char.ofNat_toNat]

theorem frontRead (shown : Char → Bool) {mark : Char} (isMark : IsMark mark) (c : Char)
    (rest : List Char) : front? (character shown mark c ++ rest) = some (c, rest) := by
  unfold character
  split
  · rename_i special
    rcases special with rfl | rfl
    · exact frontEscaped rfl rest
    · rcases isMark with rfl | rfl <;> exact frontEscaped rfl rest
  · rename_i plain
    split
    · rename_i letter named
      have known := controlListed named
      simp only [List.mem_cons, Prod.mk.injEq, List.not_mem_nil, or_false] at known
      rcases known with ⟨rfl, rfl⟩ | ⟨rfl, rfl⟩ | ⟨rfl, rfl⟩ <;> exact frontEscaped rfl rest
    · split
      · exact frontPlain (fun slash => plain (.inl slash)) rest
      · exact frontNumbered c rest

theorem markNotFirst (shown : Char → Bool) {mark : Char} (isMark : IsMark mark) (c : Char)
    {rest rest' : List Char} : mark :: rest ≠ character shown mark c ++ rest' := by
  intro same
  have front := frontRead shown isMark c rest'
  rw [← same, frontPlain (markNotBackslash isMark)] at front
  obtain ⟨rfl, rfl⟩ := Prod.mk.inj (Option.some.inj front)
  simp [character] at same

variable {shown : Char → Bool}

theorem bodyEnds {mark : Char} (isMark : IsMark mark) {cs ds rest rest' : List Char}
    (same : cs.flatMap (character shown mark) ++ mark :: rest =
      ds.flatMap (character shown mark) ++ mark :: rest') : cs = ds ∧ rest = rest' := by
  induction cs generalizing ds with
  | nil =>
    cases ds with
    | nil => exact ⟨rfl, (List.cons.inj same).2⟩
    | cons d ds =>
      rw [List.flatMap_cons, List.append_assoc] at same
      exact absurd same (markNotFirst shown isMark d)
  | cons c cs ih =>
    cases ds with
    | nil =>
      rw [List.flatMap_cons, List.append_assoc] at same
      exact absurd same.symm (markNotFirst shown isMark c)
    | cons d ds =>
      have front := congrArg front? same
      simp only [List.flatMap_cons, List.append_assoc, frontRead shown isMark, Option.some.injEq,
        Prod.mk.injEq] at front
      obtain ⟨rfl, later⟩ := front
      obtain ⟨rfl, last⟩ := ih later
      exact ⟨rfl, last⟩

theorem enclosedEnds {cs ds rest rest' : List Char}
    (same : enclosed shown cs ++ rest = enclosed shown ds ++ rest') : cs = ds ∧ rest = rest' := by
  simp only [enclosed, List.cons_append, List.append_assoc, List.cons.injEq] at same
  obtain ⟨marks, bodies⟩ := same
  rw [← marks] at bodies
  exact bodyEnds (markIsMark cs) bodies

theorem textEnds {s t : String} {rest rest' : List Char}
    (same : text s.toList ++ rest = text t.toList ++ rest') : s = t ∧ rest = rest' := by
  obtain ⟨chars, last⟩ := enclosedEnds same
  exact ⟨String.toList_inj.mp chars, last⟩

theorem octetCharInjective {a b : UInt8} (same : Char.ofNat a.toNat = Char.ofNat b.toNat) : a = b := by
  have valid (byte : UInt8) : byte.toNat.isValidChar := .inl (Nat.lt_trans byte.toNat_lt (by decide))
  have numbers := congrArg Char.toNat same
  rw [CodePoint.toNatOfNat (valid a), CodePoint.toNatOfNat (valid b)] at numbers
  exact UInt8.toNat_inj.mp numbers

theorem octetsEnd {a b : List UInt8} {rest rest' : List Char}
    (same : octets a ++ rest = octets b ++ rest') : a = b ∧ rest = rest' := by
  obtain ⟨chars, last⟩ := enclosedEnds (List.cons.inj same).2
  exact ⟨(List.map_inj_right fun _ _ => octetCharInjective).mp chars, last⟩

end BufferColor.Quoted
