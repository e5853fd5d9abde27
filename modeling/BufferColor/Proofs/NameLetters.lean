import BufferColor.Conversion
import BufferColor.Proofs.Spelling
import Mathlib.Data.List.Chain
import Mathlib.Data.List.Nodup

/-! The names in the table of colors, and the texts whose lower case they are. Each name is a word that
could not be hexadecimal text, so a text of marks and digits or of white space alone is none. Small
letters of the alphabet come from its capitals, from the small letters themselves and from the kelvin
sign, and from no other character; so a name may be spelled with these alone. -/
namespace BufferColor

namespace ColorName

def isSmall (c : Char) : Bool := 'a'.toNat ≤ c.toNat && c.toNat ≤ 'z'.toNat

def isWord (cs : List Char) : Bool :=
  cs.all isSmall && cs.any fun c => 'f'.toNat < c.toNat && c != 'x'

theorem wordSmall {cs : List Char} (word : isWord cs = true) : ∀ c ∈ cs, isSmall c = true :=
  List.all_eq_true.mp (Bool.and_eq_true_iff.mp word).1

theorem wordBeyond {cs : List Char} (word : isWord cs = true) :
    ∃ c ∈ cs, 'f'.toNat < c.toNat ∧ c ≠ 'x' := by
  obtain ⟨c, mem, beyond⟩ := List.any_eq_true.mp (Bool.and_eq_true_iff.mp word).2
  exact ⟨c, mem, by simpa using beyond⟩

theorem namesOrdered : (table.map Prod.fst).IsChain (· < ·) := by
  decide +kernel

theorem namesWords : ∀ entry ∈ table, isWord entry.1.toList = true := by
  decide +kernel

theorem namesDistinct : (table.map Prod.fst).Nodup := by
  have ascending := List.isChain_iff_pairwise.mp namesOrdered
  refine ascending.imp ?_
  intro first second before same
  subst same
  exact String.lt_irrefl first before

theorem sameEntry {entry other : String × Nat} (listed : entry ∈ table) (otherListed : other ∈ table)
    (same : entry.1.toList = other.1.toList) : entry = other :=
  List.inj_on_of_nodup_map namesDistinct listed otherListed (String.toList_inj.mp same)

theorem nameSmall {entry : String × Nat} (listed : entry ∈ table) :
    ∀ c ∈ entry.1.toList, isSmall c = true :=
  wordSmall (namesWords entry listed)

end ColorName

namespace LowerCase
open CodePoint (Span points pointBetween pointListed)
open ColorName (isSmall isWord)

def Steady (n : Nat) : Prop := n ≠ dottedCapitalI ∧ n ≠ capitalSigma ∧ single n = n
instance (n : Nat) : Decidable (Steady n) :=
  inferInstanceAs (Decidable (n ≠ dottedCapitalI ∧ n ≠ capitalSigma ∧ single n = n))

theorem characterSingle {c : Char} (noI : c.toNat ≠ dottedCapitalI) (noSigma : c.toNat ≠ capitalSigma)
    (before after : List Char) : character before c after = [Char.ofNat (single c.toNat)] := by
  rw [character, if_neg noI, if_neg noSigma]

theorem characterSteady {c : Char} (steady : Steady c.toNat) (before after : List Char) :
    character before c after = [c] := by
  obtain ⟨noI, noSigma, same⟩ := steady
  rw [characterSingle noI noSigma, same, Char.ofNat_toNat]

theorem followingSource {before cs : List Char} {d : Char} (mem : d ∈ following before cs) :
    ∃ prior c later, c ∈ cs ∧ d ∈ character prior c later := by
  induction cs generalizing before with
  | nil => simp [following] at mem
  | cons c rest ih =>
    rcases List.mem_append.mp mem with here | later
    · exact ⟨before, c, rest, by simp, here⟩
    · obtain ⟨prior, e, after, inside, source⟩ := ih later
      exact ⟨prior, e, after, by simp [inside], source⟩

theorem lowerSource {cs : List Char} {d : Char} (mem : d ∈ lower cs) :
    ∃ prior c later, c ∈ cs ∧ d ∈ character prior c later := followingSource mem

theorem lowerSteadyHead {c : Char} (steady : Steady c.toNat) (rest : List Char) :
    ∃ tail, lower (c :: rest) = c :: tail := by
  rw [lower, following, characterSteady steady]
  exact ⟨following [c] rest, rfl⟩

theorem spacesSteady : ∀ span ∈ Blank.spaces, ∀ n ∈ points span, Steady n := by
  decide +kernel

theorem spaceSteady {c : Char} (space : Blank.isSpace c = true) : Steady c.toNat := by
  obtain ⟨span, listed, inside⟩ := CodePoint.withinSome space
  exact spacesSteady span listed _ (pointListed.mpr inside)

theorem smallVisible {c : Char} (small : isSmall c = true) : Blank.isSpace c = false := by
  have apart : ∀ span ∈ Blank.spaces, span.2 < 'a'.toNat ∨ 'z'.toNat < span.1 := by decide
  obtain ⟨low, high⟩ : 'a'.toNat ≤ c.toNat ∧ c.toNat ≤ 'z'.toNat := by simpa [isSmall] using small
  cases space : Blank.isSpace c with
  | false => rfl
  | true =>
    obtain ⟨span, listed, first, last⟩ := CodePoint.withinSome space
    rcases apart span listed with before | after <;> omega

theorem blankNotWord {cs : List Char} (blank : Blank.isBlank cs = true) :
    isWord (lower cs) ≠ true := by
  intro word
  obtain ⟨c, inside, _⟩ := ColorName.wordBeyond word
  obtain ⟨before, d, after, mem, source⟩ := lowerSource inside
  have space : Blank.isSpace d = true := List.all_eq_true.mp blank d mem
  rw [characterSteady (spaceSteady space), List.mem_singleton] at source
  subst source
  rw [smallVisible (ColorName.wordSmall word c inside)] at space
  contradiction

def markedAlphabet : List Char := '#' :: 'x' :: Hex.alphabet

def keepsMarked (c : Char) : Bool :=
  c.toNat != dottedCapitalI && c.toNat != capitalSigma &&
    markedAlphabet.contains (Char.ofNat (single c.toNat))

theorem markedLowered {c : Char} (marked : c ∈ markedAlphabet) (before after : List Char) :
    ∃ d ∈ markedAlphabet, character before c after = [d] := by
  have all : markedAlphabet.all keepsMarked = true := by decide +kernel
  have kept := List.all_eq_true.mp all c marked
  simp only [keepsMarked, Bool.and_eq_true, bne_iff_ne, List.contains_iff_mem] at kept
  obtain ⟨⟨noI, noSigma⟩, inside⟩ := kept
  exact ⟨_, inside, characterSingle noI noSigma before after⟩

theorem markedEarly {c : Char} (marked : c ∈ markedAlphabet) : c.toNat ≤ 'f'.toNat ∨ c = 'x' := by
  have all : markedAlphabet.all (fun c => c.toNat ≤ 'f'.toNat || c == 'x') = true := by decide
  simpa using List.all_eq_true.mp all c marked

theorem markedNotWord {cs : List Char} (marked : ∀ c ∈ cs, c ∈ markedAlphabet) :
    isWord (lower cs) ≠ true := by
  intro word
  obtain ⟨c, inside, late, noX⟩ := ColorName.wordBeyond word
  obtain ⟨before, d, after, mem, source⟩ := lowerSource inside
  obtain ⟨e, kept, single⟩ := markedLowered (marked d mem) before after
  rw [single, List.mem_singleton] at source
  subst source
  rcases markedEarly kept with low | isX
  · omega
  · exact noX isX

theorem hashSteady : Steady '#'.toNat := by
  decide +kernel

theorem hashNotWord (cs : List Char) : isWord (lower ('#' :: cs)) ≠ true := by
  intro word
  obtain ⟨tail, same⟩ := lowerSteadyHead hashSteady cs
  rw [same] at word
  exact absurd (ColorName.wordSmall word '#' List.mem_cons_self) (by decide)

def kelvinSign : Nat := 0x212a

def isCapital (c : Char) : Bool := 'A'.toNat ≤ c.toNat && c.toNat ≤ 'Z'.toNat

def nameLetter (c : Char) : Char :=
  if isCapital c then Char.ofNat (c.toNat + 32) else if c.toNat = kelvinSign then 'k' else c

def latinRule : Casing.Rule := ⟨0x41, 0x5a, 1, 32⟩
def kelvinRule : Casing.Rule := ⟨0x212a, 0x212a, 1, -8383⟩

theorem capitalsApart : ∀ rule ∈ Casing.capitals, rule = latinRule ∨ rule = kelvinRule ∨
    rule.last + rule.shift < 'a'.toNat ∨ 'z'.toNat < rule.first + rule.shift := by
  decide +kernel

theorem singleSource {n : Nat} (low : 'a'.toNat ≤ single n) (high : single n ≤ 'z'.toNat) :
    'A'.toNat ≤ n ∧ n ≤ 'Z'.toNat ∨ n = kelvinSign ∨ single n = n := by
  unfold single at low high ⊢
  split
  · rename_i rule found
    simp only [found] at low high
    have applies := List.find?_some found
    simp only [Casing.Rule.applies, Bool.and_eq_true, decide_eq_true_eq] at applies
    rcases capitalsApart rule (List.mem_of_find?_eq_some found) with rfl | rfl | below | above
    · exact .inl applies.1
    · exact .inr (.inl (Nat.le_antisymm applies.1.2 applies.1.1))
    · simp only [Char.reduceToNat] at low below
      omega
    · simp only [Char.reduceToNat] at high above
      omega
  · exact .inr (.inr rfl)

def smallLetters : Span := ('a'.toNat, 'z'.toNat)
def capitalLetters : Span := ('A'.toNat, 'Z'.toNat)

theorem smallListed {c : Char} : isSmall c = true ↔ c.toNat ∈ points smallLetters :=
  pointBetween smallLetters

theorem capitalListed {c : Char} : isCapital c = true ↔ c.toNat ∈ points capitalLetters :=
  pointBetween capitalLetters

theorem capitalsLowered : ∀ n ∈ points capitalLetters, n ≠ dottedCapitalI ∧ n ≠ capitalSigma ∧
    single n = n + 32 ∧ isSmall (Char.ofNat (n + 32)) = true := by
  decide +kernel

theorem kelvinLowered : kelvinSign ≠ dottedCapitalI ∧ kelvinSign ≠ capitalSigma ∧
    single kelvinSign = 'k'.toNat := by
  decide +kernel

theorem smallSteady : ∀ n ∈ points smallLetters, Steady n ∧ n ≠ kelvinSign ∧
    isCapital (Char.ofNat n) = false := by
  decide +kernel

theorem letterOfCapital {c : Char} (capital : isCapital c = true) :
    nameLetter c = Char.ofNat (c.toNat + 32) := if_pos capital

theorem letterOfSmall {c : Char} (small : isSmall c = true) : nameLetter c = c := by
  obtain ⟨_, noKelvin, noCapital⟩ := smallSteady _ (smallListed.mp small)
  rw [Char.ofNat_toNat] at noCapital
  rw [nameLetter, noCapital, if_neg noKelvin]
  rfl

theorem letterOfKelvin {c : Char} (kelvin : c.toNat = kelvinSign) : nameLetter c = 'k' := by
  have noCapital : isCapital c = false := by
    rw [isCapital, kelvin]
    rfl
  rw [nameLetter, noCapital, if_pos kelvin]
  rfl

theorem letterCases {c : Char} (small : isSmall (nameLetter c) = true) :
    isCapital c = true ∨ c.toNat = kelvinSign ∨ isSmall c = true := by
  unfold nameLetter at small
  split at small
  · rename_i capital
    exact .inl capital
  · split at small
    · rename_i kelvin
      exact .inr (.inl kelvin)
    · exact .inr (.inr small)

theorem characterNamed {c : Char} (small : isSmall (nameLetter c) = true) (before after : List Char) :
    character before c after = [nameLetter c] := by
  rcases letterCases small with capital | kelvin | already
  · obtain ⟨noI, noSigma, shifted, _⟩ := capitalsLowered _ (capitalListed.mp capital)
    rw [characterSingle noI noSigma, shifted, letterOfCapital capital]
  · obtain ⟨noI, noSigma, shifted⟩ := kelvinLowered
    rw [characterSingle (kelvin ▸ noI) (kelvin ▸ noSigma), letterOfKelvin kelvin, kelvin, shifted,
      Char.ofNat_toNat]
  · rw [characterSteady (smallSteady _ (smallListed.mp already)).1, letterOfSmall already]

/- A number beyond the code points would stand for the null character, which is not small. -/
theorem ofNatSmall {n : Nat} (small : isSmall (Char.ofNat n) = true) : (Char.ofNat n).toNat = n := by
  by_cases valid : n.isValidChar
  · exact CodePoint.toNatOfNat valid
  · have other : Char.ofNat n = Char.ofNat 0 := by
      rw [Char.ofNat, dif_neg valid]
      rfl
    rw [other] at small
    contradiction

theorem namedOfSmall {c : Char} {before after : List Char}
    (small : ∀ d ∈ character before c after, isSmall d = true) : isSmall (nameLetter c) = true := by
  unfold character at small
  split at small
  · exact absurd (small (Char.ofNat dotAbove) (by simp)) (by decide)
  · split at small
    · have sigma := small _ List.mem_cons_self
      split at sigma <;> exact absurd sigma (by decide)
    · have lowered := small _ List.mem_cons_self
      have range := pointListed.mp (smallListed.mp lowered)
      rw [ofNatSmall lowered] at range
      rcases singleSource range.1 range.2 with capital | kelvin | same
      · have capital : isCapital c = true := by simpa [isCapital] using capital
        rw [letterOfCapital capital]
        exact (capitalsLowered _ (capitalListed.mp capital)).2.2.2
      · rw [letterOfKelvin kelvin]
        decide
      · rw [same, Char.ofNat_toNat] at lowered
        rwa [letterOfSmall lowered]

theorem followingNamed {before cs : List Char} (small : ∀ c ∈ cs, isSmall (nameLetter c) = true) :
    following before cs = cs.map nameLetter := by
  induction cs generalizing before with
  | nil => rfl
  | cons c rest ih =>
    obtain ⟨here, later⟩ := List.forall_mem_cons.mp small
    rw [following, characterNamed here, ih later]
    rfl

theorem followingSmall {before cs : List Char} (small : ∀ d ∈ following before cs, isSmall d = true) :
    ∀ c ∈ cs, isSmall (nameLetter c) = true := by
  induction cs generalizing before with
  | nil => simp
  | cons c rest ih =>
    obtain ⟨here, later⟩ := List.forall_mem_append.mp small
    exact List.forall_mem_cons.mpr ⟨namedOfSmall here, ih later⟩

theorem lowerNamed {cs name : List Char} (small : ∀ d ∈ name, isSmall d = true) :
    lower cs = name ↔ cs.map nameLetter = name := by
  constructor
  · intro lowered
    have letters : ∀ c ∈ cs, isSmall (nameLetter c) = true := followingSmall (lowered ▸ small)
    rw [← lowered, lower, followingNamed letters]
  · rintro rfl
    exact followingNamed (List.forall_mem_map.mp small)

example : "\u212aHa\u212aI".toList.map nameLetter = "khaki".toList := by decide

theorem letterPlain {c : Char} (small : isSmall (nameLetter c) = true) :
    c.toNat < 128 ∨ c.toNat = kelvinSign ∧ nameLetter c = 'k' := by
  rcases letterCases small with capital | kelvin | already
  · have range := pointListed.mp (capitalListed.mp capital)
    exact .inl (Nat.lt_of_le_of_lt range.2 (by decide))
  · exact .inr ⟨kelvin, letterOfKelvin kelvin⟩
  · have range := pointListed.mp (smallListed.mp already)
    exact .inl (Nat.lt_of_le_of_lt range.2 (by decide))

end LowerCase

namespace ColorName

theorem namesApart {cs : List Char} (other : isWord (LowerCase.lower cs) ≠ true) :
    ∀ entry ∈ table, LowerCase.lower cs ≠ entry.1.toList := by
  intro entry listed same
  exact other (same ▸ namesWords entry listed)

end ColorName
end BufferColor
