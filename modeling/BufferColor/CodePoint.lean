/-! Sets of code points as ascending spans, both ends included.
Membership stops at the first span that begins beyond the point, so a set must be listed in order. -/
namespace BufferColor.CodePoint

abbrev Span := Nat × Nat

def within : List Span → Nat → Bool
  | [], _ => false
  | (first, last) :: rest, n => if n < first then false else n ≤ last || within rest n

def ordered : List Span → Bool
  | [] => true
  | [(first, last)] => first ≤ last
  | (first, last) :: (next, limit) :: rest =>
      first ≤ last && last < next && ordered ((next, limit) :: rest)

def points (span : Span) : List Nat := List.range' span.1 (span.2 + 1 - span.1)

theorem pointListed {span : Span} {n : Nat} : n ∈ points span ↔ span.1 ≤ n ∧ n ≤ span.2 := by
  rw [points, List.mem_range'_1]
  omega

theorem pointBetween (span : Span) {n : Nat} :
    (decide (span.1 ≤ n) && decide (n ≤ span.2)) = true ↔ n ∈ points span := by
  rw [pointListed, Bool.and_eq_true, decide_eq_true_eq, decide_eq_true_eq]

theorem toNatOfNat {n : Nat} (valid : n.isValidChar) : (Char.ofNat n).toNat = n := by
  rw [Char.ofNat, dif_pos valid]
  rfl

theorem withinSome {spans : List Span} {n : Nat} (h : within spans n = true) :
    ∃ span ∈ spans, span.1 ≤ n ∧ n ≤ span.2 := by
  induction spans with
  | nil => simp [within] at h
  | cons span rest ih =>
    simp only [within] at h
    split at h
    · contradiction
    · rcases Bool.or_eq_true_iff.mp h with here | later
      · exact ⟨span, by simp, by omega, by simpa using here⟩
      · obtain ⟨other, mem, bounds⟩ := ih later
        exact ⟨other, by simp [mem], bounds⟩

theorem orderedAfter {span : Span} {rest : List Span} (ascending : ordered (span :: rest) = true) :
    span.1 ≤ span.2 ∧ ordered rest = true ∧ ∀ other ∈ rest, span.2 < other.1 := by
  induction rest generalizing span with
  | nil => simpa [ordered] using ascending
  | cons next rest ih =>
    simp only [ordered, Bool.and_eq_true, decide_eq_true_eq] at ascending
    obtain ⟨⟨first, apart⟩, later⟩ := ascending
    obtain ⟨width, _, beyond⟩ := ih later
    refine ⟨first, later, fun other mem => ?_⟩
    rcases List.mem_cons.mp mem with rfl | mem
    · exact apart
    · have far := beyond other mem
      omega

theorem withinMember {spans : List Span} {span : Span} {n : Nat} (ascending : ordered spans = true)
    (listed : span ∈ spans) (low : span.1 ≤ n) (high : n ≤ span.2) : within spans n = true := by
  induction spans with
  | nil => contradiction
  | cons first rest ih =>
    obtain ⟨width, later, beyond⟩ := orderedAfter ascending
    rcases List.mem_cons.mp listed with rfl | listed
    · simp only [within, if_neg (Nat.not_lt.mpr low), high, decide_true, Bool.true_or]
    · have far := beyond span listed
      simp only [within, if_neg (show ¬ n < first.1 by omega), ih later listed, Bool.or_true]

end BufferColor.CodePoint
