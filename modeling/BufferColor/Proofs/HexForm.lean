import BufferColor.Proofs.HexReading

/-! The form of hexadecimal text: a chain of marks, then six or eight digits. Marks are taken off
the front in rounds, before the length is looked at; a digit zero in front never goes with them. -/
namespace BufferColor.Color
open Hex (alphabet)

structure HexForm (text marks body : List Char) : Prop where
  chain : Marks marks
  split : text = marks ++ body
  size : body.length = 6 ∨ body.length = 8
  digits : ∀ c ∈ body, c ∈ alphabet

def strip? : List Char → Option (List Char)
  | '#' :: rest => some rest
  | '0' :: 'x' :: rest => some rest
  | _ => none

inductive Stripped : Nat → List Char → List Char → Prop where
  | last {body : List Char} (plain : strip? body = none) : Stripped 0 body body
  | round {n : Nat} {text rest body : List Char} (mark : strip? text = some rest)
      (next : Stripped n rest body) : Stripped (n + 1) text body

theorem strippedUnmarked (text : List Char) :
    ∃ rounds ≤ text.length, Stripped rounds text (unmarked text) := by
  fun_induction unmarked text with
  | case1 rest ih =>
    obtain ⟨rounds, bound, next⟩ := ih
    exact ⟨rounds + 1, by simp only [List.length_cons]; omega, .round rfl next⟩
  | case2 rest ih =>
    obtain ⟨rounds, bound, next⟩ := ih
    exact ⟨rounds + 1, by simp only [List.length_cons]; omega, .round rfl next⟩
  | case3 body noHash noZeroX =>
    have plain : strip? body = none := by
      unfold strip?
      split
      · exact absurd rfl (noHash _)
      · exact absurd rfl (noZeroX _)
      · rfl
    exact ⟨0, Nat.zero_le _, .last plain⟩

theorem formUnmarked {text marks body : List Char} (form : HexForm text marks body) :
    unmarked text = body := by
  rw [form.split]
  exact unmarkedDigits form.chain form.digits

theorem formUnique {text marks body marks' body' : List Char} (form : HexForm text marks body)
    (other : HexForm text marks' body') : marks = marks' ∧ body = body' := by
  have same : body = body' := (formUnmarked form).symm.trans (formUnmarked other)
  subst same
  have whole : marks ++ body = marks' ++ body := form.split.symm.trans other.split
  exact ⟨List.append_cancel_right whole, rfl⟩

theorem formOfBody {r g b a : Int} {text : List Char} (spelled : BodyOf r g b a (unmarked text)) :
    ∃ marks body, HexForm text marks body := by
  obtain ⟨marks, chain, split⟩ := unmarkedSplit text
  obtain ⟨size, digits⟩ := bodyDigits spelled
  exact ⟨marks, unmarked text, chain, split, size, digits⟩

theorem bodyOfForm {text marks body : List Char} (form : HexForm text marks body) :
    ∃ r g b a, BodyOf r g b a (unmarked text) := by
  rw [formUnmarked form]
  exact digitsBody form.size form.digits

theorem hexAccepted {text : String} :
    (∃ c, ofHexText text = .ok (some c)) ↔ ∃ marks body, HexForm text.toList marks body := by
  constructor
  · intro ⟨c, given⟩
    obtain ⟨r, g, b, a, spelled, _⟩ := readsColor hexReads given
    exact formOfBody spelled
  · intro ⟨marks, body, form⟩
    obtain ⟨r, g, b, a, spelled⟩ := bodyOfForm form
    exact ⟨ofMeant r g b a, hexOfBody spelled⟩

/-- Hexadecimal text is read exactly where it has the form: the rounds come to an end on every
text, the form takes a text apart in one way only, and its body alone makes the color. -/
theorem hexTextReadByForm (text : String) :
    (∃ rounds ≤ text.length, Stripped rounds text.toList (unmarked text.toList)) ∧
    ((∃ c, ofHexText text = .ok (some c)) ↔ ∃ marks body, HexForm text.toList marks body) ∧
    (∀ marks body marks' body', HexForm text.toList marks body →
      HexForm text.toList marks' body' → marks = marks' ∧ body = body') ∧
    (∀ marks body, HexForm text.toList marks body →
      (body.length = 6 → ofHexText text = ofRgbText (String.ofList body)) ∧
      (body.length = 8 → ofHexText text = ofArgbText (String.ofList body))) ∧
    ((∀ marks body, ¬ HexForm text.toList marks body) → ofHexText text = .ok none) := by
  refine ⟨strippedUnmarked text.toList, hexAccepted, ?unique, ?body, ?refused⟩
  case unique => exact fun marks body marks' body' => formUnique
  case body =>
    intro marks body form
    have left := formUnmarked form
    refine ⟨fun six => ?_, fun eight => ?_⟩
    · rw [ofHexText, hexOfSix (left ▸ six), left, ofRgbText, String.toList_ofList]
    · rw [ofHexText, hexOfEight (left ▸ eight), left, ofArgbText, String.toList_ofList]
  case refused =>
    intro other
    apply hexRefused
    intro r g b a spelled
    obtain ⟨marks, body, form⟩ := formOfBody spelled
    exact other marks body form

end BufferColor.Color
