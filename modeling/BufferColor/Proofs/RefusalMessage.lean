import BufferColor.Proofs.Refusal
import BufferColor.Proofs.WrittenValue

/-! A refusal says which value was refused. Its message holds the written form of the value between
fixed texts, the one for unknown names and the one for all other values, and these two differ in
their first character. So the messages for two refused values are the same for one value only. -/
namespace BufferColor

namespace Value

/- Every value but a text of white space alone, which is refused without being shown. -/
def Visible : Value → Prop
  | text s => Blank.isBlank s.toList = false
  | _ => True

theorem writtenInjective {v w : Value} (plain : v.Plain) (other : w.Plain)
    {rest : List Char} (ends : Ends rest) (same : v.written ++ rest = w.written ++ rest) : v = w :=
  (plainTold plain other ends ends same).1

end Value

namespace ConversionError
open Color (Refused)

theorem messageForm {value : Value} {e : ConversionError} (refused : Refused value e)
    (visible : value.Visible) :
    ((∃ name, value = .text name) ∧ e.messageChars = "unknown color: ".toList ++ value.written) ∨
      ((∀ name, value ≠ .text name) ∧ e.messageChars = refusal value) := by
  cases refused with
  | blank blank =>
    rw [Value.Visible, blank] at visible
    contradiction
  | @unknown name _ => exact .inl ⟨⟨name, rfl⟩, rfl⟩
  | component cause => exact .inr ⟨nofun, rfl⟩
  | kind other => exact .inr ⟨other, rfl⟩

theorem refusalInjective {v w : Value} (plain : v.Plain) (other : w.Plain)
    (same : refusal v = refusal w) : v = w := by
  have ends : Ends " into a color".toList := by simp [Ends]
  unfold refusal at same
  rw [List.append_assoc, List.append_assoc] at same
  exact Value.writtenInjective plain other ends (List.append_cancel_left same)

theorem refusalNotUnknown (value : Value) (rest : List Char) :
    refusal value ≠ "unknown color: ".toList ++ rest := by
  intro same
  exact absurd (List.cons.inj same).1 (by decide)

end ConversionError

namespace Color
open ConversionError

theorem messageInjective {v w : Value} {e f : ConversionError} (plain : v.Plain) (other : w.Plain)
    (refused : Refused v e) (refusedOther : Refused w f) (visible : v.Visible)
    (visibleOther : w.Visible) (same : e.messageChars = f.messageChars) : v = w := by
  rcases messageForm refused visible with ⟨_, form⟩ | ⟨_, form⟩ <;>
    rcases messageForm refusedOther visibleOther with ⟨_, form'⟩ | ⟨_, form'⟩ <;>
    rw [form, form'] at same
  · refine Value.writtenInjective plain other endsNil ?_
    rw [List.append_nil, List.append_nil]
    exact List.append_cancel_left same
  · exact absurd same.symm (refusalNotUnknown w v.written)
  · exact absurd same (refusalNotUnknown v w.written)
  · exact refusalInjective plain other same

/-- The messages of two refusals of plain data, blank texts apart, are the same exactly where the
refused values are the same, in kind and in content at every level. -/
theorem messageNamesValue {names : NamedColors} {v w : Value} {e f : ConversionError} (plain : v.Plain)
    (otherPlain : w.Plain) (visible : v.Visible) (otherVisible : w.Visible)
    (refused : ofValue names v = .error (.conversion e))
    (otherRefused : ofValue names w = .error (.conversion f)) : e.message = f.message ↔ v = w := by
  constructor
  · intro same
    exact messageInjective plain otherPlain (valueRefused refused) (valueRefused otherRefused) visible
      otherVisible (String.ofList_injective same)
  · rintro rfl
    rw [refused] at otherRefused
    cases otherRefused
    rfl

/-- A truth value and the number it counts as are told apart in a list within a tuple. -/
theorem messageTellsTruthFromNumber :
    let v := Value.tuple [.list [.bool true]]
    let w := Value.tuple [.list [.int 1]]
    (v.Plain ∧ w.Plain) ∧ (v.Visible ∧ w.Visible) ∧
      ofValue .standard v = .error (.conversion (.unsupported v)) ∧
      ofValue .standard w = .error (.conversion (.unsupported w)) ∧
      (unsupported v).message ≠ (unsupported w).message := by
  intro v w
  have plain : v.Plain :=
    .tuple (List.forall_mem_singleton.mpr (.list (List.forall_mem_singleton.mpr (.bool true))))
  have otherPlain : w.Plain :=
    .tuple (List.forall_mem_singleton.mpr (.list (List.forall_mem_singleton.mpr (.int 1))))
  have refused : ofValue .standard v = .error (.conversion (.unsupported v)) := rfl
  have otherRefused : ofValue .standard w = .error (.conversion (.unsupported w)) := rfl
  refine ⟨⟨plain, otherPlain⟩, ⟨trivial, trivial⟩, refused, otherRefused, fun same => ?_⟩
  have equal := (messageNamesValue plain otherPlain trivial trivial refused otherRefused).mp same
  simp [v, w] at equal

end Color
end BufferColor
