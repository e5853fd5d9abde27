import BufferColor.Proofs.Converted
import BufferColor.Session

/-! The conversion of any value whatever. It gives a color or is refused for the value that it was
given; a color is handed back as it is, a number and a tuple of components go the ways of the
constructor, and what is refused for a bad component keeps the error of the constructor as cause. -/
namespace BufferColor

namespace ConversionError

theorem refusalMessage (value : Value) : String.ofList (refusal value) =
    "cannot convert " ++ String.ofList value.written ++ " into a color" := by
  unfold refusal
  rw [String.ofList_append, String.ofList_append, String.ofList_toList, String.ofList_toList]

theorem unsupportedMessage (value : Value) : (unsupported value).message =
    "cannot convert " ++ String.ofList value.written ++ " into a color" := refusalMessage value

theorem componentMessage (value : Value) (cause : ComponentError) :
    (badComponent value cause).message =
      "cannot convert " ++ String.ofList value.written ++ " into a color" := refusalMessage value

end ConversionError

namespace Color

inductive Components : List Value → Value → Value → Value → Value → Prop where
  | three {red green blue : Value} : Components [red, green, blue] red green blue (.int 255)
  | four {red green blue alpha : Value} : Components [red, green, blue, alpha] red green blue alpha

inductive Taken : Value → Prop where
  | color (c : Color) : Taken (.color c)
  | number (n : Int) : Taken (.int n)
  | text (s : String) : Taken (.text s)
  | tuple {items : List Value} (size : items.length = 3 ∨ items.length = 4) : Taken (.tuple items)

variable {names : NamedColors}

theorem tupleOffered {items : List Value} {red green blue alpha : Value}
    (offered : Components items red green blue alpha) :
    ofTuple items = (ofComponents red green blue alpha).mapError (.badComponent (.tuple items)) := by
  cases offered with
  | three => rfl
  | four => rfl

theorem tupleUntaken {items : List Value} (other : ¬ Taken (.tuple items)) :
    ofTuple items = .error (.unsupported (.tuple items)) := by
  unfold ofTuple
  split
  · exact absurd (.tuple (.inl rfl)) other
  · exact absurd (.tuple (.inr rfl)) other
  · rfl

theorem valueUntaken {value : Value} (other : ¬ Taken value) :
    ofValue names value = .error (.conversion (.unsupported value)) := by
  cases value with
  | color c => exact absurd (.color c) other
  | int n => exact absurd (.number n) other
  | text s => exact absurd (.text s) other
  | tuple items =>
    change (ofTuple items).mapError Failure.conversion = _
    rw [tupleUntaken other]
    rfl
  | _ => rfl

inductive Refused : Value → ConversionError → Prop where
  | blank {name : String} (blank : Blank.isBlank name.toList = true) :
      Refused (.text name) (.blankName name)
  | unknown {name : String} (visible : Blank.isBlank name.toList = false) :
      Refused (.text name) (.unknownName name)
  | component {items : List Value} (cause : ComponentError) :
      Refused (.tuple items) (.badComponent (.tuple items) cause)
  | kind {value : Value} (other : ∀ name, value ≠ .text name) : Refused value (.unsupported value)

theorem nameRefused {name : String} {e : ConversionError}
    (missing : componentsOfName names name = .error (.conversion e)) : Refused (.text name) e := by
  rcases nameFailure missing with same | ⟨kind, _, same⟩
  · obtain rfl := Failure.conversion.inj same
    split
    · rename_i blank
      exact .blank blank
    · rename_i visible
      exact .unknown (Bool.eq_false_iff.mpr visible)
  · contradiction

theorem tupleRefused {items : List Value} {e : ConversionError} (failed : ofTuple items = .error e) :
    Refused (.tuple items) e := by
  unfold ofTuple at failed
  split at failed
  · obtain ⟨cause, _, rfl⟩ := mapErrorFailed.mp failed
    exact .component cause
  · obtain ⟨cause, _, rfl⟩ := mapErrorFailed.mp failed
    exact .component cause
  · cases failed
    exact .kind nofun

theorem valueRefused {value : Value} {e : ConversionError}
    (failed : ofValue names value = .error (.conversion e)) : Refused value e := by
  unfold ofValue at failed
  split at failed
  · contradiction
  · rw [packedStored] at failed
    contradiction
  · exact nameRefused (textRefusal failed)
  · obtain ⟨cause, refused, same⟩ := mapErrorFailed.mp failed
    obtain rfl := Failure.conversion.inj same
    exact tupleRefused refused
  · rename_i other _
    cases failed
    exact .kind other

theorem refusedFor {value : Value} {e : ConversionError} (refused : Refused value e) :
    e.value = value := by
  cases refused <;> rfl

theorem textUncaused {text : String} {e : ConversionError} (refused : Refused (.text text) e) :
    e.cause? = none := by
  cases refused <;> rfl

theorem valueSettled (caught : names.Caught) (value : Value) : (∃ c, ofValue names value = .ok c) ∨
    ∃ e, ofValue names value = .error (.conversion e) ∧ e.value = value := by
  cases result : ofValue names value with
  | ok c => exact .inl ⟨c, rfl⟩
  | error failure =>
    obtain ⟨e, rfl⟩ := valueRefusal caught result
    exact .inr ⟨e, rfl, refusedFor (valueRefused result)⟩

theorem colorHandedBack {packages : Packages} {value : Value} {c : Color} {given : Bool}
    (converted : (Call.ofValue value).outcome packages = .ok (.converted c given)) :
    given = true ↔ value = .color c := by
  obtain ⟨d, made, same⟩ := mapOk.mp converted
  cases same
  constructor
  · intro isColor
    cases value with
    | color d =>
      cases made
      rfl
    | _ => contradiction
  · intro whole
    rw [whole]
    rfl

/-- Every value is converted or refused, and a refusal is for that value and for nothing else. Only
a color is its own conversion. A number is what its packed form is; a tuple of components succeeds
and fails as the constructor does on them, whose error is the cause; every other value but a text is
refused without a cause, and so is every refused text. -/
theorem everyValueSettled {names : NamedColors} (caught : names.Caught) (terminal : Terminal)
    (value : Value) :
    ((∃ c, ofValue names value = .ok c) ∨
      ∃ e, ofValue names value = .error (.conversion e) ∧ e.value = value) ∧
    ((ofValue names value).map Value.color = .ok value ↔ ∃ c, value = .color c) ∧
    (∀ c given, (Call.ofValue value).outcome ⟨names, terminal⟩ = .ok (.converted c given) →
      (given = true ↔ value = .color c)) ∧
    (∀ n, value = .int n → ∃ c, ofPacked n = .ok c ∧ ofValue names value = .ok c) ∧
    (∀ items red green blue alpha, value = .tuple items → Components items red green blue alpha →
      (∀ c, ofValue names value = .ok c ↔ ofComponents red green blue alpha = .ok c) ∧
      ∀ cause, ofComponents red green blue alpha = .error cause →
        ∃ e, ofValue names value = .error (.conversion e) ∧ e.cause? = some cause ∧
          e.message = "cannot convert " ++ String.ofList value.written ++ " into a color") ∧
    (¬ Taken value → ∃ e, ofValue names value = .error (.conversion e) ∧ e.cause? = none ∧
      e.message = "cannot convert " ++ String.ofList value.written ++ " into a color") ∧
    (∀ text e, value = .text text → ofValue names value = .error (.conversion e) →
      e.cause? = none) := by
  refine ⟨valueSettled caught value, ⟨?same, ?color⟩, fun c given => colorHandedBack, ?number,
    ?components, ?untaken, ?text⟩
  case same =>
    intro unchanged
    obtain ⟨c, _, whole⟩ := mapOk.mp unchanged
    exact ⟨c, whole.symm⟩
  case color =>
    rintro ⟨c, rfl⟩
    rfl
  case number =>
    rintro n rfl
    rw [ofValue, packedStored]
    exact ⟨_, rfl, rfl⟩
  case components =>
    rintro items red green blue alpha rfl offered
    have made : ofValue names (.tuple items) = (ofTuple items).mapError .conversion := rfl
    rw [made, tupleOffered offered]
    refine ⟨fun c => mapErrorOk.trans mapErrorOk, fun cause failed => ?_⟩
    rw [failed]
    exact ⟨_, rfl, rfl, ConversionError.componentMessage (.tuple items) cause⟩
  case untaken =>
    intro other
    exact ⟨_, valueUntaken other, rfl, ConversionError.unsupportedMessage value⟩
  case text =>
    rintro text e rfl failed
    exact textUncaused (valueRefused failed)

/-- The first of two bad components is the cause. -/
theorem tupleSettled : NamedColors.standard.Caught ∧
    ∃ e, ofValue .standard (.tuple [.int 300, .null, .bool true]) = .error (.conversion e) ∧
      e.cause? = some (.outOfRange .red 300) := by
  have caught := NamedColors.standardDocumented.caught
  obtain ⟨_, _, _, _, tuples, _⟩ :=
    everyValueSettled caught .ansi (.tuple [.int 300, .null, .bool true])
  obtain ⟨e, refused, cause, _⟩ := (tuples _ _ _ _ _ rfl .three).2 (.outOfRange .red 300) rfl
  exact ⟨caught, e, refused, cause⟩

end Color
end BufferColor
