import BufferColor.Proofs.NamedColor

/-! What a conversion of a value gives and how it refuses. A color out of it is storable unless it
was in the value before, and every refusal is one of the conversion itself: the constructor is
handed octets by the readers, the names and the packed numbers, and its error on a tuple is caught. -/
namespace BufferColor

namespace Value

mutual

def colors : Value → List Color
  | color c => [c]
  | tuple items => itemColors items
  | list items => itemColors items
  | table entries => entryColors entries
  | _ => []

def itemColors : List Value → List Color
  | [] => []
  | item :: rest => colors item ++ itemColors rest

def entryColors : List (Value × Value) → List Color
  | [] => []
  | entry :: rest => pairColors entry ++ entryColors rest

def pairColors : Value × Value → List Color
  | (key, value) => colors key ++ colors value

end

end Value

namespace Color

theorem tupleStorable {items : List Value} {c : Color} (given : ofTuple items = .ok c) :
    c.Storable := by
  unfold ofTuple at given
  split at given
  · exact componentsStorable (mapErrorOk.mp given)
  · exact componentsStorable (mapErrorOk.mp given)
  · contradiction

variable {names : NamedColors}

theorem textStorable {text : String} {c : Color} (given : ofText names text = .ok c) : c.Storable := by
  obtain ⟨found, read, last⟩ := bindOk.mp given
  cases found with
  | some d =>
    cases last
    exact readStorable hexReads bodyOctets (mapErrorOk.mp read)
  | none =>
    obtain ⟨rgb, _, made⟩ := bindOk.mp last
    exact componentsStorable (mapErrorOk.mp made)

theorem valueStorable {value : Value} {c : Color} (colors : ∀ d ∈ value.colors, d.Storable)
    (given : ofValue names value = .ok c) : c.Storable := by
  unfold ofValue at given
  split at given
  · cases given
    exact colors c (by simp [Value.colors])
  · exact componentsStorable (mapErrorOk.mp given)
  · exact textStorable given
  · exact tupleStorable (mapErrorOk.mp given)
  · contradiction

theorem textOfHex {text : String} {c : Color} (read : ofHexText text = .ok (some c)) :
    ofText names text = .ok c := by
  rw [ofText, read]
  rfl

theorem textOfName {text : String} {rgb : Rgb Int} (unread : ofHexText text = .ok none)
    (found : componentsOfName names text = .ok rgb) :
    ofText names text = .ok (ofMeant rgb.red rgb.green rgb.blue 255) := by
  rw [ofText, unread, found]
  change (ofRgb rgb).mapError Failure.component = _
  rw [namedStored found]
  rfl

theorem textOfNone {text : String} {e : Failure} (unread : ofHexText text = .ok none)
    (missing : componentsOfName names text = .error e) : ofText names text = .error e := by
  rw [ofText, unread, missing]
  rfl

theorem textRefusal {text : String} {e : Failure} (failed : ofText names text = .error e) :
    componentsOfName names text = .error e := by
  obtain ⟨found, read⟩ := readsNeverFails hexReads text.toList
  cases found with
  | some c =>
    rw [textOfHex read] at failed
    cases failed
  | none =>
    cases named : componentsOfName names text with
    | error cause =>
      rw [textOfNone read named] at failed
      cases failed
      rfl
    | ok rgb =>
      rw [textOfName read named] at failed
      cases failed

theorem valueFailure {value : Value} {e : Failure} (failed : ofValue names value = .error e) :
    (∃ cause, e = .conversion cause) ∨
      ∃ text kind, names.rgb text = .error (.other kind) ∧ e = .library kind := by
  unfold ofValue at failed
  split at failed
  · contradiction
  · rw [packedStored] at failed
    cases failed
  · rename_i text
    rcases nameFailure (textRefusal failed) with refused | ⟨kind, other, same⟩
    · exact .inl ⟨_, refused⟩
    · exact .inr ⟨text, kind, other, same⟩
  · obtain ⟨cause, _, same⟩ := mapErrorFailed.mp failed
    exact .inl ⟨cause, same.symm⟩
  · cases failed
    exact .inl ⟨_, rfl⟩

theorem valueRefusal (caught : names.Caught) {value : Value} {e : Failure}
    (failed : ofValue names value = .error e) : ∃ cause, e = .conversion cause := by
  rcases valueFailure failed with refused | ⟨text, kind, other, _⟩
  · exact refused
  · exact absurd other (caught text kind)

end Color

namespace ConversionError

theorem blankMessage (name : String) : (blankName name).message = "color name must not be empty" :=
  String.ofList_toList

theorem unknownChars (name : String) : (unknownName name).messageChars =
    "unknown color: ".toList ++ Quoted.text name.toList := rfl

theorem unknownMessage (name : String) : (unknownName name).message =
    "unknown color: " ++ String.ofList (Value.text name).written := by
  rw [message, unknownChars, Value.written, String.ofList_append, String.ofList_toList]

theorem unknownNotBlank (name : String) :
    (unknownName name).message ≠ "color name must not be empty" := by
  intro same
  have chars := congrArg String.toList same
  rw [message, String.toList_ofList, unknownChars] at chars
  have first := congrArg List.head? chars
  simp at first

end ConversionError
end BufferColor
