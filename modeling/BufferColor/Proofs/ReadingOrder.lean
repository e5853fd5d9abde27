import BufferColor.Proofs.TextForm

/-! The two readings of a text, as hexadecimal and as a name, in either order. Both succeed on one
hash mark with six digits only, and there they mean the same color, so neither the colors nor the
refusals depend on which of them is tried first. -/
namespace BufferColor.Color
open ColorName (HashForm)
open Hex (Spelling)

def ofTextNameFirst (names : NamedColors) (text : String) : Except Failure Color :=
  match componentsOfName names text with
  | .ok rgb => (ofRgb rgb).mapError .component
  | .error (.conversion refusal) => do
      match ← (ofHexText text).mapError .component with
      | some color => .ok color
      | none => .error (.conversion refusal)
  | .error failure => .error failure

section
variable {names : NamedColors} (documented : names.Documented)
include documented

theorem foundHex {text : String} {rgb : Rgb Int} (hex : TextForm.hexadecimal.Holds text.toList)
    (found : componentsOfName names text = .ok rgb) :
    ∃ digits, HashForm 6 text.toList digits ∧ Spelling [rgb.red, rgb.green, rgb.blue] digits := by
  have means := (componentsMeant documented).mp found
  rcases ColorName.meansForm means with short | ⟨digits, six⟩ | named
  · exact absurd short (hexNotShort hex)
  · refine ⟨digits, six, ?_⟩
    rw [six.split] at means
    rcases ColorName.hashMeans means with spelled | ⟨x, y, z, three, _⟩
    · exact spelled
    · exact absurd six.size (by simp [three])
  · exact absurd named (hexNotNamed hex)

theorem readingsAgree {text : String} {c : Color} {rgb : Rgb Int}
    (read : ofHexText text = .ok (some c)) (found : componentsOfName names text = .ok rgb) :
    ofRgb rgb = .ok c := by
  obtain ⟨digits, form, spelled⟩ := foundHex documented (hexAccepted.mp ⟨c, read⟩) found
  have meant := hashedRead spelled
  rw [← form.split, String.ofList_toList, read] at meant
  obtain rfl := Option.some.inj (Except.ok.inj meant)
  exact namedStored found

theorem nameFirstSame (text : String) : ofTextNameFirst names text = ofText names text := by
  obtain ⟨color, read⟩ := readsNeverFails hexReads text.toList
  change ofHexText text = .ok color at read
  cases found : componentsOfName names text with
  | ok rgb =>
    rw [ofTextNameFirst, found]
    change (ofRgb rgb).mapError Failure.component = _
    cases color with
    | none =>
      rw [textOfName read found, namedStored found]
      rfl
    | some c =>
      rw [textOfHex read, readingsAgree documented read found]
      rfl
  | error e =>
    have refused := nameRefusal documented.caught found
    subst refused
    rw [ofTextNameFirst, found]
    change ((ofHexText text).mapError Failure.component >>= _) = _
    rw [read]
    cases color with
    | none => exact (textOfNone read found).symm
    | some c => exact (textOfHex read).symm

end

/-- Where a text has both readings they mean one color, so the order of the two does not matter: a
name first gives the same color for every text and refuses the same texts in the same way. A listed
name is never hexadecimal, and only a hash mark with six digits has both readings. -/
theorem readingOrderFree {names : NamedColors} (documented : names.Documented) (text : String) :
    (∀ c rgb, ofHexText text = .ok (some c) → componentsOfName names text = .ok rgb →
      ofRgb rgb = .ok c) ∧
    ofTextNameFirst names text = ofValue names (.text text) ∧
    ((∃ entry ∈ ColorName.table, LowerCase.lower text.toList = entry.1.toList) →
      ofHexText text = .ok none) ∧
    ((∃ c, ofHexText text = .ok (some c)) ∧ (∃ rgb, componentsOfName names text = .ok rgb) ↔
      ∃ digits, HashForm 6 text.toList digits) := by
  refine ⟨fun c rgb => readingsAgree documented, nameFirstSame documented text,
    fun named => hexUnread fun hex => hexNotNamed hex named, ?both, ?hashed⟩
  case both =>
    intro ⟨read, rgb, found⟩
    obtain ⟨digits, form, _⟩ := foundHex documented (hexAccepted.mp read) found
    exact ⟨digits, form⟩
  case hashed =>
    intro ⟨digits, form⟩
    obtain ⟨r, g, b, _, means⟩ := ColorName.sixMeans form
    exact ⟨hexAccepted.mpr (hashedHex form), ⟨r, g, b⟩, (componentsMeant documented).mpr means⟩

/-- Black in both readings. -/
theorem readingOrderOfBlack : NamedColors.standard.Documented ∧
    ofTextNameFirst .standard "#000000" = ofValue .standard (.text "#000000") ∧
    (∃ c, ofHexText "#000000" = .ok (some c)) ∧
    ∃ rgb, componentsOfName .standard "#000000" = .ok rgb := by
  have documented := NamedColors.standardDocumented
  obtain ⟨_, same, _, both⟩ := readingOrderFree documented "#000000"
  obtain ⟨read, found⟩ :=
    both.mpr ⟨['0', '0', '0', '0', '0', '0'], by decide, rfl, Hex.allListed (by decide)⟩
  exact ⟨documented, same, read, found⟩

end BufferColor.Color
