import BufferColor.Proofs.Converted
import BufferColor.Proofs.HexForm

/-! Texts as colors. A text is taken for a color in one of three forms: hexadecimal with marks in
front, one hash mark with three digits, or a listed name in any letter case. No text has two of
them, and a text that has none is refused with a message of its own. -/
namespace BufferColor.Color
open ColorName (HashForm)
open LowerCase (nameLetter)

inductive TextForm where
  | hexadecimal
  | short
  | named
  deriving DecidableEq, Repr

def TextForm.Holds (text : List Char) : TextForm → Prop
  | hexadecimal => ∃ marks body, HexForm text marks body
  | short => ∃ digits, HashForm 3 text digits
  | named => ∃ entry ∈ ColorName.table, LowerCase.lower text = entry.1.toList

theorem marksListed {marks : List Char} (chain : Marks marks) :
    ∀ c ∈ marks, c ∈ LowerCase.markedAlphabet := by
  induction chain with
  | nil => simp
  | hash tail ih => exact List.forall_mem_cons.mpr ⟨by decide, ih⟩
  | zeroX tail ih =>
    exact List.forall_mem_cons.mpr ⟨by decide, List.forall_mem_cons.mpr ⟨by decide, ih⟩⟩

theorem formListed {text marks body : List Char} (form : HexForm text marks body) :
    ∀ c ∈ text, c ∈ LowerCase.markedAlphabet := by
  intro c mem
  rw [form.split] at mem
  rcases List.mem_append.mp mem with mark | digit
  · exact marksListed form.chain c mark
  · exact List.mem_cons_of_mem _ (List.mem_cons_of_mem _ (form.digits c digit))

theorem hashedHex {text digits : List Char} (form : HashForm 6 text digits) :
    TextForm.hexadecimal.Holds text :=
  ⟨['#'], digits, .hash .nil, form.split, .inl form.size, form.digits⟩

theorem hexNotShort {text : List Char} (hex : TextForm.hexadecimal.Holds text) :
    ¬ TextForm.short.Holds text := by
  obtain ⟨marks, body, form⟩ := hex
  intro ⟨digits, short⟩
  have whole := formUnmarked form
  have left : unmarked ('#' :: digits) = digits := unmarkedDigits (.hash .nil) short.digits
  rw [short.split, left] at whole
  subst whole
  have three := short.size
  rcases form.size with six | eight <;> omega

theorem hexNotNamed {text : List Char} (hex : TextForm.hexadecimal.Holds text) :
    ¬ TextForm.named.Holds text := by
  obtain ⟨marks, body, form⟩ := hex
  intro ⟨entry, listed, lowered⟩
  exact ColorName.namesApart (LowerCase.markedNotWord (formListed form)) entry listed lowered

theorem shortNotNamed {text : List Char} (short : TextForm.short.Holds text) :
    ¬ TextForm.named.Holds text := by
  obtain ⟨digits, form⟩ := short
  intro ⟨entry, listed, lowered⟩
  rw [form.split] at lowered
  exact ColorName.namesApart (LowerCase.hashNotWord digits) entry listed lowered

theorem formsExclude {text : List Char} {form other : TextForm} (holds : form.Holds text)
    (otherHolds : other.Holds text) : form = other := by
  cases form <;> cases other
  case hexadecimal.short => exact absurd otherHolds (hexNotShort holds)
  case hexadecimal.named => exact absurd otherHolds (hexNotNamed holds)
  case short.hexadecimal => exact absurd holds (hexNotShort otherHolds)
  case short.named => exact absurd otherHolds (shortNotNamed holds)
  case named.hexadecimal => exact absurd holds (hexNotNamed otherHolds)
  case named.short => exact absurd holds (shortNotNamed otherHolds)
  all_goals rfl

theorem hexUnread {text : String} (other : ¬ TextForm.hexadecimal.Holds text.toList) :
    ofHexText text = .ok none := by
  obtain ⟨found, read⟩ := readsNeverFails hexReads text.toList
  cases found with
  | none => exact read
  | some c => exact absurd (hexAccepted.mp ⟨c, read⟩) other

theorem hashedRead {r g b : Int} {digits : List Char} (spelled : Hex.Spelling [r, g, b] digits) :
    ofHexText (String.ofList ('#' :: digits)) = .ok (some (ofMeant r g b 255)) := by
  rw [ofHexText, String.toList_ofList]
  exact markedBodyRead (.hash .nil) (.inl ⟨rfl, spelled⟩)

section
variable {names : NamedColors}

theorem hexMeaning {text : String} (hex : TextForm.hexadecimal.Holds text.toList) :
    ∃ c, ofHexText text = .ok (some c) ∧ ofText names text = .ok c := by
  obtain ⟨c, read⟩ := hexAccepted.mpr hex
  exact ⟨c, read, textOfHex read⟩

variable (documented : names.Documented)
include documented

theorem meansText {text : String} {r g b : Int} (unread : ofHexText text = .ok none)
    (means : ColorName.Means text.toList r g b) : ofText names text = .ok (ofMeant r g b 255) := by
  have found : componentsOfName names text = .ok ⟨r, g, b⟩ := (componentsMeant documented).mpr means
  exact textOfName unread found

theorem shortMeaning {text : String} {digits : List Char} (short : HashForm 3 text.toList digits) :
    ∃ c, ofHexText (String.ofList ('#' :: digits.flatMap fun d => [d, d])) = .ok (some c) ∧
      ofText names text = .ok c := by
  have unread := hexUnread fun hex => hexNotShort hex ⟨digits, short⟩
  obtain ⟨r, g, b, spelled, means⟩ := ColorName.threeMeans short
  exact ⟨ofMeant r g b 255, hashedRead spelled, meansText documented unread means⟩

theorem namedMeaning {text : String} {entry : String × Nat} (listed : entry ∈ ColorName.table)
    (lowered : LowerCase.lower text.toList = entry.1.toList) :
    ∃ c, ofPacked entry.2 = .ok c ∧ ofText names text = .ok c := by
  have unread := hexUnread fun hex => hexNotNamed hex ⟨entry, listed, lowered⟩
  exact ⟨_, packedStored entry.2, meansText documented unread (.listed listed lowered)⟩

theorem formless {text : String} (other : ∀ form : TextForm, ¬ form.Holds text.toList) :
    ofText names text = .error (.conversion
      (if Blank.isBlank text.toList then .blankName text else .unknownName text)) := by
  refine textOfNone (hexUnread (other .hexadecimal)) (componentsMissing documented ?_)
  intro r g b means
  rcases ColorName.meansForm means with short | ⟨digits, six⟩ | named
  · exact other .short short
  · exact other .hexadecimal (hashedHex six)
  · exact other .named named

theorem formGiven {text : String} {c : Color} (given : ofText names text = .ok c) :
    ∃ form : TextForm, form.Holds text.toList := by
  apply Classical.byContradiction
  intro other
  rw [formless documented (not_exists.mp other)] at given
  contradiction

end

/-- A text is taken for a color exactly where it has one of the forms, and it never has two.
Hexadecimal text means what its reader gives, the short form the same with every digit doubled, and a
name the opaque color of its entry; capitals and the kelvin sign are all that lower case changes for a
name. Any other text is refused without a cause, as blank where it is white space alone and as unknown
where it is not. -/
theorem textTakenByForm {names : NamedColors} (documented : names.Documented) (text : String) :
    ((∃ c, ofValue names (.text text) = .ok c) ↔ ∃ form : TextForm, form.Holds text.toList) ∧
    (∀ form other : TextForm, form.Holds text.toList → other.Holds text.toList → form = other) ∧
    (∀ marks body, HexForm text.toList marks body →
      ∃ c, ofHexText text = .ok (some c) ∧ ofValue names (.text text) = .ok c) ∧
    (∀ digits, HashForm 3 text.toList digits →
      ∃ c, ofHexText (String.ofList ('#' :: digits.flatMap fun d => [d, d])) = .ok (some c) ∧
        ofValue names (.text text) = .ok c) ∧
    (∀ entry ∈ ColorName.table,
      (LowerCase.lower text.toList = entry.1.toList ↔ text.toList.map nameLetter = entry.1.toList) ∧
      (LowerCase.lower text.toList = entry.1.toList →
        ∃ c, ofPacked entry.2 = .ok c ∧ ofValue names (.text text) = .ok c)) ∧
    ((∀ form : TextForm, ¬ form.Holds text.toList) →
      ∃ e, ofValue names (.text text) = .error (.conversion e) ∧ e.value = .text text ∧
        e.cause? = none ∧
        (e.message = "color name must not be empty" ↔
          ∀ c ∈ text.toList, Blank.isSpace c = true) ∧
        (¬ (∀ c ∈ text.toList, Blank.isSpace c = true) →
          e.message = "unknown color: " ++ String.ofList (Value.text text).written)) := by
  refine ⟨⟨?accepted, ?taken⟩, fun form other => formsExclude, ?hexadecimal,
    fun digits => shortMeaning documented, ?named, ?refused⟩
  case accepted => exact fun ⟨c, given⟩ => formGiven documented given
  case taken =>
    intro ⟨form, holds⟩
    cases form with
    | hexadecimal =>
      obtain ⟨c, _, given⟩ := hexMeaning holds
      exact ⟨c, given⟩
    | short =>
      obtain ⟨digits, short⟩ := holds
      obtain ⟨c, _, given⟩ := shortMeaning documented short
      exact ⟨c, given⟩
    | named =>
      obtain ⟨entry, listed, lowered⟩ := holds
      obtain ⟨c, _, given⟩ := namedMeaning documented listed lowered
      exact ⟨c, given⟩
  case hexadecimal => exact fun marks body form => hexMeaning ⟨marks, body, form⟩
  case named =>
    intro entry listed
    exact ⟨LowerCase.lowerNamed (ColorName.nameSmall listed), namedMeaning documented listed⟩
  case refused =>
    intro other
    have refused : ofValue names (.text text) = _ := formless documented other
    have all : Blank.isBlank text.toList = true ↔ ∀ c ∈ text.toList, Blank.isSpace c = true :=
      List.all_eq_true
    by_cases blank : ∀ c ∈ text.toList, Blank.isSpace c = true
    · rw [if_pos (all.mpr blank)] at refused
      exact ⟨_, refused, rfl, rfl, ⟨fun _ => blank, fun _ => ConversionError.blankMessage text⟩,
        fun visible => absurd blank visible⟩
    · rw [if_neg fun white => blank (all.mp white)] at refused
      exact ⟨_, refused, rfl, rfl, ⟨fun same => absurd same (ConversionError.unknownNotBlank text),
        fun white => absurd white blank⟩, fun _ => ConversionError.unknownMessage text⟩

/-- A name with capitals in it, and a short form. -/
theorem textTakenInCapitals : NamedColors.standard.Documented ∧
    ofValue .standard (.text "ReD") = .ok ⟨.int 0, .int 0, .int 255, .int 255⟩ ∧
    ofValue .standard (.text "#FfF") = .ok ⟨.int 255, .int 255, .int 255, .int 255⟩ := by
  have documented := NamedColors.standardDocumented
  obtain ⟨_, _, _, _, named, _⟩ := textTakenByForm documented "ReD"
  obtain ⟨_, _, _, short, _⟩ := textTakenByForm documented "#FfF"
  have listed : ("red", 0xff0000) ∈ ColorName.table := by decide +kernel
  obtain ⟨spelled, given⟩ := named _ listed
  obtain ⟨c, packed, taken⟩ := given (spelled.mpr (by decide))
  obtain ⟨d, read, shown⟩ := short ['F', 'f', 'F'] ⟨by decide, rfl, Hex.allListed (by decide)⟩
  obtain rfl := Except.ok.inj packed
  obtain rfl := Option.some.inj (Except.ok.inj read)
  exact ⟨documented, taken, shown⟩

end BufferColor.Color
