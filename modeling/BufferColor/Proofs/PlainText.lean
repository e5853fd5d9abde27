import BufferColor.Proofs.TextForm

/-! The characters of texts that are colors. No text with a character beyond the ASCII ones is a color,
but for a kelvin sign that stands for a k in a name: full lower case lets in no other look-alike. -/
namespace BufferColor

namespace Color
open ColorName (HashForm nameSmall)
open LowerCase (kelvinSign nameLetter)

def NamesEntry (text : List Char) (entry : String × Nat) : Prop :=
  entry ∈ ColorName.table ∧ text.map nameLetter = entry.1.toList

theorem namedSpelled {text : List Char} :
    TextForm.named.Holds text ↔ ∃ entry, NamesEntry text entry := by
  simp only [TextForm.Holds, NamesEntry]
  exact exists_congr fun entry => and_congr_right fun listed => LowerCase.lowerNamed (nameSmall listed)

theorem markedPlain {c : Char} (marked : c ∈ LowerCase.markedAlphabet) : c.toNat < 128 := by
  have all : LowerCase.markedAlphabet.all (fun c => c.toNat < 128) = true := by decide
  simpa using List.all_eq_true.mp all c marked

theorem shortListed {text digits : List Char} (short : HashForm 3 text digits) :
    ∀ c ∈ text, c ∈ LowerCase.markedAlphabet := by
  rw [short.split]
  intro c mem
  rcases List.mem_cons.mp mem with rfl | digit
  · exact List.mem_cons_self
  · exact List.mem_cons_of_mem _ (List.mem_cons_of_mem _ (short.digits c digit))

section
variable {names : NamedColors} (documented : names.Documented)
include documented

theorem entryGiven {text : String} {entry : String × Nat} (spelled : NamesEntry text.toList entry) :
    ∃ d, ofPacked entry.2 = .ok d ∧ d.alpha = .int 255 ∧ ofText names text = .ok d := by
  obtain ⟨listed, letters⟩ := spelled
  have lowered := (LowerCase.lowerNamed (nameSmall listed)).mpr letters
  obtain ⟨d, packed, given⟩ := namedMeaning documented listed lowered
  refine ⟨d, packed, ?_, given⟩
  rw [packedStored] at packed
  obtain rfl := Except.ok.inj packed
  rfl

theorem unmarkedNamed {text : String} {d : Color} (unread : ofHexText text = .ok none)
    (unhashed : text.toList.head? ≠ some '#') (given : ofText names text = .ok d) :
    ∃ entry, NamesEntry text.toList entry := by
  obtain ⟨form, holds⟩ := formGiven documented given
  cases form with
  | hexadecimal =>
    obtain ⟨c, read⟩ := hexAccepted.mpr holds
    cases unread.symm.trans read
  | short =>
    obtain ⟨digits, short⟩ := holds
    rw [short.split] at unhashed
    exact absurd rfl unhashed
  | named => exact namedSpelled.mp holds

end

def PlainAt (text : List Char) (place : Nat) (c : Char) : Prop :=
  c.toNat < 128 ∨ c.toNat = kelvinSign ∧
    ∃ entry, NamesEntry text entry ∧ entry.1.toList[place]? = some 'k'

theorem givenPlain {names : NamedColors} (documented : names.Documented) {text : String} {d : Color}
    (given : ofText names text = .ok d) {place : Nat} {c : Char}
    (atPlace : text.toList[place]? = some c) : PlainAt text.toList place c := by
  have mem : c ∈ text.toList := List.mem_of_getElem? atPlace
  obtain ⟨form, holds⟩ := formGiven documented given
  cases form with
  | hexadecimal =>
    obtain ⟨marks, body, hex⟩ := holds
    exact .inl (markedPlain (formListed hex c mem))
  | short =>
    obtain ⟨digits, short⟩ := holds
    exact .inl (markedPlain (shortListed short c mem))
  | named =>
    obtain ⟨entry, listed, spelled⟩ := namedSpelled.mp holds
    have there : entry.1.toList[place]? = some (nameLetter c) := by
      rw [← spelled, List.getElem?_map, atPlace]
      rfl
    have small := nameSmall listed _ (List.mem_of_getElem? there)
    rcases LowerCase.letterPlain small with plain | ⟨kelvin, isK⟩
    · exact .inl plain
    · exact .inr ⟨kelvin, entry, ⟨listed, spelled⟩, isK ▸ there⟩

/-- A text that is taken for a color has ASCII characters only, but for kelvin signs that stand for a
k in a name. What is neither hexadecimal nor marked is taken exactly where it spells a listed name
with capitals, small letters and kelvin signs, and means the opaque color of that name: full lower
case lets in what this plain rule does, and nothing more. -/
theorem colorTextPlain {names : NamedColors} (documented : names.Documented) (text : String) :
    (∀ d, ofValue names (.text text) = .ok d →
      ∀ place c, text.toList[place]? = some c → PlainAt text.toList place c) ∧
    (∀ entry ∈ ColorName.table, LowerCase.lower text.toList = entry.1.toList ↔
      text.toList.map nameLetter = entry.1.toList) ∧
    (ofHexText text = .ok none → text.toList.head? ≠ some '#' →
      ((∃ d, ofValue names (.text text) = .ok d) ↔ ∃ entry, NamesEntry text.toList entry) ∧
      ∀ entry, NamesEntry text.toList entry →
        ∃ d, ofPacked entry.2 = .ok d ∧ d.alpha = .int 255 ∧ ofValue names (.text text) = .ok d) := by
  refine ⟨fun d given place c => givenPlain documented given,
    fun entry listed => LowerCase.lowerNamed (nameSmall listed), fun unread unhashed => ?_⟩
  refine ⟨⟨?spelled, ?given⟩, fun entry => entryGiven documented⟩
  case spelled => exact fun ⟨d, given⟩ => unmarkedNamed documented unread unhashed given
  case given =>
    intro ⟨entry, spelled⟩
    obtain ⟨d, _, _, given⟩ := entryGiven documented spelled
    exact ⟨d, given⟩

/-- Black with a kelvin sign in it. -/
theorem kelvinTextPlain : NamedColors.standard.Documented ∧ ofHexText "Blac\u212a" = .ok none ∧
    ofValue .standard (.text "Blac\u212a") = .ok ⟨.int 0, .int 0, .int 0, .int 255⟩ := by
  have documented := NamedColors.standardDocumented
  have unread : ofHexText "Blac\u212a" = .ok none := rfl
  obtain ⟨_, _, named⟩ := colorTextPlain documented "Blac\u212a"
  have spelled : NamesEntry "Blac\u212a".toList ("black", 0x000000) := ⟨by decide +kernel, by decide⟩
  obtain ⟨d, packed, _, given⟩ := (named unread (by decide)).2 _ spelled
  obtain rfl := Except.ok.inj packed
  exact ⟨documented, unread, given⟩

end Color
end BufferColor
