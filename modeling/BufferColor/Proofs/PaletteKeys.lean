import BufferColor.Color
import Mathlib.Data.List.Induction

/-! Palettes, which keep of every color in a list the first form in which it appears. Colors that are
equal need not be the same, since a truth value equals the number it counts as; so a palette is told by
what its keys are equal to, and by where each of them stood for the first time. -/
namespace BufferColor

instance : EquivBEq Color where
  rfl := Color.beqLevels.mpr rfl
  symm same := Color.beqLevels.mpr (Color.beqLevels.mp same).symm
  trans same next :=
    Color.beqLevels.mpr ((Color.beqLevels.mp same).trans (Color.beqLevels.mp next))

namespace Palette

def appearance (colors : List Color) (c : Color) : Nat := colors.findIdx (· == c)

structure Keys (colors keys : List Color) : Prop where
  apart : keys.Pairwise fun key other => (key == other) = false
  single : ∀ c ∈ colors, ∃ key ∈ keys, (c == key) = true ∧
    ∀ other ∈ keys, (c == other) = true → other = key
  first : ∀ key ∈ keys, colors.find? (· == key) = some key
  ordered : keys.Pairwise fun key other => appearance colors key < appearance colors other

theorem insertKnown {palette : List Color} {c : Color} (known : palette.contains c = true) :
    insert palette c = palette := if_pos known

theorem insertNew {palette : List Color} {c : Color} (new : palette.contains c = false) :
    insert palette c = palette ++ [c] := if_neg (by simp [new])

theorem keySource {colors keys : List Color} (valid : Keys colors keys) {key : Color}
    (mem : key ∈ keys) : key ∈ colors := List.mem_of_find?_eq_some (valid.first key mem)

theorem keysContain {colors keys : List Color} (valid : Keys colors keys) (c : Color) :
    keys.contains c = colors.contains c := by
  rw [Bool.eq_iff_iff, List.contains_iff_exists_mem_beq, List.contains_iff_exists_mem_beq]
  constructor
  · rintro ⟨key, mem, same⟩
    exact ⟨key, keySource valid mem, same⟩
  · rintro ⟨d, mem, same⟩
    obtain ⟨key, inside, equal, _⟩ := valid.single d mem
    exact ⟨key, inside, BEq.trans same equal⟩

theorem keysCover {colors keys : List Color} (valid : Keys colors keys) :
    ∀ c ∈ colors, ∃ key ∈ keys, (c == key) = true := by
  intro c mem
  obtain ⟨key, inside, same, _⟩ := valid.single c mem
  exact ⟨key, inside, same⟩

theorem firstKept {colors keys : List Color} (valid : Keys colors keys) (more : List Color) :
    ∀ key ∈ keys, (colors ++ more).find? (· == key) = some key := by
  intro key mem
  rw [List.find?_append, valid.first key mem, Option.some_or]

theorem appearanceInside {colors : List Color} {c : Color} (mem : c ∈ colors) :
    appearance colors c < colors.length :=
  List.findIdx_lt_length_of_exists ⟨c, mem, BEq.rfl⟩

theorem appearanceKept {colors : List Color} {c : Color} (mem : c ∈ colors) (more : List Color) :
    appearance (colors ++ more) c = appearance colors c :=
  List.findIdx_append.trans (if_pos (appearanceInside mem))

theorem orderKept {colors keys : List Color} (valid : Keys colors keys) (more : List Color) :
    keys.Pairwise fun key other =>
      appearance (colors ++ more) key < appearance (colors ++ more) other := by
  refine valid.ordered.imp_of_mem fun mem inside before => ?_
  rwa [appearanceKept (keySource valid mem), appearanceKept (keySource valid inside)]

theorem unlikeNew {colors : List Color} {c : Color} (new : colors.contains c = false) :
    ∀ d ∈ colors, (d == c) = false := by
  intro d mem
  cases same : d == c with
  | false => rfl
  | true =>
    have known := List.contains_iff_exists_mem_beq.mpr ⟨d, mem, BEq.symm same⟩
    exact absurd known (by simp [new])

theorem firstNew {colors : List Color} {c : Color} (new : colors.contains c = false) :
    (colors ++ [c]).find? (· == c) = some c := by
  have none : colors.find? (· == c) = none :=
    List.find?_eq_none.mpr fun d mem => by simp [unlikeNew new d mem]
  have here : [c].find? (· == c) = some c := by simp
  rw [List.find?_append, none, Option.none_or, here]

theorem appearanceNew {colors : List Color} {c : Color} (new : colors.contains c = false) :
    appearance (colors ++ [c]) c = colors.length := by
  have beyond : colors.findIdx (· == c) = colors.length :=
    List.findIdx_eq_length_of_false (unlikeNew new)
  have here : [c].findIdx (· == c) = 0 := by simp [List.findIdx_cons]
  rw [appearance, List.findIdx_append, beyond, if_neg (Nat.lt_irrefl _), here, Nat.zero_add]

theorem keysOf {colors keys : List Color}
    (apart : keys.Pairwise fun key other => (key == other) = false)
    (covered : ∀ c ∈ colors, ∃ key ∈ keys, (c == key) = true)
    (first : ∀ key ∈ keys, colors.find? (· == key) = some key)
    (ordered : keys.Pairwise fun key other => appearance colors key < appearance colors other) :
    Keys colors keys := by
  refine ⟨apart, fun c mem => ?_, first, ordered⟩
  obtain ⟨key, inside, same⟩ := covered c mem
  refine ⟨key, inside, same, fun other otherInside equal => ?_⟩
  have tests : (fun d => d == other) = fun d => d == key :=
    funext fun d => BEq.congr_right (BEq.trans (BEq.symm equal) same)
  have found := first other otherInside
  rw [tests, first key inside] at found
  exact (Option.some.inj found).symm

theorem keysKnown {colors keys : List Color} (valid : Keys colors keys) {c : Color}
    (known : keys.contains c = true) : Keys (colors ++ [c]) keys := by
  refine keysOf valid.apart ?_ (firstKept valid [c]) (orderKept valid [c])
  exact List.forall_mem_append.mpr ⟨keysCover valid, List.forall_mem_singleton.mpr
    (List.contains_iff_exists_mem_beq.mp known)⟩

theorem keysNew {colors keys : List Color} (valid : Keys colors keys) {c : Color}
    (new : keys.contains c = false) : Keys (colors ++ [c]) (keys ++ [c]) := by
  have unseen : colors.contains c = false := (keysContain valid c).symm.trans new
  refine keysOf ?apart ?covered ?first ?ordered
  case apart =>
    exact List.pairwise_append.mpr ⟨valid.apart, List.pairwise_singleton _ c,
      fun key mem => List.forall_mem_singleton.mpr (unlikeNew new key mem)⟩
  case covered =>
    refine List.forall_mem_append.mpr ⟨fun d mem => ?_, List.forall_mem_singleton.mpr
      ⟨c, by simp, BEq.rfl⟩⟩
    obtain ⟨key, inside, same⟩ := keysCover valid d mem
    exact ⟨key, List.mem_append_left _ inside, same⟩
  case first =>
    exact List.forall_mem_append.mpr ⟨firstKept valid [c], List.forall_mem_singleton.mpr
      (firstNew unseen)⟩
  case ordered =>
    refine List.pairwise_append.mpr ⟨orderKept valid [c], List.pairwise_singleton _ c,
      fun key mem => List.forall_mem_singleton.mpr ?_⟩
    rw [appearanceKept (keySource valid mem), appearanceNew unseen]
    exact appearanceInside (keySource valid mem)

theorem keysInsert {colors keys : List Color} (valid : Keys colors keys) (c : Color) :
    Keys (colors ++ [c]) (insert keys c) := by
  cases known : keys.contains c with
  | true =>
    rw [insertKnown known]
    exact keysKnown valid known
  | false =>
    rw [insertNew known]
    exact keysNew valid known

theorem keysFold {seen keys : List Color} (valid : Keys seen keys) (colors : List Color) :
    Keys (seen ++ colors) (colors.foldl insert keys) := by
  induction colors generalizing seen keys with
  | nil => simpa using valid
  | cons c rest ih => simpa using ih (keysInsert valid c)

theorem keysOfList (colors : List Color) : Keys colors (ofList colors) := by
  have empty : Keys [] [] := ⟨.nil, by simp, by simp, .nil⟩
  exact keysFold empty colors

theorem ofListContains (colors : List Color) (c : Color) :
    (ofList colors).contains c = colors.contains c := keysContain (keysOfList colors) c

theorem ofListLast (colors : List Color) (c : Color) :
    ofList (colors ++ [c]) = insert (ofList colors) c := by
  simp only [ofList, List.foldl_append, List.foldl_cons, List.foldl_nil]

theorem ofListAppend (colors others : List Color) : ofList (colors ++ others) =
    ofList colors ++ (ofList others).filter fun key => !colors.contains key := by
  induction others using List.reverseRecOn with
  | nil => simp [ofList]
  | append_singleton rest c ih =>
    have both : (ofList (colors ++ rest)).contains c = (colors.contains c || rest.contains c) := by
      rw [ofListContains, List.contains_append]
    rw [← List.append_assoc, ofListLast, ofListLast]
    cases later : rest.contains c with
    | true =>
      rw [insertKnown (by rw [both, later, Bool.or_true]), ih,
        insertKnown ((ofListContains rest c).trans later)]
    | false =>
      rw [insertNew ((ofListContains rest c).trans later), List.filter_append]
      cases before : colors.contains c with
      | true =>
        rw [insertKnown (by rw [both, before, Bool.true_or]), ih]
        simp [before]
      | false =>
        rw [insertNew (by rw [both, before, later, Bool.or_false]), ih]
        simp [before]

theorem ofListApart {keys : List Color}
    (apart : keys.Pairwise fun key other => (key == other) = false) : ofList keys = keys := by
  induction keys using List.reverseRecOn with
  | nil => rfl
  | append_singleton rest c ih =>
    obtain ⟨front, _, unlike⟩ := List.pairwise_append.mp apart
    have new : rest.contains c = false := by
      rw [Bool.eq_false_iff, ne_eq, List.contains_iff_exists_mem_beq]
      rintro ⟨key, mem, same⟩
      exact absurd (BEq.symm same) (by simp [unlike key mem c])
    rw [ofListLast, ih front, insertNew new]

theorem keysLevels (colors : List Color) : ((ofList colors).map Color.levels).Nodup ∧
    ∀ levels, levels ∈ (ofList colors).map Color.levels ↔ levels ∈ colors.map Color.levels := by
  have valid := keysOfList colors
  constructor
  · rw [List.Nodup, List.pairwise_map]
    refine valid.apart.imp fun unlike same => ?_
    exact absurd (Color.beqLevels.mpr same) (by simp [unlike])
  · intro levels
    simp only [List.mem_map]
    constructor
    · rintro ⟨key, mem, shown⟩
      exact ⟨key, keySource valid mem, shown⟩
    · rintro ⟨c, mem, shown⟩
      obtain ⟨key, inside, same, _⟩ := valid.single c mem
      exact ⟨key, inside, (Color.beqLevels.mp same).symm.trans shown⟩

theorem countPermuted {colors others : List Color} (permuted : colors.Perm others) :
    (ofList colors).length = (ofList others).length := by
  obtain ⟨nodup, levels⟩ := keysLevels colors
  obtain ⟨nodup', levels'⟩ := keysLevels others
  have same : ((ofList colors).map Color.levels).Perm ((ofList others).map Color.levels) :=
    (List.perm_ext_iff_of_nodup nodup nodup').mpr fun shown => by
      rw [levels, levels', (permuted.map Color.levels).mem_iff]
  simpa using same.length_eq

/-- The palette of a list has as its keys what is distinct in it, each in its first form and in the
order of first appearance. A palette is its own palette; that of two lists is that of the first and
then the keys of the second that equal no color of the first; and how many keys there are does not
depend on the order of the list. Colors are equal by the numbers in their four channels, and then have
one hash. -/
theorem paletteKeepsFirst (colors others : List Color) :
    Keys colors (ofList colors) ∧
    ofList (ofList colors) = ofList colors ∧
    (ofList (colors ++ others) =
      ofList colors ++ (ofList others).filter fun key => !colors.contains key) ∧
    (colors.Perm others → (ofList colors).length = (ofList others).length) ∧
    ∀ c d : Color,
      ((c == d) = true ↔ c.red.level = d.red.level ∧ c.green.level = d.green.level ∧
        c.blue.level = d.blue.level ∧ c.alpha.level = d.alpha.level) ∧
      ((c == d) = true → hash c = hash d) := by
  have valid := keysOfList colors
  refine ⟨valid, ofListApart valid.apart, ofListAppend colors others, countPermuted,
    fun c d => ⟨?equal, Color.hashOfEqual⟩⟩
  case equal => rw [Color.beqLevels, Color.levelsSame]

example : ofList [⟨.int 300, .int 0, .int (-1), .flag true⟩, ⟨.int 300, .int 0, .int (-1), .int 1⟩] =
    [⟨.int 300, .int 0, .int (-1), .flag true⟩] := rfl

end Palette
end BufferColor
