import BufferColor.Proofs.Description
import BufferColor.Proofs.HexPlaces
import BufferColor.Proofs.QuotedText
import BufferColor.Value

/-! The written form of plain data is read in one way only. The first character tells the kind of a
value; a number ends where no digit follows, a quotation at its mark, and a sequence at its bracket,
since no item begins with one. So two values that are written alike are the same at every level. -/
namespace BufferColor

/- Behind a number, what can stand there without being taken for a part of it. -/
def Ends (cs : List Char) : Prop := ∀ c ∈ cs.head?, c ≠ '-' ∧ c.isDigit = false

theorem endsNil : Ends [] := nofun

theorem endsCons {c : Char} {rest : List Char} : Ends (c :: rest) ↔ c ≠ '-' ∧ c.isDigit = false := by
  simp [Ends]

namespace Numeral

def isNumeral (c : Char) : Bool := c == '-' || c.isDigit

theorem decimalNumeral (n : Int) : ∀ c ∈ decimal n, isNumeral c = true := by
  intro c mem
  rcases decimalChars n c mem with sign | digit
  · simp [isNumeral, sign]
  · simp [isNumeral, digit]

theorem decimalFront {n : Int} {rest : List Char} (ends : Ends rest) :
    (decimal n ++ rest).takeWhile isNumeral = decimal n := by
  rw [List.takeWhile_append_of_pos (decimalNumeral n)]
  cases rest with
  | nil => simp
  | cons c rest =>
    obtain ⟨noSign, noDigit⟩ := endsCons.mp ends
    simp [isNumeral, noSign, noDigit]

theorem decimalEnds {m n : Int} {rest rest' : List Char} (ends : Ends rest) (ends' : Ends rest')
    (same : decimal m ++ rest = decimal n ++ rest') : m = n ∧ rest = rest' := by
  have numbers := congrArg (List.takeWhile isNumeral) same
  rw [decimalFront ends, decimalFront ends'] at numbers
  rw [numbers] at same
  exact ⟨decimalInjective numbers, List.append_cancel_left same⟩

end Numeral

namespace Value

inductive Plain : Value → Prop where
  | null : Plain .null
  | bool (b : Bool) : Plain (.bool b)
  | int (n : Int) : Plain (.int n)
  | text (s : String) : Plain (.text s)
  | octets (bytes : List UInt8) : Plain (.octets bytes)
  | tuple {items : List Value} (all : ∀ item ∈ items, Plain item) : Plain (.tuple items)
  | list {items : List Value} (all : ∀ item ∈ items, Plain item) : Plain (.list items)

def behind (items : List Value) : List Char := items.flatMap fun item => comma ++ item.written

theorem behindMore (item : Value) (items : List Value) (rest : List Char) :
    behind (item :: items) ++ rest = comma ++ (item.written ++ (behind items ++ rest)) := by
  simp only [behind, List.flatMap_cons, List.append_assoc]

theorem sequenceBehind (item : Value) (rest : List Value) :
    sequence (item :: rest) = item.written ++ behind rest := by
  induction rest generalizing item with
  | nil => exact (List.append_nil _).symm
  | cons next rest ih =>
    have more : sequence (item :: next :: rest) = item.written ++ comma ++ sequence (next :: rest) := rfl
    have split := behindMore next rest []
    rw [List.append_nil, List.append_nil] at split
    rw [more, ih, split, List.append_assoc]

def listTail (items : List Value) : List Char := behind items ++ [']']

def tupleTail : List Value → List Char
  | [] => [',', ')']
  | items => behind items ++ [')']

def inside (close : Char) (tail : List Value → List Char) : List Value → List Char
  | [] => [close]
  | item :: rest => item.written ++ tail rest

theorem listInside (items : List Value) : (list items).written = '[' :: inside ']' listTail items := by
  cases items with
  | nil => rfl
  | cons item rest =>
    change '[' :: sequence (item :: rest) ++ [']'] = _
    rw [sequenceBehind, List.cons_append, List.append_assoc]
    rfl

theorem tupleInside (items : List Value) : (tuple items).written = '(' :: inside ')' tupleTail items := by
  cases items with
  | nil => rfl
  | cons item rest =>
    cases rest with
    | nil => rfl
    | cons next rest =>
      change '(' :: sequence (item :: next :: rest) ++ [')'] = _
      rw [sequenceBehind, List.cons_append, List.append_assoc]
      rfl

inductive Kind where
  | null
  | truth (b : Bool)
  | number
  | text
  | octets
  | tuple
  | list

def kindOf? (c : Char) : Option Kind :=
  if c = 'N' then some .null else if c = 'T' then some (.truth true)
  else if c = 'F' then some (.truth false) else if c = 'b' then some .octets
  else if c = '(' then some .tuple else if c = '[' then some .list
  else if c = Quoted.apostrophe ∨ c = Quoted.doubleQuote then some .text
  else if Numeral.isNumeral c then some .number
  else none

def kind? : Value → Option Kind
  | null => some .null
  | bool b => some (.truth b)
  | int _ => some .number
  | text _ => some .text
  | octets _ => some .octets
  | tuple _ => some .tuple
  | list _ => some .list
  | _ => none

theorem numeralKind {c : Char} (numeral : Numeral.isNumeral c = true) : kindOf? c = some .number := by
  have other (d : Char) (unlike : Numeral.isNumeral d = false) : c ≠ d := by
    rintro rfl
    rw [numeral] at unlike
    contradiction
  simp [kindOf?, numeral, other 'N' rfl, other 'T' rfl, other 'F' rfl, other 'b' rfl, other '(' rfl,
    other '[' rfl, other Quoted.apostrophe rfl, other Quoted.doubleQuote rfl]

theorem markKind {c : Char} (isMark : Quoted.IsMark c) : kindOf? c = some .text := by
  rcases isMark with rfl | rfl <;> rfl

theorem decimalStarts (n : Int) : ∃ c tail, Numeral.decimal n = c :: tail := by
  cases n with
  | ofNat n =>
    have some := Numeral.digitsPositive 10 n
    exact List.exists_cons_of_length_pos (by simpa [Numeral.decimal, Numeral.natural] using some)
  | negSucc n => exact ⟨_, _, rfl⟩

theorem writtenKind {v : Value} (plain : v.Plain) :
    ∃ c tail, v.written = c :: tail ∧ kindOf? c = v.kind? ∧ v.kind?.isSome := by
  cases plain with
  | null => exact ⟨_, _, rfl, rfl, rfl⟩
  | bool b => cases b <;> exact ⟨_, _, rfl, rfl, rfl⟩
  | int n =>
    obtain ⟨c, tail, starts⟩ := decimalStarts n
    have numeral := Numeral.decimalNumeral n c (starts ▸ List.mem_cons_self)
    exact ⟨c, tail, starts, numeralKind numeral, rfl⟩
  | text s => exact ⟨_, _, rfl, markKind (Quoted.markIsMark s.toList), rfl⟩
  | octets bytes => exact ⟨_, _, rfl, rfl, rfl⟩
  | @tuple items all =>
    rw [tupleInside]
    exact ⟨_, _, rfl, rfl, rfl⟩
  | list all => exact ⟨_, _, rfl, rfl, rfl⟩

inductive Alike : Value → Value → Prop where
  | null : Alike .null .null
  | bool (b : Bool) : Alike (.bool b) (.bool b)
  | int (m n : Int) : Alike (.int m) (.int n)
  | text (s t : String) : Alike (.text s) (.text t)
  | octets (bytes bytes' : List UInt8) : Alike (.octets bytes) (.octets bytes')
  | tuple (items items' : List Value) : Alike (.tuple items) (.tuple items')
  | list (items items' : List Value) : Alike (.list items) (.list items')

theorem kindAlike {v w : Value} (plain : v.Plain) (same : v.kind? = w.kind?) : Alike v w := by
  cases plain <;> cases w <;> cases same <;> constructor

theorem writtenAlike {v w : Value} (plain : v.Plain) (other : w.Plain) {rest rest' : List Char}
    (same : v.written ++ rest = w.written ++ rest') : Alike v w := by
  obtain ⟨c, tail, starts, kind, _⟩ := writtenKind plain
  obtain ⟨d, tail', starts', kind', _⟩ := writtenKind other
  rw [starts, starts'] at same
  obtain ⟨rfl, _⟩ := List.cons.inj same
  exact kindAlike plain (kind.symm.trans kind')

theorem plainNotFirst {v : Value} (plain : v.Plain) {c : Char} (none : kindOf? c = none)
    {rest rest' : List Char} : v.written ++ rest ≠ c :: rest' := by
  intro same
  obtain ⟨d, tail, starts, kind, some⟩ := writtenKind plain
  rw [starts] at same
  obtain ⟨rfl, _⟩ := List.cons.inj same
  rw [← kind, none] at some
  contradiction

def Told (v : Value) : Prop := ∀ {w : Value} {rest rest' : List Char}, w.Plain → Ends rest →
  Ends rest' → v.written ++ rest = w.written ++ rest' → v = w ∧ rest = rest'

def IsBracket (c : Char) : Prop := c = ')' ∨ c = ']'

theorem bracketEnds {c : Char} (bracket : IsBracket c) (rest : List Char) : Ends (c :: rest) := by
  rcases bracket with rfl | rfl <;> exact endsCons.mpr (by decide)

theorem behindEnd {close : Char} (bracket : IsBracket close) (items : List Value) (rest : List Char) :
    Ends (behind items ++ close :: rest) := by
  cases items with
  | nil => exact bracketEnds bracket rest
  | cons item items => exact endsCons.mpr (by decide)

theorem behindTold {close : Char} (bracket : IsBracket close) {as bs : List Value}
    (told : ∀ a ∈ as, a.Told) (plain : ∀ b ∈ bs, b.Plain) {rest rest' : List Char}
    (same : behind as ++ close :: rest = behind bs ++ close :: rest') : as = bs ∧ rest = rest' := by
  have noComma : close ≠ ',' := by rcases bracket with rfl | rfl <;> decide
  induction as generalizing bs with
  | nil =>
    cases bs with
    | nil => exact ⟨rfl, (List.cons.inj same).2⟩
    | cons b bs => exact absurd (List.cons.inj same).1 noComma
  | cons a as ih =>
    cases bs with
    | nil => exact absurd (List.cons.inj same).1.symm noComma
    | cons b bs =>
      obtain ⟨here, later⟩ := List.forall_mem_cons.mp told
      obtain ⟨first, others⟩ := List.forall_mem_cons.mp plain
      rw [behindMore, behindMore] at same
      obtain ⟨rfl, tails⟩ := here first (behindEnd bracket as rest) (behindEnd bracket bs rest')
        (List.append_cancel_left same)
      obtain ⟨rfl, last⟩ := ih later others tails
      exact ⟨rfl, last⟩

structure Separates (tail : List Value → List Char) : Prop where
  ends : ∀ items rest, Ends (tail items ++ rest)
  told : ∀ {as bs : List Value} {rest rest' : List Char}, (∀ a ∈ as, a.Told) → (∀ b ∈ bs, b.Plain) →
    tail as ++ rest = tail bs ++ rest' → as = bs ∧ rest = rest'

theorem listSeparates : Separates listTail := by
  refine ⟨fun items rest => ?_, fun {as bs rest rest'} told plain same => ?_⟩
  · rw [listTail, List.append_assoc]
    exact behindEnd (.inr rfl) items rest
  · simp only [listTail, List.append_assoc] at same
    exact behindTold (.inr rfl) told plain same

theorem tupleSeparates : Separates tupleTail := by
  refine ⟨fun items rest => ?_, fun {as bs rest rest'} told plain same => ?_⟩
  · cases items with
    | nil => exact endsCons.mpr (by decide)
    | cons item items => exact endsCons.mpr (by decide)
  · cases as with
    | nil =>
      cases bs with
      | nil => exact ⟨rfl, List.append_cancel_left same⟩
      | cons b bs => exact absurd (List.cons.inj (List.cons.inj same).2).1 (by decide)
    | cons a as =>
      cases bs with
      | nil => exact absurd (List.cons.inj (List.cons.inj same).2).1 (by decide)
      | cons b bs =>
        simp only [tupleTail, List.append_assoc] at same
        exact behindTold (.inl rfl) told plain same

theorem insideTold {close : Char} (bracket : IsBracket close) {tail : List Value → List Char}
    (separates : Separates tail) {as bs : List Value} (plain : ∀ a ∈ as, a.Plain)
    (told : ∀ a ∈ as, a.Told) (other : ∀ b ∈ bs, b.Plain) {rest rest' : List Char}
    (same : inside close tail as ++ rest = inside close tail bs ++ rest') : as = bs ∧ rest = rest' := by
  have none : kindOf? close = none := by rcases bracket with rfl | rfl <;> rfl
  cases as with
  | nil =>
    cases bs with
    | nil => exact ⟨rfl, List.append_cancel_left same⟩
    | cons b bs =>
      simp only [inside, List.append_assoc] at same
      exact absurd same.symm (plainNotFirst (other b List.mem_cons_self) none)
  | cons a as =>
    cases bs with
    | nil =>
      simp only [inside, List.append_assoc] at same
      exact absurd same (plainNotFirst (plain a List.mem_cons_self) none)
    | cons b bs =>
      obtain ⟨here, later⟩ := List.forall_mem_cons.mp told
      obtain ⟨first, others⟩ := List.forall_mem_cons.mp other
      simp only [inside, List.append_assoc] at same
      obtain ⟨rfl, tails⟩ := here first (separates.ends as rest) (separates.ends bs rest') same
      obtain ⟨rfl, last⟩ := separates.told later others tails
      exact ⟨rfl, last⟩

/- The induction is on the kind of data, with the items of a tuple or a list told before it. -/
theorem plainTold {v : Value} (plain : v.Plain) : v.Told := by
  induction plain with
  | null =>
    intro w rest rest' other _ _ same
    cases writtenAlike .null other same
    exact ⟨rfl, List.append_cancel_left same⟩
  | bool b =>
    intro w rest rest' other _ _ same
    cases writtenAlike (.bool b) other same
    exact ⟨rfl, List.append_cancel_left same⟩
  | int n =>
    intro w rest rest' other ends ends' same
    cases writtenAlike (.int n) other same
    obtain ⟨rfl, last⟩ := Numeral.decimalEnds ends ends' same
    exact ⟨rfl, last⟩
  | text s =>
    intro w rest rest' other _ _ same
    cases writtenAlike (.text s) other same
    obtain ⟨rfl, last⟩ := Quoted.textEnds same
    exact ⟨rfl, last⟩
  | octets bytes =>
    intro w rest rest' other _ _ same
    cases writtenAlike (.octets bytes) other same
    obtain ⟨rfl, last⟩ := Quoted.octetsEnd same
    exact ⟨rfl, last⟩
  | @tuple items all told =>
    intro w rest rest' other _ _ same
    cases writtenAlike (.tuple all) other same
    cases other with
    | tuple others =>
      rw [tupleInside, tupleInside] at same
      obtain ⟨rfl, last⟩ := insideTold (.inl rfl) tupleSeparates all told others (List.cons.inj same).2
      exact ⟨rfl, last⟩
  | @list items all told =>
    intro w rest rest' other _ _ same
    cases writtenAlike (.list all) other same
    cases other with
    | list others =>
      rw [listInside, listInside] at same
      obtain ⟨rfl, last⟩ := insideTold (.inr rfl) listSeparates all told others (List.cons.inj same).2
      exact ⟨rfl, last⟩

end Value
end BufferColor
