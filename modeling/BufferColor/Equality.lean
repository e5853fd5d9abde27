import BufferColor.Value

/-! When two values are equal, and when they have one hash. Numbers are equal by what they count as,
of whatever kind they are, and colors by their levels; a value of one kind never equals one of
another otherwise. A value that can change, or holds one that can, has no hash. -/
namespace BufferColor
namespace Value

def integer : Value → Option Int
  | bool b => some (Channel.flag b).level
  | int n => some n
  | float d => d.integer
  | _ => none

def sameNumber (a b : Value) : Bool :=
  match a.integer, b.integer with
  | some m, some n => m == n
  | none, none => match a, b with
    | float d, float e => d == e && d != .nan
    | _, _ => false
  | _, _ => false

mutual

def same : Value → Value → Bool
  | null, null => true
  | text s, text t => s == t
  | octets a, octets b => a == b
  | tuple a, tuple b => sameItems a b
  | list a, list b => sameItems a b
  | table a, table b => a.length == b.length && sameEntries a b
  | color c, color d => c == d
  | a, b => sameNumber a b

def sameItems : List Value → List Value → Bool
  | [], [] => true
  | a :: as, b :: bs => same a b && sameItems as bs
  | _, _ => false

def sameEntries : List (Value × Value) → List (Value × Value) → Bool
  | [], _ => true
  | entry :: rest, others => sameEntry entry others && sameEntries rest others

def sameEntry : Value × Value → List (Value × Value) → Bool
  | (key, value), others => others.any fun other => same key other.1 && same value other.2

end

def put (entries : List (Value × Value)) (key value : Value) : List (Value × Value) :=
  if entries.any fun entry => same entry.1 key then
    entries.map fun entry => if same entry.1 key then (entry.1, value) else entry
  else entries ++ [(key, value)]

def ofEntries (entries : List (Value × Value)) : Value :=
  table (entries.foldl (fun filled entry => put filled entry.1 entry.2) [])

inductive Mutable where
  | list
  | table
  deriving DecidableEq, Repr

namespace Mutable

def name : Mutable → String
  | list => "list"
  | table => "dict"

def message (kind : Mutable) : String := "unhashable type: '" ++ kind.name ++ "'"

end Mutable

mutual

def hashCode : Value → Except Mutable UInt64
  | list _ => .error .list
  | table _ => .error .table
  | tuple items => (hashCodes items).map hash
  | color c => .ok (hash c)
  | value => match value.integer with
    | some n => .ok (hash (String.ofList (Numeral.decimal n)))
    | none => .ok (hash (String.ofList value.written))

def hashCodes : List Value → Except Mutable (List UInt64)
  | [] => .ok []
  | item :: rest => do
      let head ← hashCode item
      let tail ← hashCodes rest
      .ok (head :: tail)

end

/- A value with a nan in it differs from itself, and shares its hash with no other. -/
def sharesHash (a b : Value) : Except Mutable Bool := do
  let left ← a.hashCode
  let right ← b.hashCode
  .ok (a.same a && left == right)

end Value
end BufferColor
