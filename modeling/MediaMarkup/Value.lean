import MediaMarkup.Entries
import MediaMarkup.Number.Binary64

/-!
Structured data: what the properties of a structured attribute hold. Objects keep their members in
order. Equality is that of the data: numbers compare by what they stand for, truth values count as
one and zero, and the order of an object's members does not matter.
-/

namespace MediaMarkup

inductive Value
  | null
  | boolean (b : Bool)
  | integer (n : Int)
  | float (x : Binary64)
  | text (s : String)
  | list (items : List Value)
  | object (members : List (String × Value))
  deriving Repr

namespace Value

/-- The integer that a value counts as. -/
def toInt? : Value → Option Int
  | .boolean b => some (if b then 1 else 0)
  | .integer n => some n
  | _ => none

def sameNumber (a b : Value) : Bool :=
  match a.toInt?, b.toInt?, a, b with
  | some m, some n, _, _ => m == n
  | some m, none, _, .float y => y.sameInt m
  | none, some n, .float x, _ => x.sameInt n
  | _, _, .float x, .float y => x.same y
  | _, _, _, _ => false

mutual

def same : Value → Value → Bool
  | .null, .null => true
  | .text s, .text t => s == t
  | .list items, .list items' => sameItems items items'
  | .object members, .object members' =>
    members.length == members'.length && sameMembers members members'
  | a, b => sameNumber a b

def sameItems : List Value → List Value → Bool
  | [], [] => true
  | item :: rest, item' :: rest' => same item item' && sameItems rest rest'
  | _, _ => false

/-- Every member on the left has an equal one of its name on the right. -/
def sameMembers : List (String × Value) → List (String × Value) → Bool
  | [], _ => true
  | (name, value) :: rest, members' =>
    (match Entries.get? name members' with
      | some value' => same value value'
      | none => false) && sameMembers rest members'

end

end Value

end MediaMarkup
