import PhotoCatalog.Fault
import PhotoCatalog.Number.Order

/-!
Equality and order of values.  Numbers are compared exactly across their kinds; truth values count
as 0 and 1.  Values of unlike kinds are never equal and have no order.
-/

namespace PhotoCatalog

open PhotoCatalog.Number

/-- The number that a value is, if it is one. -/
def Value.amount? : Value → Option Amount
  | .bool b => some (.int (if b then 1 else 0))
  | .int n => some (.int n)
  | .float x => some (.float x)
  | _ => none

def atomsEqual (v w : Value) : Bool :=
  match v.amount?, w.amount? with
  | some m, some n => m.compare? n == some .eq
  | none, none =>
    match v, w with
    | .null, .null => true
    | .text s, .text t => s == t
    | .bytes s, .bytes t => s == t
    | .date d, .date e => d == e
    | .moment m, .moment n => m.offset.isSome == n.offset.isSome && m.instant == n.instant
    | _, _ => false
  | _, _ => false

mutual

/-- Whether two values are equal; the order of a mapping's entries does not matter. -/
def Value.equal : Value → Value → Bool
  | .list xs, .list ys => itemsEqual xs ys
  | .map es, .map fs => es.length == fs.length && entriesIn es fs
  | .list _, _ => false
  | .map _, _ => false
  | v, w => atomsEqual v w

def itemsEqual : List Value → List Value → Bool
  | [], [] => true
  | v :: vs, w :: ws => v.equal w && itemsEqual vs ws
  | _, _ => false

/-- Whether all entries of a mapping are entries of another one. -/
def entriesIn : List (String × Value) → List (String × Value) → Bool
  | [], _ => true
  | (k, v) :: rest, fs =>
    (match fs.lookup k with
      | some w => v.equal w
      | none => false) && entriesIn rest fs

end

/-- Whether the first of two atoms is less than the second. -/
def atomLess (v w : Value) : Except Fault Bool :=
  match v.amount?, w.amount? with
  | some m, some n => .ok (m.compare? n == some .lt)
  | none, none =>
    match v, w with
    | .text s, .text t => .ok (s < t)
    | .bytes s, .bytes t => .ok (s.map UInt8.toNat < t.map UInt8.toNat)
    | .date d, .date e => .ok (d.ordinal < e.ordinal)
    | .moment m, .moment n =>
      match m.before? n with
      | some b => .ok b
      | none => .error .wrongKind
    | _, _ => .error .wrongKind
  | _, _ => .error .wrongKind

mutual

def Value.less : Value → Value → Except Fault Bool
  | .list xs, .list ys => itemsLess xs ys
  | .list _, _ => .error .wrongKind
  | v, w => atomLess v w

/-- Whether the first list is less than the second: the first unequal items decide, and a list is
less than its extensions. -/
def itemsLess : List Value → List Value → Except Fault Bool
  | [], [] => .ok false
  | [], _ :: _ => .ok true
  | _ :: _, [] => .ok false
  | v :: vs, w :: ws => if v.equal w then itemsLess vs ws else v.less w

end

end PhotoCatalog
