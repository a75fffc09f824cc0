import FlatProjection.Expr.Basic
/-
Equality of expressions: query sources compare by id, float constants by value.
-/

namespace FlatProjection

/-- Equality of parameters: name and type. -/
def Param.beq (a b : Param) : Bool := a.name == b.name && a.ty == b.ty

/-- Equality of record types: name and members. -/
def RecordType.beq (a b : RecordType) : Bool := a.name == b.name && ValueType.membersBeq a.members b.members

/-- Equality of constants; floats compare by value. -/
def Literal.beq : Literal → Literal → Bool
  | .null, .null => true
  | .int a, .int b => a == b
  | .float a, .float b => a.sameValue b
  | .bool a, .bool b => a == b
  | .text a, .text b => a == b
  | _, _ => false

namespace Expr

mutual

/-- Equality of expressions. -/
def beq : Expr → Expr → Bool
  | .querySource a, .querySource b => a.id == b.id
  | .memberAccess t1 m1 ty1, .memberAccess t2 m2 ty2 => beq t1 t2 && m1 == m2 && ty1 == ty2
  | .new r1 a1, .new r2 a2 => r1.beq r2 && listBeq a1 a2
  | .memberInit r1 c1 b1, .memberInit r2 c2 b2 => r1.beq r2 && listBeq c1 c2 && bindingsBeq b1 b2
  | .parameter a, .parameter b => a.beq b
  | .literal a, .literal b => a.beq b
  | .convert o1 t1, .convert o2 t2 => beq o1 o2 && t1 == t2
  | .rowIndex r1 i1, .rowIndex r2 i2 => beq r1 r2 && i1 == i2
  | .tupleItem t1 i1 ty1, .tupleItem t2 i2 ty2 => beq t1 t2 && i1 == i2 && ty1 == ty2
  | .mkTuple ty1 i1, .mkTuple ty2 i2 => ValueType.itemsBeq ty1 ty2 && listBeq i1 i2
  | .groupKey a, .groupKey b => beq a b
  | .cast s1 e1, .cast s2 e2 => beq s1 s2 && e1 == e2
  | .groupBy s1 kp1 k1 vp1 v1, .groupBy s2 kp2 k2 vp2 v2 =>
    beq s1 s2 && kp1.beq kp2 && beq k1 k2 && vp1.beq vp2 && beq v1 v2
  | .select s1 p1 b1, .select s2 p2 b2 => beq s1 s2 && p1.beq p2 && beq b1 b2
  | .toArray a, .toArray b => beq a b
  | .newCollection k1 e1 s1, .newCollection k2 e2 s2 => k1 == k2 && e1 == e2 && beq s1 s2
  | _, _ => false

/-- Equality of expression lists, item by item. -/
def listBeq : List Expr → List Expr → Bool
  | [], [] => true
  | a :: as, b :: bs => beq a b && listBeq as bs
  | _, _ => false

/-- Equality of member bindings, in order. -/
def bindingsBeq : List (String × Expr) → List (String × Expr) → Bool
  | [], [] => true
  | (m1, a) :: as, (m2, b) :: bs => m1 == m2 && beq a b && bindingsBeq as bs
  | _, _ => false

end

instance : BEq Expr := ⟨beq⟩

end Expr

end FlatProjection
