/-
Types of projected values: scalars, catalog entities, collections and lazy sequences,
records (anonymous or named), tuples of two to six items, and groupings of elements under a
key. Text, collections, sequences and groupings can be enumerated; all but text are
collections.
-/

namespace FlatProjection

/-- The two concrete collections: without duplicates, or in order with duplicates. -/
inductive CollectionKind where
  | set
  | list
deriving DecidableEq, Inhabited, Repr

/-- The name of a collection kind. -/
def CollectionKind.name : CollectionKind → String
  | .set => "Set"
  | .list => "List"

/-- The type of a projected value. -/
inductive ValueType where
  | int
  | float
  | bool
  | text
  | object
  | entity (name : String)
  | collection (kind : CollectionKind) (element : ValueType)
  | sequence (element : ValueType)
  | record (name : Option String) (members : List (String × ValueType))
  | tuple (items : List ValueType)
  | grouping (key element : ValueType)
deriving Inhabited

/-- A record type: an optional name and named members in order. -/
structure RecordType where
  name : Option String
  members : List (String × ValueType)
deriving Inhabited

/-- The fewest and the most items a tuple may have. -/
def tupleArityRange : Nat × Nat := (2, 6)

/-- A tuple with an arity outside the allowed range. -/
structure ArityError where
  arity : Nat
  least : Nat
  most : Nat
deriving DecidableEq, Inhabited, Repr

/-- The message of an arity failure. -/
def ArityError.message (e : ArityError) : String :=
  s!"Unsupported arity {e.arity}: supported arities are {e.least} through {e.most}"

/-- Checks that `count` lies within `least … most`. -/
def checkArity (count least most : Nat) : Except ArityError Unit :=
  if least ≤ count && count ≤ most then .ok () else .error ⟨count, least, most⟩

namespace ValueType

mutual

/-- Structural equality of types. -/
def beq : ValueType → ValueType → Bool
  | .int, .int | .float, .float | .bool, .bool | .text, .text | .object, .object => true
  | .entity a, .entity b => a == b
  | .collection k1 e1, .collection k2 e2 => k1 == k2 && beq e1 e2
  | .sequence e1, .sequence e2 => beq e1 e2
  | .record n1 m1, .record n2 m2 => n1 == n2 && membersBeq m1 m2
  | .tuple i1, .tuple i2 => itemsBeq i1 i2
  | .grouping k1 e1, .grouping k2 e2 => beq k1 k2 && beq e1 e2
  | _, _ => false

/-- Structural equality of type lists. -/
def itemsBeq : List ValueType → List ValueType → Bool
  | [], [] => true
  | a :: as, b :: bs => beq a b && itemsBeq as bs
  | _, _ => false

/-- Structural equality of record member lists. -/
def membersBeq : List (String × ValueType) → List (String × ValueType) → Bool
  | [], [] => true
  | (n1, t1) :: as, (n2, t2) :: bs => n1 == n2 && beq t1 t2 && membersBeq as bs
  | _, _ => false

end

instance : BEq ValueType := ⟨beq⟩

/-- The tuple type of the given items, if their number is an allowed arity. -/
def tupleOf (items : List ValueType) : Except ArityError ValueType := do
  checkArity items.length tupleArityRange.1 tupleArityRange.2
  return .tuple items

/-- The record type as a value type. -/
def ofRecord (r : RecordType) : ValueType := .record r.name r.members

/-- Text, collections, sequences and groupings. -/
def isEnumerable : ValueType → Bool
  | .text | .collection .. | .sequence _ | .grouping .. => true
  | _ => false

/-- Enumerable types other than text. -/
def isCollection (t : ValueType) : Bool := t.isEnumerable && t != .text

/-- The element type of a collection, sequence or grouping. -/
def elementType? : ValueType → Option ValueType
  | .collection _ element | .sequence element | .grouping _ element => some element
  | _ => none

/-- The kind of a concrete collection. -/
def collectionKind? : ValueType → Option CollectionKind
  | .collection kind _ => some kind
  | _ => none

mutual

/-- The written form of a type: `Int`, `Order`, `Set<Order>`, `Seq<T>`, `Grouping<K, E>`,
`Tuple<A, B>`, `{ a: Int }` or `W { a: Int }`. -/
def render : ValueType → String
  | .int => "Int"
  | .float => "Float"
  | .bool => "Bool"
  | .text => "Text"
  | .object => "Object"
  | .entity name => name
  | .collection kind element => kind.name ++ "<" ++ render element ++ ">"
  | .sequence element => "Seq<" ++ render element ++ ">"
  | .record name members =>
    let body := "\x7b " ++ membersText members ++ " \x7d"
    match name with
    | some n => n ++ " " ++ body
    | none => body
  | .tuple items => "Tuple<" ++ itemsText items ++ ">"
  | .grouping key element => "Grouping<" ++ render key ++ ", " ++ render element ++ ">"

/-- Types separated by commas. -/
def itemsText : List ValueType → String
  | [] => ""
  | [t] => render t
  | t :: rest => render t ++ ", " ++ itemsText rest

/-- Record members `name: Type` separated by commas. -/
def membersText : List (String × ValueType) → String
  | [] => ""
  | [(n, t)] => n ++ ": " ++ render t
  | (n, t) :: rest => n ++ ": " ++ render t ++ ", " ++ membersText rest

end

end ValueType

/-- The written form of a record type. -/
def RecordType.render (r : RecordType) : String := (ValueType.ofRecord r).render

end FlatProjection
