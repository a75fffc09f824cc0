import FlatProjection.Expr.Basic
import FlatProjection.Json.Decode
/-
The JSON form of types and expressions: variants tagged by name, structures as objects.
-/

namespace FlatProjection

open Json

/-- The JSON form of a collection kind. -/
def CollectionKind.toJson (kind : CollectionKind) : Json := .str kind.name

/-- Reads a collection kind. -/
def CollectionKind.decode : Decoder CollectionKind := fun doc => do
  let (tag, content) ← variantOf doc
  match tag with
  | "Set" => unitContent content *> pure .set
  | "List" => unitContent content *> pure .list
  | other => throw (unknownVariant other ["Set", "List"])

namespace ValueType

mutual

/-- The JSON form of a type. -/
def toJson : ValueType → Json
  | .int => .str "Int"
  | .float => .str "Float"
  | .bool => .str "Bool"
  | .text => .str "Text"
  | .object => .str "Object"
  | .entity name => .obj [("Entity", .str name)]
  | .collection kind element =>
    .obj [("Collection", .obj [("kind", kind.toJson), ("element", toJson element)])]
  | .sequence element => .obj [("Sequence", toJson element)]
  | .record name members =>
    .obj [("Record", .obj [("name", (name.map Json.str).getD .null),
      ("members", .arr (membersJson members))])]
  | .tuple items => .obj [("Tuple", .arr (itemsJson items))]
  | .grouping key element =>
    .obj [("Grouping", .obj [("key", toJson key), ("element", toJson element)])]

/-- The JSON forms of a list of types. -/
def itemsJson : List ValueType → List Json
  | [] => []
  | t :: rest => toJson t :: itemsJson rest

/-- The JSON forms of record members, `{"name", "ty"}` each. -/
def membersJson : List (String × ValueType) → List Json
  | [] => []
  | (n, t) :: rest => .obj [("name", .str n), ("ty", toJson t)] :: membersJson rest

end

/-- The variant names of types, in declared order. -/
def variantNames : List String :=
  ["Int", "Float", "Bool", "Text", "Object", "Entity", "Collection", "Sequence", "Record",
    "Tuple", "Grouping"]

/-- Reads a record member `{"name", "ty"}` with the given reader of its type. -/
def decodeMember (ty : Decoder ValueType) : Decoder (String × ValueType) :=
  decodeStructure "RecordMember" ["name", "ty"] fun fields => do
    let n := readField fields "name" Decoder.string
    let t := readField fields "ty" ty
    firstFailure fields [("name", n.failure?), ("ty", t.failure?)]
    return ((← n.need "name"), (← t.need "ty"))

/-- Reads a type; `fuel` bounds the nesting and is spent one level at a time. -/
def decodeWith : Nat → Decoder ValueType
  | 0, _ => .error (.message "recursion limit exceeded")
  | fuel + 1, doc => do
    let (tag, content) ← variantOf doc
    match tag with
    | "Int" => unitContent content *> pure .int
    | "Float" => unitContent content *> pure .float
    | "Bool" => unitContent content *> pure .bool
    | "Text" => unitContent content *> pure .text
    | "Object" => unitContent content *> pure .object
    | "Entity" => return .entity (← newtypeContent Decoder.string content)
    | "Collection" => structContent (fun members => do
        let kind := readField members "kind" CollectionKind.decode
        let element := readField members "element" (decodeWith fuel)
        firstFailure members [("kind", kind.failure?), ("element", element.failure?)]
        return .collection (← kind.need "kind") (← element.need "element")) content
    | "Sequence" => return .sequence (← newtypeContent (decodeWith fuel) content)
    | "Record" => newtypeContent (decodeStructure "RecordType" ["name", "members"]
        (fun members => do
          let name := readField members "name" (Decoder.option Decoder.string)
          let memberList := readField members "members"
            (Decoder.list (decodeMember (decodeWith fuel)))
          firstFailure members [("name", name.failure?), ("members", memberList.failure?)]
          return .record (← name.orNone) (← memberList.need "members"))) content
    | "Tuple" => newtypeContent (fun items => do
        let tys ← Decoder.list (decodeWith fuel) items
        match tupleOf tys with
        | .ok t => return t
        | .error e => throw (.message e.message)) content
    | "Grouping" => structContent (fun members => do
        let key := readField members "key" (decodeWith fuel)
        let element := readField members "element" (decodeWith fuel)
        firstFailure members [("key", key.failure?), ("element", element.failure?)]
        return .grouping (← key.need "key") (← element.need "element")) content
    | other => throw (unknownVariant other variantNames)

/-- Reads a type. -/
def decode : Decoder ValueType := fun doc => decodeWith (doc.depth + 1) doc

/-- Reads the items of a tuple type, which must have an allowed arity. -/
def decodeTupleItems (fuel : Nat) : Decoder (List ValueType) := fun doc => do
  let tys ← Decoder.list (decodeWith fuel) doc
  match checkArity tys.length tupleArityRange.1 tupleArityRange.2 with
  | .ok () => return tys
  | .error e => throw (.message e.message)

end ValueType

/-- The JSON form of a parameter. -/
def Param.toJson (p : Param) : Json := .obj [("name", .str p.name), ("ty", p.ty.toJson)]

/-- Reads a parameter. -/
def Param.decodeWith (fuel : Nat) : Decoder Param :=
  decodeStructure "Parameter" ["name", "ty"] fun members => do
    let name := readField members "name" Decoder.string
    let ty := readField members "ty" (ValueType.decodeWith fuel)
    firstFailure members [("name", name.failure?), ("ty", ty.failure?)]
    return ⟨← name.need "name", ← ty.need "ty"⟩

/-- The JSON form of a record type. -/
def RecordType.toJson (r : RecordType) : Json :=
  match (ValueType.ofRecord r).toJson with
  | .obj [(_, content)] => content
  | other => other

/-- Reads a record type. -/
def RecordType.decodeWith (fuel : Nat) : Decoder RecordType := fun doc => do
  match ← ValueType.decodeWith (fuel + 1) (.obj [("Record", doc)]) with
  | .record name members => return ⟨name, members⟩
  | _ => throw (.message "expected a record type")

/-- The JSON form of a constant. -/
def Literal.toJson : Literal → Json
  | .null => .str "Null"
  | .int n => .obj [("Int", .int n)]
  | .float x => .obj [("Float", .float x)]
  | .bool b => .obj [("Bool", .bool b)]
  | .text s => .obj [("Text", .str s)]

/-- Reads a constant. -/
def Literal.decode : Decoder Literal := fun doc => do
  let (tag, content) ← variantOf doc
  match tag with
  | "Null" => unitContent content *> pure .null
  | "Int" => return .int (← newtypeContent Decoder.int64 content)
  | "Float" => return .float (← newtypeContent Decoder.float content)
  | "Bool" => return .bool (← newtypeContent Decoder.bool content)
  | "Text" => return .text (← newtypeContent Decoder.string content)
  | other => throw (unknownVariant other ["Null", "Int", "Float", "Bool", "Text"])

namespace Expr

/-- A lambda's JSON form: `{"param", "body"}`. -/
def lambdaJson (p : Param) (body : Json) : Json := .obj [("param", p.toJson), ("body", body)]

mutual

/-- The JSON form of an expression. Sequence operations are tagged twice:
`{"Sequence": {"Cast": …}}`. -/
def toJson : Expr → Json
  | .querySource ref => .obj [("QuerySource", .obj [("id", .int ref.id),
      ("name", .str ref.name), ("item_type", .str ref.itemType)])]
  | .memberAccess target name ty => .obj [("Member", .obj [("target", toJson target),
      ("member", .str name), ("ty", ty.toJson)])]
  | .new r args => .obj [("New", .obj [("ty", r.toJson), ("args", .arr (listJson args))])]
  | .memberInit r ctorArgs bindings => .obj [("MemberInit", .obj [("ty", r.toJson),
      ("ctor_args", .arr (listJson ctorArgs)), ("bindings", .arr (bindingsJson bindings))])]
  | .parameter p => .obj [("Parameter", p.toJson)]
  | .literal lit => .obj [("Literal", lit.toJson)]
  | .convert operand ty => .obj [("Convert", .obj [("operand", toJson operand),
      ("ty", ty.toJson)])]
  | .rowIndex row index => .obj [("RowIndex", .obj [("row", toJson row), ("index", .int index)])]
  | .tupleItem tuple index ty => .obj [("TupleItem", .obj [("tuple", toJson tuple),
      ("index", .int index), ("ty", ty.toJson)])]
  | .mkTuple ty items => .obj [("Tuple", .obj [("ty", .arr (ValueType.itemsJson ty)),
      ("items", .arr (listJson items))])]
  | .groupKey group => .obj [("GroupKey", toJson group)]
  | .cast source element => .obj [("Sequence", .obj [("Cast", .obj [("source", toJson source),
      ("element", element.toJson)])])]
  | .groupBy source keyParam key valueParam value => .obj [("Sequence", .obj [("GroupBy",
      .obj [("source", toJson source), ("key", lambdaJson keyParam (toJson key)),
        ("value", lambdaJson valueParam (toJson value))])])]
  | .select source p body => .obj [("Sequence", .obj [("Select", .obj [("source", toJson source),
      ("selector", lambdaJson p (toJson body))])])]
  | .toArray source => .obj [("Sequence", .obj [("ToArray", .obj [("source", toJson source)])])]
  | .newCollection kind element source => .obj [("Sequence", .obj [("NewCollection",
      .obj [("kind", kind.toJson), ("element", element.toJson), ("source", toJson source)])])]

/-- The JSON forms of a list of expressions. -/
def listJson : List Expr → List Json
  | [] => []
  | e :: rest => toJson e :: listJson rest

/-- The JSON forms of member bindings, `{"member", "expr"}` each. -/
def bindingsJson : List (String × Expr) → List Json
  | [] => []
  | (m, e) :: rest => .obj [("member", .str m), ("expr", toJson e)] :: bindingsJson rest

end

/-- The variant names of expressions, in declared order. -/
def variantNames : List String :=
  ["QuerySource", "Member", "New", "MemberInit", "Parameter", "Literal", "Convert", "RowIndex",
    "TupleItem", "Tuple", "GroupKey", "Sequence"]

/-- The variant names of sequence operations, in declared order. -/
def sequenceVariantNames : List String := ["Cast", "GroupBy", "Select", "ToArray", "NewCollection"]

/-- Reads a lambda `{"param", "body"}` with the given body reader. -/
def decodeLambda (fuel : Nat) (body : Decoder Expr) : Decoder (Param × Expr) :=
  decodeStructure "Lambda" ["param", "body"] fun members => do
    let p := readField members "param" (Param.decodeWith fuel)
    let b := readField members "body" body
    firstFailure members [("param", p.failure?), ("body", b.failure?)]
    return (← p.need "param", ← b.need "body")

/-- Reads a sequence operation, the content of `{"Sequence": …}`; `sub` reads the nested
expressions. -/
def decodeSequenceOp (fuel : Nat) (sub : Decoder Expr) : Decoder Expr := fun op => do
  let (tag, content) ← variantOf op
  match tag with
  | "Cast" => structContent (fun members => do
      let source := readField members "source" sub
      let element := readField members "element" (ValueType.decodeWith fuel)
      firstFailure members [("source", source.failure?), ("element", element.failure?)]
      return .cast (← source.need "source") (← element.need "element")) content
  | "GroupBy" => structContent (fun members => do
      let source := readField members "source" sub
      let key := readField members "key" (decodeLambda fuel sub)
      let value := readField members "value" (decodeLambda fuel sub)
      firstFailure members [("source", source.failure?), ("key", key.failure?),
        ("value", value.failure?)]
      let src ← source.need "source"
      let (keyParam, keyBody) ← key.need "key"
      let (valueParam, valueBody) ← value.need "value"
      return .groupBy src keyParam keyBody valueParam valueBody) content
  | "Select" => structContent (fun members => do
      let source := readField members "source" sub
      let selector := readField members "selector" (decodeLambda fuel sub)
      firstFailure members [("source", source.failure?), ("selector", selector.failure?)]
      let src ← source.need "source"
      let (p, body) ← selector.need "selector"
      return .select src p body) content
  | "ToArray" => structContent (fun members => do
      let source := readField members "source" sub
      firstFailure members [("source", source.failure?)]
      return .toArray (← source.need "source")) content
  | "NewCollection" => structContent (fun members => do
      let kind := readField members "kind" CollectionKind.decode
      let element := readField members "element" (ValueType.decodeWith fuel)
      let source := readField members "source" sub
      firstFailure members [("kind", kind.failure?), ("element", element.failure?),
        ("source", source.failure?)]
      return .newCollection (← kind.need "kind") (← element.need "element")
        (← source.need "source")) content
  | other => throw (unknownVariant other sequenceVariantNames)

/-- Reads a query source reference `{"id", "name", "item_type"}`. -/
def decodeSourceRef : Decoder SourceRef :=
  decodeStructure "QuerySourceRef" ["id", "name", "item_type"] fun members => do
    let id := readField members "id" Decoder.uint32
    let name := readField members "name" Decoder.string
    let itemType := readField members "item_type" Decoder.string
    firstFailure members [("id", id.failure?), ("name", name.failure?),
      ("item_type", itemType.failure?)]
    return ⟨← id.need "id", ← name.need "name", ← itemType.need "item_type"⟩

/-- Reads a member access `{"target", "member", "ty"}`. -/
def decodeMemberAccess (fuel : Nat) (sub : Decoder Expr) : Decoder Expr :=
  decodeStructure "MemberAccess" ["target", "member", "ty"] fun members => do
    let target := readField members "target" sub
    let member := readField members "member" Decoder.string
    let ty := readField members "ty" (ValueType.decodeWith fuel)
    firstFailure members [("target", target.failure?), ("member", member.failure?),
      ("ty", ty.failure?)]
    return .memberAccess (← target.need "target") (← member.need "member") (← ty.need "ty")

/-- Reads a record construction `{"ty", "args"}`. -/
def decodeNew (fuel : Nat) (sub : Decoder Expr) : Decoder Expr :=
  decodeStructure "NewRecord" ["ty", "args"] fun members => do
    let ty := readField members "ty" (RecordType.decodeWith fuel)
    let args := readField members "args" (Decoder.list sub)
    firstFailure members [("ty", ty.failure?), ("args", args.failure?)]
    return .new (← ty.need "ty") (← args.need "args")

/-- Reads a member binding `{"member", "expr"}`. -/
def decodeBinding (sub : Decoder Expr) : Decoder (String × Expr) :=
  decodeStructure "MemberBinding" ["member", "expr"] fun fields => do
    let m := readField fields "member" Decoder.string
    let e := readField fields "expr" sub
    firstFailure fields [("member", m.failure?), ("expr", e.failure?)]
    return (← m.need "member", ← e.need "expr")

/-- Reads a construction with bindings `{"ty", "ctor_args", "bindings"}`. -/
def decodeMemberInit (fuel : Nat) (sub : Decoder Expr) : Decoder Expr :=
  decodeStructure "MemberInit" ["ty", "ctor_args", "bindings"] fun members => do
    let ty := readField members "ty" (RecordType.decodeWith fuel)
    let ctorArgs := readField members "ctor_args" (Decoder.list sub)
    let bindings := readField members "bindings" (Decoder.list (decodeBinding sub))
    firstFailure members [("ty", ty.failure?), ("ctor_args", ctorArgs.failure?),
      ("bindings", bindings.failure?)]
    return .memberInit (← ty.need "ty") (← ctorArgs.need "ctor_args") (← bindings.need "bindings")

/-- Reads a tuple construction `{"ty", "items"}`. -/
def decodeTuple (fuel : Nat) (sub : Decoder Expr) : Decoder Expr :=
  decodeStructure "TupleExpr" ["ty", "items"] fun members => do
    let ty := readField members "ty" (ValueType.decodeTupleItems fuel)
    let items := readField members "items" (Decoder.list sub)
    firstFailure members [("ty", ty.failure?), ("items", items.failure?)]
    return .mkTuple (← ty.need "ty") (← items.need "items")

/-- Reads an expression; `fuel` bounds the nesting and is spent one level at a time. -/
def decodeWith : Nat → Decoder Expr
  | 0, _ => .error (.message "recursion limit exceeded")
  | fuel + 1, doc => do
    let (tag, content) ← variantOf doc
    let sub := decodeWith fuel
    match tag with
    | "QuerySource" => return .querySource (← newtypeContent decodeSourceRef content)
    | "Member" => newtypeContent (decodeMemberAccess fuel sub) content
    | "New" => newtypeContent (decodeNew fuel sub) content
    | "MemberInit" => newtypeContent (decodeMemberInit fuel sub) content
    | "Parameter" => return .parameter (← newtypeContent (Param.decodeWith fuel) content)
    | "Literal" => return .literal (← newtypeContent Literal.decode content)
    | "Convert" => structContent (fun members => do
        let operand := readField members "operand" sub
        let ty := readField members "ty" (ValueType.decodeWith fuel)
        firstFailure members [("operand", operand.failure?), ("ty", ty.failure?)]
        return .convert (← operand.need "operand") (← ty.need "ty")) content
    | "RowIndex" => structContent (fun members => do
        let row := readField members "row" sub
        let index := readField members "index" Decoder.index
        firstFailure members [("row", row.failure?), ("index", index.failure?)]
        return .rowIndex (← row.need "row") (← index.need "index")) content
    | "TupleItem" => structContent (fun members => do
        let tuple := readField members "tuple" sub
        let index := readField members "index" Decoder.index
        let ty := readField members "ty" (ValueType.decodeWith fuel)
        firstFailure members [("tuple", tuple.failure?), ("index", index.failure?),
          ("ty", ty.failure?)]
        return .tupleItem (← tuple.need "tuple") (← index.need "index") (← ty.need "ty")) content
    | "Tuple" => newtypeContent (decodeTuple fuel sub) content
    | "GroupKey" => return .groupKey (← newtypeContent sub content)
    | "Sequence" => newtypeContent (decodeSequenceOp fuel sub) content
    | other => throw (unknownVariant other variantNames)

/-- Reads an expression. -/
def decode : Decoder Expr := fun doc => decodeWith (doc.depth + 1) doc

end Expr

end FlatProjection
