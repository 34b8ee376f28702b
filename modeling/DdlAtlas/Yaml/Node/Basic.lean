import DdlAtlas.Text.Letter
import DdlAtlas.Yaml.Binary
import DdlAtlas.Yaml.Moment
import DdlAtlas.Yaml.Number
import DdlAtlas.Yaml.Tag
import DdlAtlas.Yaml.Value

/-! The nodes of a settings file, and the values that they stand for. A mapping may take over the fields of
others; its own fields count more than those. A node at fault is only met when the nodes around it are
read, level by level from the outermost on. What a collection stands for is told once, when it is put
together, so that a node with many aliases is not looked through again for each of them. -/

namespace DdlAtlas.Yaml

/-- What is inside a collection: the first fault of every level, and its value if there is none. -/
structure Content where
  faults : List (Option Fault)
  value : Value

/-- A node: a scalar, whose text may be torn, a list, a mapping, or a collection of which so far only the
beginning is known. A mapping has the fields that are written, and, unless it cannot take over what it wants
to, all its fields. It may be held for a scalar. -/
inductive Node
  | scalar (tag : Tag) (text : Text) (torn : Bool)
  | list (tag : Tag) (items : List Node) (content : Content)
  | mapping (tag : Tag) (written : List (Node × Node)) (fields? : Option (List (Node × Node)))
      (held : Except Kind (Text × Bool)) (content : Content)
  | begun (tag : Tag) (isList : Bool)

namespace Node

def nothing : Node :=
  .scalar .null [] false

def tag : Node → Tag
  | .scalar tag .. | .list tag .. | .mapping tag .. | .begun tag _ => tag

def kind : Node → Kind
  | .scalar .. => .scalar
  | .list .. => .list
  | .mapping .. => .mapping
  | .begun _ isList => if isList then .list else .mapping

def isScalar (tag : Tag) : Node → Bool
  | .scalar t _ _ => t == tag
  | _ => false

def asKey : Node → Node
  | .scalar .standIn t torn => .scalar .text t torn
  | n => n

def mappingFields? : Node → Option (List (Node × Node))
  | .mapping _ _ fields? _ _ => fields?
  | .begun _ isList => if isList then none else some []
  | _ => none

def offered? : Node → Option (List (Node × Node))
  | .list _ items _ => (items.mapM mappingFields?).map (·.reverse.flatten)
  | .begun .. => some []
  | n => mappingFields? n

/-- The scalar that a node is, or that it holds under the key that stands for its value; or else the kind of
the node that is found instead. -/
def held : Node → Except Kind (Text × Bool)
  | .scalar _ text torn => .ok (text, torn)
  | .mapping _ _ _ held _ => held
  | n => .error n.kind

def misfit (tag : Tag) (found : Kind) : Fault :=
  .malformed <|
    if tag = .pairs then .constructing .pairs
    else if tag = .orderedMap then .constructing .orderedMap
    else if tag = .list then .unfit .list found
    else .unfit .mapping found

def scalarValue (tag : Tag) (text : Text) (torn : Bool) : Except Fault Value :=
  match tag with
  | .null => .ok .null
  | .bool =>
    match Tag.truthOf? text with
    | some b => .ok (.bool b)
    | none => .error (.notTruth (Text.lower text))
  | .int => (intOf text).map .int
  | .float => (floatOf text).map .float
  | .moment =>
    match momentFault? text with
    | some fault => .error fault
    | none => .ok .other
  | .binary =>
    match bytesOf text with
    | .ok bytes => .ok (.bytes bytes)
    | .error disorder => .error (.malformed (.binary disorder))
  | .text => .ok (if torn then .torn else .str text)
  | .list | .pairs | .orderedMap | .mapping | .set => .error (misfit tag .scalar)
  | .merge | .standIn | .other _ => .error (.malformed (.unknownTag (tag.unknown?.getD [])))

def heldValue (tag : Tag) (held : Except Kind (Text × Bool)) : Except Fault Value :=
  match held with
  | .ok (text, torn) => if tag = .moment then .error .notSpelled else scalarValue tag text torn
  | .error found => .error (.malformed (.unfit .scalar found))

def faultOf? : Except Fault Value → Option Fault
  | .ok _ => none
  | .error fault => some fault

/-- What is wrong with a node that is met, as far as it shows from outside: a tag that stands for no value, or
something else than a scalar that has a value where one is wanted. -/
def fault? (n : Node) : Option Fault :=
  match n.tag.unknown? with
  | some name => some (.malformed (.unknownTag name))
  | none =>
    if n.tag.isCollection then none
    else match n with
      | .scalar tag text torn => faultOf? (scalarValue tag text torn)
      | .list .. => some (.malformed (.unfit .scalar .list))
      | .mapping tag _ _ held _ => faultOf? (heldValue tag held)
      | .begun .. => none

def keyFault? (n : Node) : Option Fault :=
  if n.tag.isCollection then some (.malformed (.constructing .mapping)) else n.fault?

def fieldFault? (field : Node × Node) : Option Fault :=
  (keyFault? field.1).orElse fun _ => fault? field.2

def pairFault? (tag : Tag) : Node → Option Fault
  | .mapping _ [(k, v)] _ _ _ => (fault? k).orElse fun _ => fault? v
  | .begun _ false => none
  | n => some (misfit tag n.kind)

def itemsFault? (tag : Tag) (items : List Node) : Option Fault :=
  if tag = .list then items.findSome? fault?
  else if tag = .pairs ∨ tag = .orderedMap then items.findSome? (pairFault? tag)
  else some (misfit tag .list)

def fieldsFault? (tag : Tag) (fields? : Option (List (Node × Node))) : Option Fault :=
  if tag = .mapping ∨ tag = .set then
    match fields? with
    | some fields => fields.findSome? fieldFault?
    | none => some (.malformed (.constructing .mapping))
  else some (misfit tag .mapping)

def beside : List (Option Fault) → List (Option Fault) → List (Option Fault)
  | a :: left, b :: right => a.orElse (fun _ => b) :: beside left right
  | [], right => right
  | left, [] => left

def faultsWithin : Node → List (Option Fault)
  | .scalar tag .. => if tag.isCollection then [some (misfit tag .scalar)] else []
  | .list _ _ content | .mapping _ _ _ _ content => content.faults
  | .begun .. => []

def faultsAmong (ns : List Node) : List (Option Fault) :=
  ns.foldr (fun n faults => beside n.faultsWithin faults) []

def listValue (tag : Tag) (items : List Value) : Value :=
  .list (if tag = .list then items else items.map fun _ => .other)

def mappingValue (tag : Tag) (fields : List (Value × Value)) : Value :=
  if tag = .set then .set (fields.map (·.1)) else .mapping fields

def plainValue : Node → Value
  | .scalar tag text torn => (scalarValue tag text torn).toOption.getD .null
  | .list _ _ content | .mapping _ _ _ _ content => content.value
  | .begun tag isList => if isList then listValue tag [] else mappingValue tag []

def sides : Node → List Node
  | .mapping _ [(k, v)] _ _ _ => [k, v]
  | _ => []

def ofItems (tag : Tag) (items : List Node) : Node :=
  let inside := if tag = .list then items else items.flatMap sides
  .list tag items ⟨itemsFault? tag items :: faultsAmong inside, listValue tag (items.map plainValue)⟩

def contentOf (tag : Tag) (fields? : Option (List (Node × Node))) : Content :=
  let fields := fields?.getD []
  ⟨fieldsFault? tag fields? :: faultsAmong (fields.map (·.2)),
    mappingValue tag (fields.map fun (k, v) => (k.plainValue, v.plainValue))⟩

/-- The mapping with the fields that are written. Those that are taken over stand before its own. -/
def ofFields (tag : Tag) (written : List (Node × Node)) : Node :=
  let (merges, own) := written.partition (·.1.isScalar .merge)
  let taken? := (merges.map (·.2)).mapM offered?
  let fields? := taken?.map fun taken => taken.flatten ++ own.map fun (k, v) => (k.asKey, v)
  let held := match written.find? (·.1.isScalar .standIn) with
    | some (_, v) => v.held
    | none => .error .mapping
  .mapping tag written fields? held <|
    if tag.isCollection then contentOf tag fields?
    else ⟨[], (heldValue tag held).toOption.getD .null⟩

def value (n : Node) : Except Fault Value :=
  match (n.fault? :: n.faultsWithin).findSome? id with
  | some fault => .error fault
  | none => .ok n.plainValue

end Node

end DdlAtlas.Yaml
