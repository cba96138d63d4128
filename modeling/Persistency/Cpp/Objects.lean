import Persistency.Cpp.Kvs

namespace Persistency.Cpp.Objects
set_option autoImplicit true

/-- Where a `KvsValue` is. A `shared_ptr` is the address of the value that it owns, and not null. -/
abbrev Addr := Nat

/-- `KvsValue::Type`, whose variables can also hold a number that no enumerator has. -/
inductive ValueType where
  | i32 | u32 | i64 | u64 | f64 | boolean | string | null | array | object
  | unnamed (n : Int32)
  deriving DecidableEq

inductive Variant where
  | i32 (n : Int32)
  | u32 (n : UInt32)
  | i64 (n : Int64)
  | u64 (n : UInt64)
  | f64 (x : Binary64)
  | boolean (b : Bool)
  | string (s : String)
  | null
  | array (elems : List Addr)
  | object (members : FiniteMap String Addr)

def Variant.type : Variant → ValueType
  | .i32 _ => .i32
  | .u32 _ => .u32
  | .i64 _ => .i64
  | .u64 _ => .u64
  | .f64 _ => .f64
  | .boolean _ => .boolean
  | .string _ => .string
  | .null => .null
  | .array _ => .array
  | .object _ => .object

namespace Variant

def getI32 : Variant → Option Int32
  | .i32 n => some n
  | _ => none

def getU32 : Variant → Option UInt32
  | .u32 n => some n
  | _ => none

def getI64 : Variant → Option Int64
  | .i64 n => some n
  | _ => none

def getU64 : Variant → Option UInt64
  | .u64 n => some n
  | _ => none

def getF64 : Variant → Option Binary64
  | .f64 x => some x
  | _ => none

def getBoolean : Variant → Option Bool
  | .boolean b => some b
  | _ => none

def getString : Variant → Option String
  | .string s => some s
  | _ => none

def getArray : Variant → Option (List Addr)
  | .array elems => some elems
  | _ => none

def getObject : Variant → Option (FiniteMap String Addr)
  | .object members => some members
  | _ => none

end Variant

structure KvsObject where
  value : Variant
  type : ValueType

/-- All objects that were ever made; what happens to the others does not depend on whether one is
destroyed. -/
abbrev Heap := List KvsObject

section Copy

variable (copy : Addr → Heap → Option (KvsObject × Heap))

/-- `std::make_shared<KvsValue>(*item)`. -/
def makeShared (item : Addr) (heap : Heap) : Option (Addr × Heap) := do
  let (obj, heap) ← copy item heap
  return (heap.length, heap ++ [obj])

def copyItems : List Addr → Heap → Option (List Addr × Heap)
  | [], heap => some ([], heap)
  | item :: items, heap => do
    let (shared, heap) ← makeShared copy item heap
    let (sharedArray, heap) ← copyItems items heap
    return (shared :: sharedArray, heap)

/-- The loop over the members, in the order in which the hash map is walked. -/
def copyMembers (members : FiniteMap String Addr) :
    List {k // k ∈ members.keys} → FiniteMap String Addr → Heap →
      Option (FiniteMap String Addr × Heap)
  | [], sharedObject, heap => some (sharedObject, heap)
  | key :: keys, sharedObject, heap => do
    let (shared, heap) ← makeShared copy (members.val key) heap
    copyMembers members keys (sharedObject.insert key shared) heap

end Copy

section Operations

variable (base : Baselibs N)

/-- The copy constructor: the new object, and the heap with the objects that are made for its
elements. `fuel` bounds the depth; there is no result when the depth is more, when `std::get` meets
another alternative, or when there is no object at the address. -/
def copyConstruct : Nat → Addr → Heap → Option (KvsObject × Heap)
  | 0, _, _ => none
  | fuel + 1, other, heap => do
    let obj ← heap[other]?
    match obj.type with
    | .array =>
      let otherArray ← obj.value.getArray
      let (copiedArray, heap) ← copyItems (copyConstruct fuel) otherArray heap
      return (⟨.array copiedArray, obj.type⟩, heap)
    | .object =>
      let otherObject ← obj.value.getObject
      let (copiedObject, heap) ← copyMembers (copyConstruct fuel) otherObject
        (base.order otherObject.keys) .empty heap
      return (⟨.object copiedObject, obj.type⟩, heap)
    | _ => return (obj, heap)

/-- A copy at any depth: no chain of nested objects is longer than the heap. -/
def copyAny (other : Addr) (heap : Heap) : Option (KvsObject × Heap) :=
  copyConstruct base heap.length other heap

def arrayConstruct (array : List Addr) (heap : Heap) : Option (KvsObject × Heap) := do
  let (sharedArray, heap) ← copyItems (copyAny base) array heap
  return (⟨.array sharedArray, .array⟩, heap)

def objectConstruct (object : FiniteMap String Addr) (heap : Heap) : Option (KvsObject × Heap) := do
  let (sharedObject, heap) ←
    copyMembers (copyAny base) object (base.order object.keys) .empty heap
  return (⟨.object sharedObject, .object⟩, heap)

/-- The move constructor; `rest` is what the move leaves in the variant of `other`. -/
def moveConstruct (other : Addr) (rest : Variant) (heap : Heap) : Option (KvsObject × Heap) := do
  let obj ← heap[other]?
  return (obj, heap.set other ⟨rest, obj.type⟩)

/-- The copy assignment; `temp` takes the old variant and is destroyed. -/
def copyAssign (self other : Addr) (heap : Heap) : Option Heap :=
  if self = other then some heap
  else do
    let (temp, heap) ← copyAny base other heap
    let obj ← heap[other]?
    return heap.set self ⟨temp.value, obj.type⟩

def moveAssign (self other : Addr) (rest : Variant) (heap : Heap) : Option Heap :=
  if self = other then some heap
  else do
    let obj ← heap[other]?
    return (heap.set other ⟨rest, obj.type⟩).set self obj

/-- The public operations. The elements of a `std::vector<KvsValue>` and of a
`std::unordered_map<std::string, KvsValue>` are objects as well. -/
inductive Op where
  | i32 (number : Int32)
  | u32 (number : UInt32)
  | i64 (number : Int64)
  | u64 (number : UInt64)
  | f64 (number : Binary64)
  | boolean (b : Bool)
  | chars (str : String)
  | string (str : String)
  | nullptr
  | array (items : List Addr)
  | object (members : FiniteMap String Addr)
  | vector (items : List Addr)
  | unorderedMap (members : FiniteMap String Addr)
  | copy (other : Addr)
  | move (other : Addr) (rest : Variant)
  | copyAssign (self other : Addr)
  | moveAssign (self other : Addr) (rest : Variant)

/-- The object that a constructor makes is the last of the heap. -/
def construct (made : Option (KvsObject × Heap)) : Option Heap :=
  made.map fun (obj, heap) => heap ++ [obj]

def Op.step (heap : Heap) : Op → Option Heap
  | .i32 number => construct (some (⟨.i32 number, .i32⟩, heap))
  | .u32 number => construct (some (⟨.u32 number, .u32⟩, heap))
  | .i64 number => construct (some (⟨.i64 number, .i64⟩, heap))
  | .u64 number => construct (some (⟨.u64 number, .u64⟩, heap))
  | .f64 number => construct (some (⟨.f64 number, .f64⟩, heap))
  | .boolean b => construct (some (⟨.boolean b, .boolean⟩, heap))
  | .chars str => construct (some (⟨.string str, .string⟩, heap))
  | .string str => construct (some (⟨.string str, .string⟩, heap))
  | .nullptr => construct (some (⟨.null, .null⟩, heap))
  | .array items => construct (arrayConstruct base items heap)
  | .object members => construct (objectConstruct base members heap)
  | .vector items => construct (arrayConstruct base items heap)
  | .unorderedMap members => construct (objectConstruct base members heap)
  | .copy other => construct (copyAny base other heap)
  | .move other rest => construct (moveConstruct other rest heap)
  | .copyAssign self other => Objects.copyAssign base self other heap
  | .moveAssign self other rest => Objects.moveAssign self other rest heap

end Operations

section Convert

variable (conv : Addr → Option (Except ErrorCode (Json N)))

def convertItems : List Addr → Option (Except ErrorCode (List (Json N)))
  | [] => some (.ok [])
  | elem :: elems => do
    match ← conv elem with
    | .error _ => return .error .invalidValueType
    | .ok any =>
      match ← convertItems elems with
      | .error e => return .error e
      | .ok list => return .ok (any :: list)

def convertMembers (members : FiniteMap String Addr) :
    List {k // k ∈ members.keys} → JsonObject N → Option (Except ErrorCode (JsonObject N))
  | [], innerObj => some (.ok innerObj)
  | key :: keys, innerObj => do
    match ← conv (members.val key) with
    | .error _ => return .error .invalidValueType
    | .ok any => convertMembers members keys (innerObj.emplace key any)

end Convert

section ToAny

variable (base : Baselibs N)

def kvsvalueToAny : Nat → Addr → Heap → Option (Except ErrorCode (Json N))
  | 0, _, _ => none
  | fuel + 1, kv, heap => do
    let obj ← heap[kv]?
    match obj.type with
    | .i32 => return .ok (.tagged "i32" (.number (base.number.ofI32 (← obj.value.getI32))))
    | .u32 => return .ok (.tagged "u32" (.number (base.number.ofU32 (← obj.value.getU32))))
    | .i64 => return .ok (.tagged "i64" (.number (base.number.ofI64 (← obj.value.getI64))))
    | .u64 => return .ok (.tagged "u64" (.number (base.number.ofU64 (← obj.value.getU64))))
    | .f64 => return .ok (.tagged "f64" (.number (base.number.ofF64 (← obj.value.getF64))))
    | .boolean => return .ok (.tagged "bool" (.boolean (← obj.value.getBoolean)))
    | .string => return .ok (.tagged "str" (.string (← obj.value.getString)))
    | .null => return .ok (.tagged "null" .null)
    | .array =>
      let elems ← obj.value.getArray
      match ← convertItems (fun elem => kvsvalueToAny fuel elem heap) elems with
      | .error e => return .error e
      | .ok list => return .ok (.tagged "arr" (.array list.length list.get))
    | .object =>
      let members ← obj.value.getObject
      match ← convertMembers (fun value => kvsvalueToAny fuel value heap) members
        (base.order members.keys) .empty with
      | .error e => return .error e
      | .ok innerObj => return .ok (.tagged "obj" (.ofMap innerObj))
    | .unnamed _ => return .error .invalidValueType

end ToAny

def Variant.Points (p : Addr) : Variant → Prop
  | .array elems => p ∈ elems
  | .object members => ∃ k, members.get? k = some p
  | _ => False

def Child (heap : Heap) (p a : Addr) : Prop := ∃ obj, heap[a]? = some obj ∧ obj.value.Points p

def Nested (heap : Heap) (inner outer : Addr) : Prop :=
  Relation.ReflTransGen (Child heap) inner outer

/-- A variant that was moved from keeps its alternative, with elements of the operands at most. -/
def MovedFrom (heap : Heap) (other : Addr) (owned : Addr → Prop) (rest : Variant) : Prop :=
  ∀ obj, heap[other]? = some obj → rest.type = obj.value.type ∧ ∀ p, rest.Points p → owned p

def Op.Valid (heap : Heap) : Op → Prop
  | .array items | .vector items => ∀ p ∈ items, p < heap.length
  | .object members | .unorderedMap members => ∀ k p, members.get? k = some p → p < heap.length
  | .copy other => other < heap.length
  | .move other rest =>
    other < heap.length ∧ MovedFrom heap other (fun p => Child heap p other) rest
  | .copyAssign self other => self < heap.length ∧ other < heap.length
  | .moveAssign self other rest =>
    self < heap.length ∧ other < heap.length ∧
      (self = other ∨ ¬ Nested heap self other ∧ ¬ Nested heap other self) ∧
      MovedFrom heap other (fun p => Child heap p other ∨ Child heap p self) rest
  | _ => True

end Persistency.Cpp.Objects
