import MediaPaths.Event

/-!
The registry of named rules. A name is either given a template of its own or made an alias of a name
that is already there; an alias shares the registered rule, which its serial number shows. Every
template gets the number of names registered before it, so no two templates have the same one.

A virtual path is `//`, the name of a rule, and the elements to walk it along.
-/
namespace MediaPaths

structure Registered where
  serial : Nat
  rule : Rule
  deriving DecidableEq

structure Registry where
  rules : Table Registered
  deriving DecidableEq

structure Address where
  action : String
  remainder : String
  deriving DecidableEq, Repr

def afterSlashes? (path : String) : Option (List Char) :=
  Text.afterLead? ['/', '/'] path.toList

/-- The action reaches up to the next slash, which belongs to the remainder. -/
def Address.read? (path : String) : Option Address :=
  match afterSlashes? path with
  | none => none
  | some rest =>
    some ⟨String.ofList (rest.takeWhile (· ≠ '/')), String.ofList (rest.dropWhile (· ≠ '/'))⟩

/-- A spec that starts with a slash is a template; any other is the name of a rule. -/
def isTemplate (spec : String) : Bool := spec.toList.head? == some '/'

namespace Registry

def empty : Registry := ⟨Table.empty⟩

def get? (reg : Registry) (name : String) : Option Registered := reg.rules.get? name
def contains (reg : Registry) (name : String) : Bool := reg.rules.contains name
def size (reg : Registry) : Nat := reg.rules.size
def names (reg : Registry) : List String := reg.rules.keys

def insert (reg : Registry) (name : String) (registered : Registered) : Registry :=
  ⟨reg.rules.insert name registered⟩

@[simp] theorem get?_empty (name : String) : empty.get? name = none := rfl

@[simp] theorem get?_insert (reg : Registry) (name other : String) (registered : Registered) :
    (reg.insert name registered).get? other =
      if other = name then some registered else reg.get? other :=
  reg.rules.get?_insert name other registered

theorem contains_eq (reg : Registry) (name : String) :
    reg.contains name = (reg.get? name).isSome := rfl

/-- Registers `spec` under `name`; the first rule of a name stays. -/
def add (reg : Registry) (name spec : String) : Except Fault Registry :=
  if reg.contains name then .error (.duplicateRule name)
  else if isTemplate spec then
    match Rule.compile spec with
    | .ok rule => .ok (reg.insert name ⟨reg.size, rule⟩)
    | .error cause => .error (.invalidRule cause)
  else
    match reg.get? spec with
    | some registered => .ok (reg.insert name registered)
    | none => .error (.undefinedTarget name spec)

/-- What an attempt to add a rule reports; a rule that is then refused was still worth a report. -/
def addEvents (reg : Registry) (name spec : String) : List Event :=
  if reg.contains name then []
  else if isTemplate spec then [.compiling name spec]
  else if reg.contains spec then [.aliasing name spec]
  else []

def shares (reg : Registry) (a b : String) : Bool :=
  match reg.get? a, reg.get? b with
  | some x, some y => x.serial == y.serial
  | _, _ => false

def resolve (reg : Registry) (path : String) : Except Fault Walk :=
  match Address.read? path with
  | none => .error (.notVirtualPath path)
  | some address =>
    match reg.get? address.action with
    | none => .error (.unknownAction address.action)
    | some registered => .ok (registered.rule.walk address.remainder)

def resolveEvents (reg : Registry) (path : String) : List Event :=
  match Address.read? path with
  | none => []
  | some address =>
    match reg.get? address.action with
    | none => []
    | some registered =>
      .resolving path address.action address.remainder ::
        (registered.rule.steps address.remainder).map .walking

def suggest (reg : Registry) (path : String) : Except Fault (List String) :=
  match afterSlashes? path with
  | none => .error (.notVirtualPath path)
  | some pattern =>
    match Glob.compile (String.ofList pattern) with
    | .error fault => .error fault
    | .ok glob => .ok (reg.names.filter glob.accepts)

end Registry

end MediaPaths
