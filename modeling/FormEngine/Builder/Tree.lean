import FormEngine.Schema.Form

set_option autoImplicit false

namespace FormEngine.Node

def findInside (id : String) : List Node → Option Node
  | [] => none
  | .field _ :: rest => findInside id rest
  | .group _ children :: rest =>
      match children.find? (·.id == id) with
      | some found => some found
      | none =>
          match findInside id children with
          | some found => some found
          | none => findInside id rest

def find? (nodes : List Node) (id : String) : Option Node :=
  match nodes.find? (·.id == id) with
  | some found => some found
  | none => findInside id nodes

-- The same search for the place of the node: the list it stands in and its index there.
def locateHere (id : String) (nodes : List Node) : Option (List Node × Nat) :=
  (nodes.findIdx? (·.id == id)).map (nodes, ·)

def locateInside (id : String) : List Node → Option (List Node × Nat)
  | [] => none
  | .field _ :: rest => locateInside id rest
  | .group _ children :: rest =>
      match locateHere id children with
      | some place => some place
      | none =>
          match locateInside id children with
          | some place => some place
          | none => locateInside id rest

def locate? (nodes : List Node) (id : String) : Option (List Node × Nat) :=
  match locateHere id nodes with
  | some place => some place
  | none => locateInside id nodes

def replaceHere (id : String) (change : Node → List Node) : List Node → Option (List Node)
  | [] => none
  | n :: rest => if n.id = id then some (change n ++ rest) else (replaceHere id change rest).map (n :: ·)

def replaceInside (id : String) (change : Node → List Node) : List Node → Option (List Node)
  | [] => none
  | .field f :: rest => (replaceInside id change rest).map (.field f :: ·)
  | .group g children :: rest =>
      match replaceHere id change children with
      | some changed => some (.group g changed :: rest)
      | none =>
          match replaceInside id change children with
          | some changed => some (.group g changed :: rest)
          | none => (replaceInside id change rest).map (.group g children :: ·)

def replace? (nodes : List Node) (id : String) (change : Node → List Node) : Option (List Node) :=
  match replaceHere id change nodes with
  | some changed => some changed
  | none => replaceInside id change nodes

def findGroup? (nodes : List Node) (id : String) : Option Node :=
  (nodesOf nodes).find? fun n => n.isGroup && n.id == id

def changeChildren (id : String) (change : List Node → List Node) : List Node → Option (List Node)
  | [] => none
  | .field f :: rest => (changeChildren id change rest).map (.field f :: ·)
  | .group g children :: rest =>
      if g.id = id then some (.group g (change children) :: rest)
      else match changeChildren id change children with
        | some changed => some (.group g changed :: rest)
        | none => (changeChildren id change rest).map (.group g children :: ·)

def listAt? (nodes : List Node) : Option String → Option (List Node)
  | none => some nodes
  | some id => (findGroup? nodes id).map children

def changeList (nodes : List Node) (parent : Option String) (change : List Node → List Node) : Option (List Node) :=
  match parent with
  | none => some (change nodes)
  | some id => changeChildren id change nodes

def position? (index : Int) (size : Nat) : Option Nat :=
  if 0 ≤ index ∧ index < size then some index.toNat else none

end FormEngine.Node
