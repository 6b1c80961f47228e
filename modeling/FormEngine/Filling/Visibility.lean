import FormEngine.Filling.Condition

set_option autoImplicit false

namespace FormEngine

-- The first pass of the index: an id without a value takes the value of the name.
def indexId (values : Keyed Value) (index : Keyed Value) (n : Node) : Keyed Value :=
  match n.basics.alias? with
  | none => index
  | some name =>
      if Keyed.has values n.id then index
      else match Keyed.value? values name with
        | some value => Keyed.put index n.id value
        | none => index

-- The second pass: a name that nothing has claimed takes the value of the id.
def indexName (values : Keyed Value) (index : Keyed Value) (n : Node) : Keyed Value :=
  match n.basics.alias?, Keyed.value? values n.id with
  | some name, some value => Keyed.putNew index name value
  | _, _ => index

def valueIndex (nodes : List Node) (values : Keyed Value) : Keyed Value :=
  let all := Node.nodesOf nodes
  all.foldl (indexName values) (all.foldl (indexId values) values)

def Node.admits (index : Keyed Value) : Node → Bool
  | .field _ => true
  | .group g _ => match g.condition with
      | none => true
      | some c => c.holds index

mutual
def Node.marks (index : Keyed Value) (shown : Bool) : Node → List (String × Bool)
  | .field f => [(f.id, shown)]
  | .group g children =>
      let own := shown && Node.admits index (.group g children)
      (g.id, own) :: Node.marksOf index own children
def Node.marksOf (index : Keyed Value) (shown : Bool) : List Node → List (String × Bool)
  | [] => []
  | n :: rest => Node.marks index shown n ++ Node.marksOf index shown rest
end

def visibilityOf (nodes : List Node) (values : Keyed Value) : Keyed Bool :=
  Keyed.putAll [] (Node.marksOf (valueIndex nodes values) true nodes)

mutual
-- The fields that are shown, in document order; what is inside a hidden group is passed over.
def Node.shownFields (visible : String → Bool) : Node → List Field
  | .field f => if visible f.id then [f] else []
  | .group g children => if visible g.id then Node.shownFieldsOf visible children else []
def Node.shownFieldsOf (visible : String → Bool) : List Node → List Field
  | [] => []
  | n :: rest => Node.shownFields visible n ++ Node.shownFieldsOf visible rest
end

def shows (visibility : Keyed Bool) (id : String) : Bool := (Keyed.value? visibility id).getD false

def visibleFields (nodes : List Node) (visibility : Keyed Bool) : List Field :=
  Node.shownFieldsOf (shows visibility) nodes

def allFields (nodes : List Node) : List Field := Node.shownFieldsOf (fun _ => true) nodes

end FormEngine
