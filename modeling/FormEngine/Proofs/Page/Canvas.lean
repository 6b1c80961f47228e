import FormEngine.Proofs.Builder.Sound
import FormEngine.Proofs.Page.NoInjection
import FormEngine.Proofs.Page.Trees

set_option autoImplicit false

namespace FormEngine

-- An item of a canvas with what its attributes say of its node, and the items inside it.
inductive CanvasItem where
  | item (id type : Option String) (marked : Bool) (inside : List CanvasItem)

namespace CanvasItem

def id : CanvasItem → Option String
  | .item id _ _ _ => id

def type : CanvasItem → Option String
  | .item _ type _ _ => type

def marked : CanvasItem → Bool
  | .item _ _ marked _ => marked

mutual
def all : CanvasItem → List CanvasItem
  | .item id type marked inside => .item id type marked inside :: allOf inside
def allOf : List CanvasItem → List CanvasItem
  | [] => []
  | i :: rest => all i ++ allOf rest
end

end CanvasItem

namespace Seen

mutual
-- The items of a canvas are the elements of their class, wherever they stand.
def items : Seen → List CanvasItem
  | .char _ => []
  | .element name attributes inside =>
      let e : Seen := .element name attributes inside
      if "canvas-item".toList ∈ e.classes then
        [.item (e.attribute? "data-field-id") (e.attribute? "data-type") (e.classes.contains "selected".toList)
          (itemsOf inside)]
      else itemsOf inside
def itemsOf : List Seen → List CanvasItem
  | [] => []
  | s :: rest => items s ++ itemsOf rest
end

end Seen

namespace Node

mutual
def item (selected : Option String) : Node → CanvasItem
  | .field f =>
      .item (some (Markup.escaped f.id)) (some (Markup.escaped f.kind.name)) (selected == some f.id) []
  | .group g children =>
      .item (some (Markup.escaped g.id)) (some (Markup.escaped groupName)) (selected == some g.id)
        (itemsFor selected children)
def itemsFor (selected : Option String) : List Node → List CanvasItem
  | [] => []
  | n :: rest => item selected n :: itemsFor selected rest
end

end Node

def Store.canvas (s : Store) : List CanvasItem := Seen.itemsOf (seenOn (s.form.canvasPage s.selected))

structure CanvasMirrors (s : Store) : Prop where
  nested : s.canvas = Node.itemsFor s.selected s.nodes
  inOrder : (CanvasItem.allOf s.canvas).map (fun i => (i.id, i.type))
    = (Node.nodesOf s.nodes).map fun n => (some (Markup.escaped n.id), some (Markup.escaped n.typeName))
  marked : ((CanvasItem.allOf s.canvas).filter CanvasItem.marked).map CanvasItem.id
    = s.selected.toList.map fun id => some (Markup.escaped id)

namespace Seen

theorem items_of_append (a b : List Seen) : itemsOf (a ++ b) = itemsOf a ++ itemsOf b := by
  induction a with
  | nil => rfl
  | cons s rest ih => rw [List.cons_append, itemsOf, ih, itemsOf, List.append_assoc]

theorem items_of_chars (cs : List Char) : itemsOf (cs.map .char) = [] := by
  induction cs with
  | nil => rfl
  | cons c rest ih => rw [List.map_cons, itemsOf, items, ih, List.append_nil]

end Seen

open Seen

namespace Markup

theorem items_text (s : String) : itemsOf (text s).seen = [] := items_of_chars _

theorem items_all_cons (m : Markup) (rest : List Markup) :
    itemsOf (seenAll (m :: rest)) = itemsOf m.seen ++ itemsOf (seenAll rest) := by
  rw [seenAll, items_of_append]

theorem no_items (l : List Markup) (each : ∀ m ∈ l, itemsOf m.seen = []) : itemsOf (seenAll l) = [] := by
  induction l with
  | nil => rfl
  | cons m rest ih =>
      rw [List.forall_mem_cons] at each
      rw [items_all_cons, each.1, ih each.2]
      rfl

theorem items_element (tag : Tag) (attributes : List Attribute) (children : List Markup)
    (other : "canvas-item".toList ∉ (Seen.element tag.name (attributes.map Attribute.seen) (seenAll children)).classes) :
    itemsOf (element tag attributes children).seen = itemsOf (seenAll children) := by
  rw [seen, itemsOf, itemsOf, List.append_nil, items, if_neg other]

theorem items_classed (tag : Tag) (c : String) (attributes : List Attribute) (children : List Markup)
    (other : "canvas-item".toList ∉ (escape c).splitOn ' ') :
    itemsOf (element tag (.value .classes c :: attributes) children).seen = itemsOf (seenAll children) :=
  items_element tag _ children (by rwa [classes_seen])

theorem items_bare (tag : Tag) (children : List Markup) :
    itemsOf (element tag [] children).seen = itemsOf (seenAll children) :=
  items_element tag [] children (of_decide_eq_false rfl)

theorem items_of_item (c id type : String) (children : List Markup)
    (here : "canvas-item".toList ∈ (escape c).splitOn ' ') :
    itemsOf (element .div [.value .classes c, .value .fieldId id, .value .fieldType type] children).seen
      = [.item (some (escaped id)) (some (escaped type)) (((escape c).splitOn ' ').contains "selected".toList)
          (itemsOf (seenAll children))] := by
  rw [seen, itemsOf, itemsOf, List.append_nil, items, classes_seen, if_pos here]
  rfl

end Markup

open Markup

namespace Field

theorem heading_items (f : Field) : itemsOf f.headingView.seen = [] := by
  unfold headingView
  split
  · rw [items_bare, items_all_cons, items_text]
    rfl
  · rw [items_bare, items_all_cons, items_text]
    rfl

theorem table_sketch_items (f : Field) (reason : SketchReason) : itemsOf (f.tableSketch reason).seen = [] := by
  have titles : itemsOf (seenAll (["Column A", "Column B", "Column C"].map fun title => .element .th [] [.text title]))
      = [] := by
    apply no_items
    rw [List.forall_mem_map]
    intro title _
    rw [items_bare, items_all_cons, items_text]
    rfl
  have cells : itemsOf (seenAll (List.replicate 3 (.element .td [] [.sign .ellipsis]))) = [] := by
    apply no_items
    intro m listed
    rw [List.eq_of_mem_replicate listed, items_bare]
    rfl
  rw [tableSketch, items_classed _ _ _ _ (by decide), items_all_cons, items_bare, items_all_cons, items_bare, titles,
    items_all_cons, items_bare, items_all_cons, items_bare, cells]
  rfl

theorem sketch_items (f : Field) : itemsOf f.sketch.seen = [] := by
  unfold sketch
  split
  · exact f.table_sketch_items _
  · exact f.heading_items
  · rfl
  · rw [hint, Attribute.given]
    split <;> rfl

end Field

namespace Node

variable (selected : Option String)

theorem item_seen (n : Node) (preview : Markup) : itemsOf (canvasItem selected n preview).seen
    = [.item (some (Markup.escaped n.id)) (some (Markup.escaped n.typeName)) (selected == some n.id)
        (itemsOf preview.seen)] := by
  have inside : itemsOf (seenAll [.element .span [.value .classes "canvas-label"] [.text n.basics.label], preview])
      = itemsOf preview.seen := by
    rw [items_all_cons, items_classed _ _ _ _ (by decide), items_all_cons, items_text, items_all_cons]
    exact List.append_nil _
  by_cases chosen : selected = some n.id
  · rw [canvasItem, if_pos chosen, items_of_item _ _ _ _ (by decide), inside, beq_iff_eq.mpr chosen]
    rfl
  · rw [canvasItem, if_neg chosen, items_of_item _ _ _ _ (by decide), inside, beq_eq_false_iff_ne.mpr chosen]
    rfl

theorem views_items (nodes : List Node) : itemsOf (seenAll (canvasViews selected nodes)) = itemsFor selected nodes := by
  induction nodes using forest_induction with
  | nil => rfl
  | field f rest ih =>
      rw [canvasViews, items_all_cons, canvasView, item_seen, f.sketch_items, ih]
      rfl
  | group g children rest ihChildren ihRest =>
      rw [canvasViews, items_all_cons, canvasView, item_seen, items_classed _ _ _ _ (by decide), ihChildren, ihRest]
      rfl

theorem all_items (nodes : List Node) :
    CanvasItem.allOf (itemsFor selected nodes) = (nodesOf nodes).map (item selected) := by
  induction nodes using forest_induction with
  | nil => rfl
  | field f rest ih =>
      rw [itemsFor, CanvasItem.allOf, ih]
      rfl
  | group g children rest ihChildren ihRest =>
      rw [itemsFor, CanvasItem.allOf, item, CanvasItem.all, ihChildren, ihRest, nodesOf, nodes, List.map_append,
        List.map_cons, item]

theorem item_about (n : Node) : (item selected n).id = some (escaped n.id) ∧
    (item selected n).type = some (escaped n.typeName) ∧ (item selected n).marked = (selected == some n.id) := by
  cases n <;> exact ⟨rfl, rfl, rfl⟩

theorem marked_items (nodes : List Node) : (nodes.map (item selected)).filter CanvasItem.marked
    = (nodes.filter fun n => selected == some n.id).map (item selected) := by
  have marks : ∀ n ∈ nodes, (CanvasItem.marked ∘ item selected) n = (selected == some n.id) :=
    fun n _ => (item_about selected n).2.2
  rw [List.filter_map, List.filter_congr marks]

theorem selected_ids (nodes : List Node) (distinct : (idsOf nodes).Nodup)
    (inTree : ∀ id, selected = some id → id ∈ idsOf nodes) :
    ((nodesOf nodes).filter fun n => selected == some n.id).map id = selected.toList := by
  cases selected with
  | none => simp
  | some id =>
      have here := inTree id rfl
      have same : ((nodesOf nodes).filter fun n => some id == some n.id).map Node.id = (idsOf nodes).filter (· == id) := by
        rw [idsOf, List.filter_map]
        congr 1
        apply List.filter_congr
        intro n _
        exact BEq.comm
      rw [same, List.filter_beq, List.count_eq_one_of_mem distinct here]
      rfl

end Node

theorem page_items (title : String) (content : List Markup) :
    itemsOf (pageTree title content).seen = itemsOf (seenAll content) := by
  have nothing : itemsOf (seenAll []) = [] := rfl
  have rules : itemsOf (Markup.style styleSheet).seen = [] := by
    rw [seen, itemsOf, itemsOf, items, if_neg (of_decide_eq_false rfl), items_of_chars]
    rfl
  rw [pageTree, items_bare, items_all_cons, items_bare, items_all_cons, items_bare, items_all_cons, items_text,
    items_all_cons, rules, items_all_cons, items_bare, items_all_cons, items_classed _ _ _ _ (by decide)]
  simp only [nothing, List.nil_append, List.append_nil]

theorem Store.canvas_items (s : Store) : s.canvas = Node.itemsFor s.selected s.nodes := by
  let content : List Markup := .element .h1 [] [.text s.form.title] :: Node.canvasViews s.selected s.nodes
  have tidy : (pageTree s.form.title content).Tidy := by
    simp [content, pageTree, style_sheet_tidy, Node.canvas_views_tidy]
  have read : seenOn (s.form.canvasPage s.selected) = (pageTree s.form.title content).seen := document_read _ tidy
  rw [canvas, read, page_items, items_all_cons, items_bare, items_all_cons, items_text, Node.views_items]
  rfl

theorem Store.canvas_mirrors (s : Store) (sound : s.Sound) : CanvasMirrors s := by
  have all : CanvasItem.allOf s.canvas = (Node.nodesOf s.nodes).map (Node.item s.selected) := by
    rw [s.canvas_items, Node.all_items]
  refine ⟨s.canvas_items, ?_, ?_⟩
  · rw [all, List.map_map]
    apply List.map_congr_left
    intro n _
    obtain ⟨id, type, _⟩ := Node.item_about s.selected n
    rw [Function.comp_apply, id, type]
  · have ids := Node.selected_ids s.selected s.nodes sound.distinct sound.selection
    rw [all, Node.marked_items, List.map_map, ← ids, List.map_map]
    apply List.map_congr_left
    intro n _
    exact (Node.item_about s.selected n).1

-- Every node of the tree has its item on the canvas, in the same order and inside the item of the same group, and the mark
-- is on the item of the node that is selected and on no other.
theorem canvas_mirrors_store (title : String) (script : List Char) (ops : List Store.Op) :
    CanvasMirrors ((Store.new title script).run ops) := by
  have sound := Store.run_sound (Store.new title script) ops (Store.sound_new title script)
  exact Store.canvas_mirrors _ sound

end FormEngine
