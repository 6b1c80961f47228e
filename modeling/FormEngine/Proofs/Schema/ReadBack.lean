import FormEngine.Proofs.Schema.Arrived
import FormEngine.Schema.Reread

set_option autoImplicit false

namespace FormEngine

namespace Value

theorem reread_items (items : List Value) : rereadItems items = items.map reread := by
  induction items with
  | nil => rfl
  | cons item rest ih => rw [rereadItems, ih, List.map_cons]

theorem reread_entries (entries : List (String × Value)) : rereadEntries entries = Keyed.mapValues reread entries := by
  induction entries with
  | nil => rfl
  | cons entry rest ih =>
      rw [rereadEntries, ih]
      rfl

theorem reread_record (entries : List (String × Value)) (distinct : (Keyed.names entries).Nodup) :
    (object entries).reread = .object (Keyed.mapValues reread entries) := by
  have names : Keyed.names (Keyed.mapValues reread entries) = Keyed.names entries := by
    rw [Keyed.names, Keyed.mapValues, List.map_map]
    rfl
  rw [reread, reread_entries, Keyed.putAll_of_fresh [] _ (by rw [List.nil_append, names]; exact distinct)]
  rfl

theorem put_text (all : Keyed String) (key s : String) :
    Keyed.put (Keyed.mapValues Value.text all) key (.text s) = Keyed.mapValues .text (Keyed.put all key s) := by
  induction all with
  | nil => rfl
  | cons entry rest ih =>
      simp only [Keyed.mapValues, List.map_cons, Keyed.put] at ih ⊢
      split
      · rfl
      · rw [ih, List.map_cons]

theorem put_all_texts (all m : Keyed String) :
    Keyed.putAll (Keyed.mapValues .text all) (rereadEntries (Keyed.mapValues .text m))
      = Keyed.mapValues .text (Keyed.putAll all m) := by
  induction m generalizing all with
  | nil => rfl
  | cons entry rest ih =>
      have later := ih (Keyed.put all entry.1 entry.2)
      rw [← put_text] at later
      exact later

end Value

def Transfer.document : Transfer where
  origin := .document
  carry := Value.reread
  number := Binary64.back?
  texts := Keyed.putAll []
  null := rfl
  bool _ := rfl
  int _ := rfl
  text _ := rfl
  float x := by
    rw [Value.reread, Binary64.back?]
    split <;> rfl
  list items := by rw [Value.reread, Value.reread_items]
  record entries distinct _ := Value.reread_record entries distinct
  textMap m := congrArg Value.object (Value.put_all_texts [] m)

theorem Field.back_arrived (f : Field) : f.arrived? .document = f.back? := rfl

theorem Node.backs_arrived (nodes : List Node) : arrivedAll? .document nodes = backs? nodes := by
  induction nodes using forest_induction with
  | nil => rfl
  | field f rest ih => rw [arrivedAll?, backs?, arrived?, back?, ih, Field.back_arrived]
  | group g children rest ihChildren ihRest =>
      rw [arrivedAll?, backs?, arrived?, back?, ihChildren, ihRest]
      rfl

theorem Form.read_back (f : Form) : (Form.read .document (f.toValue .document).reread).toOption = f.back? := by
  rw [back?, ← Node.backs_arrived]
  exact f.read_arrived .document

theorem Node.backs_ids (nodes back : List Node) (same : backs? nodes = some back) : idsOf back = idsOf nodes :=
  arrived_ids .document nodes back ((backs_arrived nodes).trans same)

end FormEngine
