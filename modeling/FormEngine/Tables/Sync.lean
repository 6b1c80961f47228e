import FormEngine.Filling.Session
import FormEngine.Tables.Source

set_option autoImplicit false

namespace FormEngine.Session

def refreshTables (s : Session) (source : TableSource) : TableSource :=
  s.visibleTables.foldl (fun source f => (source.request f.id f.tableApi).2)
    (source.retain (s.visibleTables.map (·.id)))

def tableStates (s : Session) (source : TableSource) : Keyed (Option TableState) :=
  s.visibleTables.foldl (fun all f => Keyed.put all f.id (source.state? f.id)) []

def syncTables (s : Session) (source : TableSource) (n : Network) : TableSource × Network :=
  (s.refreshTables source).wait n

end FormEngine.Session
