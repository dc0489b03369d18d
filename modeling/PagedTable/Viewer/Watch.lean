import PagedTable.Viewer.State

/-! # Watching the file

A file that is watched is looked at in regular intervals, and loaded again when
it has a new revision. Headers change at once, records only when no drag is in
progress. -/

namespace PagedTable.Viewer

def replace (viewer : Viewer) (loaded : Loaded) : Viewer :=
  let table := { viewer.table with hooks := headerHooks loaded.headers }.update loaded.records
  let message :=
    if table.pending.isSome then "File changed; reload applies when the drag ends"
    else "Reloaded " ++ toString loaded.records.length ++ " records"
  { viewer with headers := loaded.headers, table, message := some message }

def reload (viewer : Viewer) (file : Option File) : Viewer :=
  match file with
  | none => viewer
  | some found =>
    if viewer.lastRevision = some found.revision then viewer
    else
      let viewer := { viewer with lastRevision := some found.revision }
      match viewer.source.load viewer.settings file with
      | .ok loaded => viewer.replace loaded
      | .error error => { viewer with message := some ("Reload failed: " ++ error.message) }

/-- The milliseconds between two looks at the file, one second at least. -/
def watchInterval (viewer : Viewer) : Nat :=
  max viewer.settings.refreshSeconds 1 * 1000

def checkFile (viewer : Viewer) (now : Nat) (file : Option File) : Viewer :=
  if viewer.watch ∧ viewer.watchInterval ≤ now - viewer.lastCheck then
    { viewer with lastCheck := now }.reload file
  else viewer

end PagedTable.Viewer
