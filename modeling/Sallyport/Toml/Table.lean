/-
Who may add what to which table. A table under a header of its own, or between braces, is complete
where it is written; tables that only came up on the way to something else can still be added to, by
headers if they came up in headers, by dotted keys if they came up in dotted keys. No key is ever
defined twice.
-/
import Sallyport.Toml.Node

namespace Sallyport.Toml

/-- How a table is reached. -/
inductive Approach where
  | byHeader
  | byKey
  deriving DecidableEq, Repr

/-- The origin of a table that comes up on the way. -/
def Approach.origin : Approach → Origin
  | .byHeader => .implied
  | .byKey => .dotted

/-- Whether the way may lead through a table. Keys do not lead into a table with a header of its
own, and nothing leads into a table between braces. -/
def Approach.mayPass (a : Approach) (o : Origin) : Bool :=
  o ≠ .inline && !(a = .byKey && o = .header)

namespace Node

/-- Changes the table at the end of a path, making the tables on the way that are missing. Of an
array of tables, the way leads through the newest. -/
def within (a : Approach) (change : Node → Option Node) : List String → Node → Option Node
  | [], node => change node
  | k :: path, .table origin entries =>
    let put (n : Node) : Node := .table origin (Entries.put k n entries)
    match Entries.get? entries k with
    | none => (within a change path (.table a.origin [])).map put
    | some (.table o inner) =>
      if a.mayPass o then (within a change path (.table o inner)).map put else none
    | some (.tables items) =>
      match items.getLast? with
      | some newest =>
        (within a change path newest).map fun n => put (.tables (items.dropLast ++ [n]))
      | none => none
    | some _ => none
  | _ :: _, _ => none

/-- Changes the entry at the end of a path, given the origin of its table and what is there. -/
def revise (a : Approach) (change : Origin → Option Node → Option Node) (path : List String)
    (table : Node) : Option Node :=
  match path.getLast? with
  | none => none
  | some k =>
    within a (fun table =>
      match table with
      | .table origin entries =>
        (change origin (Entries.get? entries k)).map fun n =>
          .table origin (Entries.put k n entries)
      | _ => none) path.dropLast table

/-- Defines a key below a table. A table reached by a dotted key must have come up in one. -/
def define (path : List String) (value : Node) : Node → Option Node :=
  revise .byKey (fun origin existing =>
    if existing.isSome || (path.length ≠ 1 && origin ≠ .dotted) then none else some value) path

/-- Opens the table of a header. One that came up on the way to others is taken over. -/
def openTable (path : List String) : Node → Option Node :=
  revise .byHeader (fun _ existing =>
    match existing with
    | none => some (.table .header [])
    | some (.table .implied entries) => some (.table .header entries)
    | some _ => none) path

/-- Opens a new table at the end of an array of tables. -/
def openItem (path : List String) : Node → Option Node :=
  revise .byHeader (fun _ existing =>
    match existing with
    | none => some (.tables [.table .header []])
    | some (.tables items) => some (.tables (items ++ [.table .header []]))
    | some _ => none) path

/-- The table of definitions between braces. -/
def ofDefinitions (definitions : List (List String × Node)) : Option Node :=
  definitions.foldlM (fun table (path, value) => define path value table) (.table .inline [])

end Node

end Sallyport.Toml
