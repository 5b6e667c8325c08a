import AbilityScript.Datum

namespace AbilityScript.Toml

/-- How a table came about: under a header of its own, on the way to a longer header, or on the way
to the value of a key in several parts. -/
inductive Origin where
  | header
  | implied
  | dotted
  deriving DecidableEq, Repr

inductive Node where
  | value (d : Datum)
  | table (origin : Origin) (entries : List (String × Node))
  /-- The tables of an array; the last of them is the one in the making. -/
  | tables (items : List (List (String × Node)))

abbrev Entries := List (String × Node)

namespace Entries

def find? (es : Entries) (name : String) : Option Node :=
  (List.find? (fun entry => entry.1 == name) es).map Prod.snd

def replace (es : Entries) (name : String) (node : Node) : Entries :=
  es.map fun entry => if entry.1 == name then (name, node) else entry

/-- Goes down from a table along names and changes the table at the end. A table that is not there
is made, with the given origin. Along a key in parts, a table with a header of its own is closed. -/
def descend (fresh : Origin) (change : Origin → Entries → Option Entries) :
    List String → Origin → Entries → Option Entries
  | [], origin, es => change origin es
  | name :: path, _, es =>
    match es.find? name with
    | none => (descend fresh change path fresh []).map fun sub => es ++ [(name, .table fresh sub)]
    | some (.value _) => none
    | some (.table origin sub) =>
      if fresh = .dotted ∧ origin = .header then none
      else (descend fresh change path origin sub).map fun sub => es.replace name (.table origin sub)
    | some (.tables items) =>
      match items.getLast? with
      | none => none
      | some last =>
        (descend fresh change path .header last).map fun sub =>
          es.replace name (.tables (items.dropLast ++ [sub]))

def assign (path : List String) (d : Datum) (origin : Origin) (es : Entries) : Option Entries :=
  let parents := path.dropLast
  let name := path.getLast?.getD ""
  descend .dotted
    (fun origin es =>
      if (origin == .dotted) == parents.isEmpty then none
      else if (es.find? name).isSome then none
      else some (es ++ [(name, .value d)]))
    parents origin es

/-- Opens the table of a header. It may have been implied before, but not been made otherwise. -/
def openTable (path : List String) (es : Entries) : Option Entries :=
  let name := path.getLast?.getD ""
  descend .implied
    (fun _ es =>
      match es.find? name with
      | none => some (es ++ [(name, .table .header [])])
      | some (.table .implied sub) => some (es.replace name (.table .header sub))
      | _ => none)
    path.dropLast .header es

def openItem (path : List String) (es : Entries) : Option Entries :=
  let name := path.getLast?.getD ""
  descend .implied
    (fun _ es =>
      match es.find? name with
      | none => some (es ++ [(name, .tables [[]])])
      | some (.tables items) => some (es.replace name (.tables (items ++ [[]])))
      | _ => none)
    path.dropLast .header es

end Entries

mutual

def Node.toDatum : Node → Datum
  | .value d => d
  | .table _ entries => .table (entriesToData entries)
  | .tables items => .list (tablesToData items)

def entriesToData : List (String × Node) → List (String × Datum)
  | [] => []
  | (name, node) :: rest => (name, node.toDatum) :: entriesToData rest

def tablesToData : List (List (String × Node)) → List Datum
  | [] => []
  | entries :: rest => .table (entriesToData entries) :: tablesToData rest

end

end AbilityScript.Toml
