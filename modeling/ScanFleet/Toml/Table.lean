import ScanFleet.Data.Value

/-! The tables of a TOML document while it is read.  A table may be opened by its header once.  A
dotted key goes through tables without a header of their own and ends in one that was made by a
dotted key.  A table that was written inline is finished. -/

namespace ScanFleet.Toml

/-- How a table came about. -/
inductive Origin where
  /-- By the header of a table inside it. -/
  | implied
  /-- By a dotted key. -/
  | dotted
  /-- By its own header. -/
  | header
deriving DecidableEq, Repr

/-- What stands at a key: a finished value, a table, or a list of tables whose last one is open. -/
inductive Node where
  | value (d : Data)
  | table (origin : Origin) (members : List (String × Node))
  | tables (closed : List (List (String × Node))) (last : List (String × Node))
deriving Inhabited

abbrev Members := List (String × Node)

/-- Puts a node at a key, in the place of the one that is there. -/
def put (key : String) (node : Node) : Members → Members
  | [] => [(key, node)]
  | (k, n) :: rest => if k == key then (key, node) :: rest else (k, n) :: put key node rest

/-- Changes the table that a header names; the tables on the way are made where they are missing. -/
def under (path : List String) (change : Members → Option Members) (ms : Members) :
    Option Members :=
  match path with
  | [] => change ms
  | key :: path =>
    match ms.lookup key with
    | none => (under path change []).map fun inner => put key (.table .implied inner) ms
    | some (.table origin inner) =>
      (under path change inner).map fun inner => put key (.table origin inner) ms
    | some (.tables closed last) =>
      (under path change last).map fun last => put key (.tables closed last) ms
    | some (.value _) => none

/-- Adds a value at a key. -/
def addAt (d : Data) (key : String) (ms : Members) : Option Members :=
  if (ms.lookup key).isSome then none else some (ms ++ [(key, .value d)])

/-- Adds a value at a dotted key.  `origin` says how the table came about that the key starts from,
if the key has gone through one: it may end only in a dotted one. -/
def addDotted (d : Data) (origin : Option Origin) (ms : Members) : List String → Option Members
  | [] => none
  | [key] => if origin.isSome && origin != some .dotted then none else addAt d key ms
  | key :: path =>
    match ms.lookup key with
    | none =>
      (addDotted d (some .dotted) [] path).map fun inner => ms ++ [(key, .table .dotted inner)]
    | some (.table .header _) => none
    | some (.table origin inner) =>
      (addDotted d (some origin) inner path).map fun inner => put key (.table origin inner) ms
    | some (.tables closed last) =>
      (addDotted d (some .header) last path).map fun last => put key (.tables closed last) ms
    | some (.value _) => none

/-- Adds a value at a key of the table that is open. -/
def addValue (d : Data) (ms : Members) (path : List String) : Option Members :=
  addDotted d none ms path

/-- Opens the table of a header. -/
def openTable (key : String) (ms : Members) : Option Members :=
  match ms.lookup key with
  | none => some (ms ++ [(key, .table .header [])])
  | some (.table .implied inner) => some (put key (.table .header inner) ms)
  | some _ => none

/-- Opens a new table at the end of the list that a header names. -/
def appendTable (key : String) (ms : Members) : Option Members :=
  match ms.lookup key with
  | none => some (ms ++ [(key, .tables [] [])])
  | some (.tables closed last) => some (put key (.tables (closed ++ [last]) []) ms)
  | some _ => none

mutual

/-- The value of a node. -/
def Node.data : Node → Data
  | .value d => d
  | .table _ ms => .record (membersData ms)
  | .tables closed last => .list (closedData closed ++ [.record (membersData last)])

def membersData : List (String × Node) → List (String × Data)
  | [] => []
  | (key, n) :: rest => (key, n.data) :: membersData rest

def closedData : List (List (String × Node)) → List Data
  | [] => []
  | ms :: rest => .record (membersData ms) :: closedData rest

end

end ScanFleet.Toml
