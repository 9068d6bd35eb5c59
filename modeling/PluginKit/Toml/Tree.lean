import PluginKit.Json.Basic

/-!
# Trees of tables

A TOML document grows a tree of tables line by line. A table may be defined once: by its header, by
dotted keys, or as a value. A table that only stood on the way to another one may still get its
header.
-/

namespace PluginKit.Toml

/-- How a table came about. -/
inductive Origin where
  | onTheWay
  | header
  | dotted
  deriving DecidableEq, Repr

/-- An item under a key: a value, a table or a list of tables, the last one first. -/
inductive Item where
  | value (v : Json)
  | table (origin : Origin) (entries : List (String × Item))
  | tables (all : List (List (String × Item)))

/-- The entries of a table in the order of their definition. -/
abbrev Entries := List (String × Item)

namespace Entries

/-- Writes an entry in the place of one that is there, or at the end. -/
def set : Entries → String → Item → Entries
  | [], k, i => [(k, i)]
  | (k', i') :: rest, k, i => if k' = k then (k, i) :: rest else (k', i') :: set rest k i

/-- Defines a key that is not there. -/
def define (es : Entries) (key : String) (i : Item) : Option Entries :=
  match List.lookup key es with
  | some _ => none
  | none => some (es ++ [(key, i)])

/-- Changes the table that headers lead to. Tables that are missing on the way are made. -/
def alter (f : Entries → Option Entries) : List String → Entries → Option Entries
  | [], es => f es
  | k :: path, es =>
    match List.lookup k es with
    | none => (alter f path []).map fun inner => es ++ [(k, .table .onTheWay inner)]
    | some (.table origin inner) => (alter f path inner).map fun inner => set es k (.table origin inner)
    | some (.tables (last :: before)) =>
      (alter f path last).map fun last => set es k (.tables (last :: before))
    | some _ => none

/-- Opens the table of a header. -/
def openTable (key : String) (es : Entries) : Option Entries :=
  match List.lookup key es with
  | none => some (es ++ [(key, .table .header [])])
  | some (.table .onTheWay inner) => some (set es key (.table .header inner))
  | some _ => none

/-- Opens the next table of a list of tables. -/
def openNext (key : String) (es : Entries) : Option Entries :=
  match List.lookup key es with
  | none => some (es ++ [(key, .tables [[]])])
  | some (.tables all) => some (set es key (.tables ([] :: all)))
  | some _ => none

/-- Defines a dotted key. Only tables made by dotted keys can be extended so, though the way may lead
through others. `dotted` tells of the table where one stands. -/
def defineDotted (key : String) (i : Item) : Bool → List String → Entries → Option Entries
  | dotted, [], es => if dotted then define es key i else none
  | _, k :: path, es =>
    match List.lookup k es with
    | none => (defineDotted key i true path []).map fun inner => es ++ [(k, .table .dotted inner)]
    | some (.table .header _) => none
    | some (.table origin inner) =>
      (defineDotted key i (origin == .dotted) path inner).map fun inner =>
        set es k (.table origin inner)
    | some (.tables (last :: before)) =>
      (defineDotted key i false path last).map fun last => set es k (.tables (last :: before))
    | some _ => none

/-- Defines a key, given by its names. -/
def defineKey (names : List String) (i : Item) (es : Entries) : Option Entries :=
  match names.getLast? with
  | none => none
  | some key => defineDotted key i (names.length == 1) names.dropLast es

end Entries

mutual
/-- An item as a value. -/
def Item.toJson : Item → Json
  | .value v => v
  | .table _ es => .obj (membersOf es)
  | .tables all => .arr (itemsOf all)
/-- The entries of a table as members. -/
def membersOf : List (String × Item) → List (String × Json)
  | [] => []
  | (k, i) :: es => (k, i.toJson) :: membersOf es
/-- Tables, the last one first, as items. -/
def itemsOf : List (List (String × Item)) → List Json
  | [] => []
  | t :: ts => itemsOf ts ++ [.obj (membersOf t)]
end

end PluginKit.Toml
