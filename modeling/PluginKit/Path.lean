import PluginKit.Text.Blank

/-!
# Paths

Paths of the file system as texts: names between slashes, absolute if the first character is a
slash. A path is kept as it is written; only its components forget repeated slashes and dots that
stand for the place itself.
-/

namespace PluginKit.Path

/-- Whether a path starts at the root. -/
def isAbsolute (p : String) : Bool := p.toList.head? == some '/'

/-- A path taken relative to a place. -/
def join (place p : String) : String :=
  if isAbsolute p then p
  else if place = "" ∨ place.toList.getLast? = some '/' then place ++ p
  else place ++ "/" ++ p

/-- The names of a path without the empty ones and, after the first, without dots. -/
def components (p : String) : List String :=
  let names := (Text.splitAll '/' p.toList).map String.ofList
  match names with
  | "." :: rest => "." :: rest.filter fun n => n != "" && n != "."
  | names => names.filter fun n => n != "" && n != "."

/-- The path of names from the root or from where one stands. -/
def ofComponents (absolute : Bool) (names : List String) : String :=
  (if absolute then "/" else "") ++ "/".intercalate names

/-- The place that a path lies in. The root and the empty path lie nowhere. -/
def parent? (p : String) : Option String :=
  match components p with
  | [] => none
  | names => some (ofComponents (isAbsolute p) names.dropLast)

/-- Whether a path ends in a slash or in dots and so can only name a directory. -/
def namesDirectory (p : String) : Bool :=
  match ((Text.splitAll '/' p.toList).map String.ofList).getLast? with
  | some n => n == "" || n == "." || n == ".."
  | none => false

/-- The last name of a path, unless it leads upwards or nowhere. -/
def fileName? (p : String) : Option String :=
  match (components p).getLast? with
  | some ".." => none
  | some "." => none
  | other => other

/-- The last name up to its last dot. A dot at the start does not count. -/
def stem? (p : String) : Option String :=
  (fileName? p).map fun name =>
    match Text.splitLast '.' name.toList with
    | some (c :: cs, _) => String.ofList (c :: cs)
    | _ => name

end PluginKit.Path
