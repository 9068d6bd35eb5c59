import PluginKit.Table
import PluginKit.Text.Blank

/-!
# Type identifiers

A typed payload says what it is by an identifier `name[.group][/version]`, such as
`localBlob.access/v1`. The last slash starts the version and the first dot before it the group, so a
name holds no dot and a version no slash. The identifier without a name stands for "no type".

## Main statements

- `parse_nil`: nothing but blanks is the empty identifier.
- `compare_eq_iff`: identifiers are ordered by group, name and version, and only equal ones tie.
-/

namespace PluginKit

/-- A type identifier. An absent group or version is empty. -/
structure TypeId where
  group : String := ""
  name : String := ""
  version : String := ""
  deriving DecidableEq, Repr, Inhabited

namespace TypeId

/-- The empty identifier. -/
def empty : TypeId := {}

/-- Whether there is no name. -/
def isEmpty (t : TypeId) : Bool := t.name == ""

/-- Whether there is a version. -/
def isVersioned (t : TypeId) : Bool := t.version != ""

/-- The identifier without its version. -/
def unversioned (t : TypeId) : TypeId := { t with version := "" }

/-- The identifier with a name alone. -/
def ofName (name : String) : TypeId := { name }

/-- The identifier with a name and a version. -/
def versioned (name version : String) : TypeId := { name, version }

/-! ## Order -/

instance : Ord TypeId where
  compare := compareLex (compareOn group) (compareLex (compareOn name) (compareOn version))

instance : Std.TransOrd TypeId :=
  inferInstanceAs (Std.TransCmp
    (compareLex (compareOn group) (compareLex (compareOn name) (compareOn version))))

/-- Only equal identifiers tie. -/
theorem compare_eq_iff {a b : TypeId} : compare a b = .eq ↔ a = b := by
  constructor
  · intro h
    have h : compareLex (compareOn group) (compareLex (compareOn name) (compareOn version)) a b
        = .eq := h
    simp only [compareLex_eq_eq, compareOn, Std.LawfulEqOrd.compare_eq_iff_eq] at h
    obtain ⟨hg, hn, hv⟩ := h
    cases a
    cases b
    simp_all
  · rintro rfl
    exact Std.ReflCmp.compare_self

instance : Std.LawfulEqOrd TypeId := ⟨compare_eq_iff.1⟩

/-! ## Text -/

/-- The text of an identifier. -/
def text (t : TypeId) : String :=
  t.name ++ (if t.group = "" then "" else "." ++ t.group) ++
    (if t.version = "" then "" else "/" ++ t.version)

instance : ToString TypeId := ⟨text⟩

/-- Why a text is no identifier. -/
inductive Flaw where
  | emptyVersion
  | emptyGroup
  | emptyName
  | blankInside
  deriving DecidableEq, Repr

/-- The wording of a flaw. -/
def Flaw.message : Flaw → String
  | .emptyVersion => "version after '/' must not be empty"
  | .emptyGroup => "group after '.' must not be empty"
  | .emptyName => "name must not be empty"
  | .blankInside => "identifiers must not contain whitespace"

/-- A part that a separator starts, or an empty one where there is no separator. -/
def tail (flaw : Flaw) : Option (List Char × List Char) → List Char → Except Flaw (List Char × List Char)
  | none, s => .ok (s, [])
  | some (_, []), _ => .error flaw
  | some (before, after), _ => .ok (before, after)

/-- Reads an identifier from trimmed text. Version, group, name and blanks are judged in this
order. -/
def parseTrimmed (s : List Char) : Except Flaw TypeId :=
  if s.isEmpty then .ok empty
  else do
    let (head, version) ← tail .emptyVersion (Text.splitLast '/' s) s
    let (name, group) ← tail .emptyGroup (Text.splitFirst '.' head) head
    if name.isEmpty then throw .emptyName
    if s.any Text.isBlank then throw .blankInside
    return { group := String.ofList group, name := String.ofList name,
             version := String.ofList version }

/-- Reads an identifier. Blanks around it do not count. -/
def parse (s : String) : Except Flaw TypeId := parseTrimmed (Text.trim s.toList)

/-- The empty text reads as the empty identifier. -/
theorem parse_nil : parse "" = .ok empty := rfl

end TypeId

end PluginKit
