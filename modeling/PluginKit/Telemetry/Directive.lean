import PluginKit.Pattern.Plain.Reader
import PluginKit.System.Files
import PluginKit.Telemetry.LogConfig

/-!
# Directives of a log filter

A directive says up to which level something is logged: everything, a target, or what happens within
a span. `target[span\{field=value\}]=level` is the full form, of which parts may be missing: a level
alone is a directive (`isDirective_level`). The default settings are accepted (`accepts_default`).
-/

namespace PluginKit.Telemetry

/-- The levels by their names, from silence to the most verbose. -/
def levelNames : List String := ["off", "error", "warn", "info", "debug", "trace"]

/-- The number that a text of digits stands for. One plus sign may stand before them. -/
def decimal? (s : List Char) : Option Nat :=
  let ds := match s with
    | '+' :: ds => ds
    | ds => ds
  if !ds.isEmpty && ds.all Char.isDigit then
    some (ds.foldl (fun n c => 10 * n + (c.toNat - '0'.toNat)) 0)
  else none

/-- Whether a text names a level: by its name in either case or by its number. -/
def isLevel (s : List Char) : Bool :=
  match decimal? s with
  | some n => n < levelNames.length
  | none => s.isEmpty || levelNames.contains (String.ofList (s.map Char.toLower))

/-! ## Fields -/

/-- A number after a plus sign: with a point or without, with an exponent or without, or one that is
none. -/
def isSignedNumber (s : List Char) : Bool :=
  let whole := s.takeWhile Char.isDigit
  let rest := s.drop whole.length
  let fraction := match rest with
    | '.' :: ds => ds.takeWhile Char.isDigit
    | _ => []
  let rest := match rest with
    | '.' :: ds => ds.drop fraction.length
    | rest => rest
  let exponent := match rest with
    | e :: ds =>
      let ds := if ds.head? = some '+' ∨ ds.head? = some '-' then ds.drop 1 else ds
      (e == 'e' || e == 'E') && !ds.isEmpty && ds.all Char.isDigit
    | [] => true
  (!(whole ++ fraction).isEmpty && exponent) ||
    ["inf", "infinity", "nan"].contains (String.ofList (s.map Char.toLower))

/-- Whether a text may be the value of a field: a number or a pattern that does not ask where words end. -/
def isFieldValue (s : List Char) : Bool :=
  (match s with
    | '+' :: rest => isSignedNumber rest
    | _ => false) ||
  (Pattern.Plain.read? s).any fun p => !p.anyLook Pattern.Look.asksWord

/-- Whether a text names a field, and its value after an equals sign. What follows another one does not
count. -/
def isField (s : List Char) : Bool :=
  !s.isEmpty &&
    match Text.splitAll '=' s with
    | _ :: value :: _ => isFieldValue value
    | _ => true

/-! ## Places -/

/-- The text after so many octets, which have to end with a character. -/
def dropOctets : List Char → Nat → Option (List Char)
  | s, 0 => some s
  | [], _ + 1 => none
  | c :: rest, n + 1 => if c.utf8Size ≤ n + 1 then dropOctets rest (n + 1 - c.utf8Size) else none

/-- The start of a text with so many octets. -/
def takeOctets : List Char → Nat → Option (List Char)
  | _, 0 => some []
  | [], _ + 1 => none
  | c :: rest, n + 1 =>
    if c.utf8Size ≤ n + 1 then (takeOctets rest (n + 1 - c.utf8Size)).map (c :: ·) else none

/-- The part of a text between two places. -/
def between (s : List Char) (start stop : Nat) : Option (List Char) :=
  (dropOctets s start).bind fun s => takeOctets s (stop - start)

/-! ## Directives -/

/-- The part of a directive that is read, with the place where it starts. -/
inductive DirectivePart where
  | start
  /-- In a text that is a target, or a level if nothing follows it. -/
  | target
  | span
  | field (start : Nat)
  | afterFields
  | afterSpan
  | level (start : Nat)
  /-- After a comma, which may only stand at the end. -/
  | finished
  deriving DecidableEq, Repr

/-- A character with which a target may start. -/
def startsTarget (c : Char) : Bool :=
  Unicode.Property.isAlphanumeric c || c == '-' || c == ':' || c == '_'

/-- One character further, at a place. Places are counted without the blanks in front, but what is
between them is taken from the whole text. -/
def DirectivePart.next (whole : List Char) (place : Nat) : DirectivePart → Char → Option DirectivePart
  | .start, '[' => some .span
  | .start, c => if startsTarget c then some .target else none
  | .target, '=' => some (.level (place + 1))
  | .target, '[' => some .span
  | .target, ',' => some .finished
  | .target, _ => some .target
  | .span, ']' => some .afterSpan
  | .span, '\x7b' => some (.field (place + 1))
  | .span, _ => some .span
  | .field first, '\x7d' => if (between whole first place).any isField then some .afterFields else none
  | .field first, ',' =>
    if (between whole first place).any isField then some (.field (place + 1)) else none
  | .field first, _ => some (.field first)
  | .afterFields, ']' => some .afterSpan
  | .afterFields, _ => none
  | .afterSpan, '=' => some (.level (place + 1))
  | .afterSpan, _ => none
  | .level first, ',' => if (between whole first place).any isLevel then some .finished else none
  | .level first, _ => some (.level first)
  | .finished, _ => none

/-- The part that is read after all characters. -/
def DirectivePart.run (whole : List Char) : Nat → DirectivePart → List Char → Option DirectivePart
  | _, part, [] => some part
  | place, part, c :: rest =>
    (part.next whole place c).bind fun part => run whole (place + c.utf8Size) part rest

/-- Whether a directive may end where one stands. -/
def DirectivePart.mayEnd (whole : List Char) : DirectivePart → Bool
  | .target => true
  | .afterSpan => true
  | .level first => (dropOctets whole first).any isLevel
  | .finished => true
  | _ => false

/-- Whether a text is a directive. -/
def isDirective (s : List Char) : Bool :=
  (DirectivePart.run s 0 .start (Text.trim s)).any (DirectivePart.mayEnd s)

/-- A level alone is a directive. -/
theorem isDirective_level : levelNames.all (fun s => isDirective s.toList) = true := by
  decide +kernel

/-- Whether a text is a list of directives between commas, some of which may be empty. -/
def isFilter (s : String) : Bool :=
  ((Text.splitAll ',' s.toList).filter fun d => !d.isEmpty).all isDirective

namespace LogConfig

/-- Whether level and directives can be read. -/
def accepts (c : LogConfig) : Bool :=
  isFilter c.level && c.directives.all fun d => isDirective d.toList

/-- The defaults are accepted. -/
theorem accepts_default : accepts {} = true := by decide +kernel

/-- Why logging cannot be set up. -/
inductive SetupFault where
  | filter
  | io (cause : IoError)
  deriving DecidableEq, Repr

/-- Sets logging up. Files get their directory, once level and directives have been read. -/
def setup (c : LogConfig) (fs : Files) : Except SetupFault Unit × Files :=
  if !c.accepts then (.error .filter, fs)
  else
    match c.target with
    | .file directory _ =>
      let (made, fs) := fs.makeDirectories directory
      (made.mapError .io, fs)
    | _ => (.ok (), fs)

end LogConfig

end PluginKit.Telemetry
