import PluginKit.System.Program
import PluginKit.Text.Blank

/-!
# Scripts

Binaries of plugins that are tried out are short shell scripts: simple commands one after another,
joined by their success or failure, with quotes, parameters and output that goes to files. Commands
take no time except those that sleep.

## Main statements

- `run_nil`: a script without commands ends at once and successfully.
-/

namespace PluginKit.Testing.Script

open Text (Octets)

/-! ## Words -/

/-- A piece of a word: text, or the value of a parameter. Values without quotes fall into several
words at their blanks. -/
inductive Piece where
  | text (s : List Char)
  | parameter (quoted : Bool) (name : String)
  deriving DecidableEq, Repr

/-- A word of a script, or a mark between words. -/
inductive Token where
  | word (pieces : List Piece)
  | mark (s : String)
  deriving DecidableEq, Repr

/-- A character of a name. -/
def inName (c : Char) : Bool := c.isAlphanum || c == '_'

/-- The parameter after a dollar sign. A lone dollar sign stands for itself. -/
def readParameter (quoted : Bool) : List Char → Piece × List Char
  | '\x7b' :: s =>
    (.parameter quoted (String.ofList (s.takeWhile (· != '\x7d'))),
      (s.dropWhile (· != '\x7d')).drop 1)
  | c :: s =>
    if c == '#' || c == '$' || c == '?' || c == '@' || c == '*' || c.isDigit then
      (.parameter quoted (String.ofList [c]), s)
    else if inName c then
      (.parameter quoted (String.ofList ((c :: s).takeWhile inName)), (c :: s).dropWhile inName)
    else (.text ['$'], c :: s)
  | [] => (.text ['$'], [])

/-- The rest of a text in double quotes. -/
def readDouble : Nat → List Char → List Piece × List Char
  | 0, s => ([], s)
  | fuel + 1, s =>
    match s with
    | '"' :: s => ([], s)
    | '\\' :: c :: s =>
      let (ps, s) := readDouble fuel s
      let kept := if c = '$' ∨ c = '"' ∨ c = '\\' ∨ c = Char.ofNat 0x60 then [c] else ['\\', c]
      (.text kept :: ps, s)
    | '$' :: s =>
      let (p, s) := readParameter true s
      let (ps, s) := readDouble fuel s
      (p :: ps, s)
    | c :: s =>
      let (ps, s) := readDouble fuel s
      (.text [c] :: ps, s)
    | [] => ([], [])

/-- A character that ends a word. -/
def endsWord (c : Char) : Bool :=
  c == ' ' || c == '\t' || c == '\n' || c == ';' || c == '&' || c == '|' || c == '>' || c == '<'

/-- The rest of a word. -/
def readWord : Nat → List Char → List Piece × List Char
  | 0, s => ([], s)
  | fuel + 1, s =>
    match s with
    | [] => ([], [])
    | '\'' :: s =>
      let (ps, rest) := readWord fuel ((s.dropWhile (· != '\'')).drop 1)
      (.text (s.takeWhile (· != '\'')) :: ps, rest)
    | '"' :: s =>
      let (inner, s) := readDouble (s.length + 1) s
      let (ps, s) := readWord fuel s
      (.text [] :: inner ++ ps, s)
    | '\\' :: c :: s =>
      let (ps, s) := readWord fuel s
      (.text [c] :: ps, s)
    | '$' :: s =>
      let (p, s) := readParameter false s
      let (ps, s) := readWord fuel s
      (p :: ps, s)
    | c :: rest =>
      if endsWord c then ([], s)
      else
        let (ps, s) := readWord fuel rest
        (.text [c] :: ps, s)

/-- The marks that there are, the longer ones first. -/
def marks : List String := ["2>&1", ">&2", "1>&2", "2>>", "2>", ">>", ">", "&&", "||", ";", "\n", "&"]

/-- The mark at the start of a text. -/
def mark? (s : List Char) : Option String := marks.find? fun m => m.toList.isPrefixOf s

/-- Words and marks. A comment goes to the end of its line. -/
def tokens : Nat → List Char → List Token
  | 0, _ => []
  | fuel + 1, s =>
    match s with
    | [] => []
    | ' ' :: s => tokens fuel s
    | '\t' :: s => tokens fuel s
    | '#' :: s => tokens fuel (s.dropWhile (· != '\n'))
    | s =>
      match mark? s with
      | some m => .mark m :: tokens fuel (s.drop m.length)
      | none =>
        let (ps, rest) := readWord (s.length + 1) s
        .word ps :: tokens fuel rest

/-! ## Commands -/

/-- The target of the output of a command. -/
inductive Target where
  | output
  | nowhere
  | file (append : Bool) (path : List Piece)
  deriving DecidableEq, Repr

/-- A simple command. -/
structure Command where
  words : List (List Piece) := []
  target : Target := .output
  deriving DecidableEq, Repr

/-- When a command is run, by the success of what came before. -/
inductive Junction where
  | always
  | onSuccess
  | onFailure
  deriving DecidableEq, Repr

/-- Commands of tokens. -/
def commands (when_ : Junction) (c : Command) : List Token → List (Junction × Command)
  | [] => [(when_, c)]
  | .mark "&&" :: rest => (when_, c) :: commands .onSuccess {} rest
  | .mark "||" :: rest => (when_, c) :: commands .onFailure {} rest
  | .mark ">" :: .word p :: rest => commands when_ { c with target := .file false p } rest
  | .mark ">>" :: .word p :: rest => commands when_ { c with target := .file true p } rest
  | .mark "2>" :: .word _ :: rest => commands when_ c rest
  | .mark "2>>" :: .word _ :: rest => commands when_ c rest
  | .mark "2>&1" :: rest => commands when_ c rest
  | .mark ">&2" :: rest => commands when_ { c with target := .nowhere } rest
  | .mark "1>&2" :: rest => commands when_ { c with target := .nowhere } rest
  | .mark _ :: rest => (when_, c) :: commands .always {} rest
  | .word w :: rest => commands when_ { c with words := c.words ++ [w] } rest

/-! ## Running -/

/-- How far a script has come. -/
structure Progress where
  files : Files
  arguments : List String
  assigned : List (String × String) := []
  time : Nat := 0
  status : Nat := 0
  done : Execution := {}

namespace Progress

/-- The value of a parameter. -/
def value (p : Progress) (name : String) : String :=
  match name with
  | "#" => toString p.arguments.length
  | "?" => toString p.status
  | "$" => "$$"
  | "@" => " ".intercalate p.arguments
  | "*" => " ".intercalate p.arguments
  | name =>
    match name.toNat? with
    | some 0 => "script"
    | some (n + 1) => (p.arguments[n]?).getD ""
    | none => (p.assigned.lookup name).getD ""

/-- The value of a word as one text. -/
def joined (p : Progress) (w : List Piece) : String :=
  String.join (w.map fun
    | .text s => String.ofList s
    | .parameter _ name => p.value name)

/-- The words that a word stands for. -/
def expand (p : Progress) (w : List Piece) : List String :=
  match w with
  | [.parameter false name] => ((p.value name).splitOn " ").filter (· != "")
  | w => [p.joined w]

/-- Ends the script. -/
def finish (p : Progress) (e : Ending) : Progress :=
  { p with done := { p.done with ending := some (p.time, e) } }

/-- Changes the files, if that succeeds. -/
def change (p : Progress) (r : Except IoError Files) : Progress :=
  match r with
  | .ok files =>
    { p with files, status := 0, done := { p.done with files := p.done.files ++ [(p.time, files)] } }
  | .error _ => { p with status := 1 }

/-- Writes where the output of a command goes. -/
def write (p : Progress) (t : Target) (octets : Octets) : Progress :=
  match t with
  | .output =>
    { p with status := 0, done := { p.done with output := p.done.output ++ [(p.time, octets)] } }
  | .nowhere => { p with status := 0 }
  | .file append w =>
    let path := p.joined w
    let before := if append then ((p.files.read path).toOption).getD .empty else .empty
    p.change (p.files.write path (before ++ octets))

/-- Lets time pass. -/
def sleep (p : Progress) (millis : Nat) : Progress := { p with time := p.time + millis, status := 0 }

end Progress

/-- The characters that escapes with letters stand for. -/
def escapes : List (Char × Char) :=
  [('n', '\n'), ('t', '\t'), ('r', '\r'), ('\\', '\\'), ('a', '\x07'), ('b', '\x08'), ('f', '\x0c'),
    ('v', '\x0b'), ('"', '"')]

/-- A digit of an octal number. -/
def isOctal (c : Char) : Bool := '0' ≤ c && c ≤ '7'

/-- Reads an escape after its backslash. Up to three octal digits stand for an octet, where `echo` wants a
zero before them. -/
def readEscape (zero : Bool) (c : Char) (s : List Char) : Octets × List Char :=
  match escapes.lookup c with
  | some d => (Text.encode (String.singleton d), s)
  | none =>
    if isOctal c && (!zero || c == '0') then
      let digits := ((if zero then s else c :: s).take 3).takeWhile isOctal
      let octet := digits.foldl (fun n d => 8 * n + (d.toNat - '0'.toNat)) 0
      (ByteArray.mk #[octet.toUInt8], if zero then s.drop digits.length else s.drop (digits.length - 1))
    else (Text.encode (String.ofList ['\\', c]), s)

/-- A text with its escapes resolved. -/
def unescape : Nat → List Char → Octets
  | fuel + 1, '\\' :: c :: s =>
    let (octets, s) := readEscape true c s
    octets ++ unescape fuel s
  | fuel + 1, c :: s => Text.encode (String.singleton c) ++ unescape fuel s
  | _, _ => .empty

/-- A format filled with texts. -/
def format : Nat → List Char → List String → Octets
  | fuel + 1, '%' :: '%' :: s, xs => Text.encode "%" ++ format fuel s xs
  | fuel + 1, '%' :: c :: s, xs =>
    if c = 's' ∨ c = 'd' then Text.encode (xs.head?.getD "") ++ format fuel s (xs.drop 1)
    else Text.encode (String.ofList ['%', c]) ++ format fuel s xs
  | fuel + 1, '\\' :: c :: s, xs =>
    let (octets, s) := readEscape false c s
    octets ++ format fuel s xs
  | fuel + 1, c :: s, xs => Text.encode (String.singleton c) ++ format fuel s xs
  | _, _, _ => .empty

/-- The places to fill in a format. -/
def places : List Char → Nat
  | '%' :: '%' :: s => places s
  | '%' :: _ :: s => places s + 1
  | _ :: s => places s
  | [] => 0

/-- A format filled with texts again and again until all are used. -/
def formatAll (f : List Char) : Nat → List String → Octets
  | 0, _ => .empty
  | fuel + 1, xs =>
    let n := places f
    format f.length f xs ++ if n = 0 ∨ xs.length ≤ n then .empty else formatAll f fuel (xs.drop n)

/-- The output of `echo` for its arguments, before it ends the line. -/
def echo (arguments : List String) : Octets :=
  let cs := (" ".intercalate arguments).toList
  unescape cs.length cs

/-- A number of seconds with a fraction, in milliseconds. -/
def millis (s : String) : Nat :=
  match s.splitOn "." with
  | [whole] => 1000 * whole.toNat?.getD 0
  | [whole, part] => 1000 * whole.toNat?.getD 0 + ((part ++ "000").take 3).toNat?.getD 0
  | _ => 0

/-- A signal by its name or number. -/
def signal (s : String) : Nat :=
  match s.toNat? with
  | some n => n
  | none => ((Ending.signalNames.find? fun e => e.2 == "SIG" ++ s || e.2 == s).map Prod.fst).getD 15

/-- Whether a condition holds. -/
def holds (fs : Files) : List String → Bool
  | [a, "=", b] => a == b
  | [a, "!=", b] => a != b
  | ["-z", a] => a == ""
  | ["-n", a] => a != ""
  | ["-e", a] => fs.pathExists a
  | ["-d", a] => fs.isDirectory a
  | ["-f", a] => fs.pathExists a && !fs.isDirectory a
  | "!" :: rest => !holds fs rest
  | [a] => a != ""
  | _ => false

/-- Does what a command says. -/
def perform (p : Progress) (t : Target) : List String → Progress
  | [] => match t with
    | .file _ _ => p.write t .empty
    | _ => p
  | "echo" :: "-n" :: rest => p.write t (echo rest)
  | "echo" :: rest => p.write t (echo rest ++ Text.encode "\n")
  | "printf" :: f :: rest =>
    p.write t (formatAll f.toList (rest.length + 1) rest)
  | ["exit"] => p.finish (.exited p.status)
  | "exit" :: n :: _ => p.finish (.exited (n.toNat?.getD 2 % 256))
  | ["kill", "$$"] => p.finish (.signalled 15)
  | ["kill", "-s", s, "$$"] => p.finish (.signalled (signal s))
  | ["kill", s, "$$"] => p.finish (.signalled (signal (s.drop 1).toString))
  | "sleep" :: n :: _ => p.sleep (millis n)
  | "touch" :: paths =>
    paths.foldl (fun p path => if p.files.pathExists path then p else p.change (p.files.write path .empty))
      { p with status := 0 }
  | "mkdir" :: "-p" :: paths =>
    paths.foldl (fun p path =>
      let (r, files) := p.files.makeDirectories path
      p.change (r.map fun _ => files)) p
  | "mkdir" :: paths => paths.foldl (fun p path => p.change (p.files.makeDirectory path)) p
  | "rm" :: "-f" :: paths =>
    { paths.foldl (fun p path => p.change (p.files.remove path)) p with status := 0 }
  | "rm" :: paths => paths.foldl (fun p path => p.change (p.files.remove path)) p
  | "cat" :: paths =>
    paths.foldl (fun p path =>
      match p.files.read path with
      | .ok octets => p.write t octets
      | .error _ => { p with status := 1 }) { p with status := 0 }
  | "test" :: rest => { p with status := if holds p.files rest then 0 else 1 }
  | "[" :: rest => { p with status := if holds p.files rest.dropLast then 0 else 1 }
  | "shift" :: _ => { p with arguments := p.arguments.drop 1, status := 0 }
  | ":" :: _ => { p with status := 0 }
  | "true" :: _ => { p with status := 0 }
  | "false" :: _ => { p with status := 1 }
  | "trap" :: _ => { p with status := 0 }
  | "set" :: _ => { p with status := 0 }
  | "export" :: _ => { p with status := 0 }
  | _ => { p with status := 127 }

/-- A variable that gets a value. -/
def assignment? (p : Progress) (w : List Piece) : Option (String × String) :=
  match Text.splitFirst '=' (p.joined w).toList, w with
  | some (name, v), .text (c :: _) :: _ =>
    if c.isAlpha && name.all inName then some (String.ofList name, String.ofList v) else none
  | _, _ => none

/-- Runs a command. -/
def runCommand (p : Progress) (c : Command) : Progress :=
  match c.words with
  | [w] =>
    match assignment? p w with
    | some v => { p with assigned := v :: p.assigned, status := 0 }
    | none => perform p c.target (p.expand w)
  | ws =>
    match ws.flatMap p.expand with
    | "exec" :: rest =>
      if rest.isEmpty then p
      else
        let p := perform p c.target rest
        if p.done.ending.isSome then p else p.finish (.exited p.status)
    | words => perform p c.target words

/-- Runs commands until the script ends. -/
def runAll (p : Progress) : List (Junction × Command) → Progress
  | [] => p
  | (when_, c) :: rest =>
    if p.done.ending.isSome then p
    else
      let due := match when_ with
        | .always => true
        | .onSuccess => p.status = 0
        | .onFailure => p.status ≠ 0
      if c.words.isEmpty ∧ c.target = .output then runAll p rest
      else runAll (if due then runCommand p c else p) rest

/-- Runs the text of a script. -/
def run (fs : Files) (text : String) (arguments : List String) : Execution :=
  let cs := text.toList
  let p := runAll { files := fs, arguments } (commands .always {} (tokens (cs.length + 1) cs))
  if p.done.ending.isSome then p.done else (p.finish (.exited p.status)).done

/-- A script without commands ends at once and successfully. -/
theorem run_nil (fs : Files) (arguments : List String) :
    (run fs "" arguments).ending = some (0, .exited 0) := rfl

/-- The shells that scripts may name. -/
def shells : List String :=
  ["/bin/sh", "/bin/bash", "/bin/dash", "/usr/bin/sh", "/usr/bin/bash", "/usr/bin/env sh",
    "/usr/bin/env bash"]

/-- The programs of a site on which every program is a script. -/
def programs : Programs := fun fs content arguments =>
  match Text.decodeLossy content |>.splitOn "\n" with
  | first :: rest =>
    if "#!".isPrefixOf first then
      let shell := String.ofList (Text.trim (first.toList.drop 2))
      if shell ∈ shells then .ok (run fs ("\n".intercalate rest) arguments) else .error .notFound
    else .error (.os 8)
  | [] => .error (.os 8)

end PluginKit.Testing.Script
