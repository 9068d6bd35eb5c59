/-!
# Internet addresses

Addresses of versions 4 and 6 with a port, as plugins print them. Reading is strict: a decimal part
of a version 4 address has no leading zero, a group of a version 6 address at most four digits. In
the written form of a version 6 address the first of the longest runs of two or more zero groups is
left out, and an address that embeds one of version 4 shows it.
-/

namespace PluginKit.Net

/-- Four octets. -/
structure V4 where
  octets : List Nat
  deriving DecidableEq, Repr

/-- Eight groups of sixteen bits. -/
structure V6 where
  groups : List Nat
  deriving DecidableEq, Repr

/-- An address and a port. A version 6 address may be bound to a scope. -/
inductive Address where
  | v4 (ip : V4) (port : Nat)
  | v6 (ip : V6) (scope port : Nat)
  deriving DecidableEq, Repr

/-! ## Writing -/

/-- The text of a version 4 address. -/
def V4.text (ip : V4) : String := ".".intercalate (ip.octets.map toString)

/-- The digits of a group. -/
def groupText (g : Nat) : String := String.ofList (Nat.toDigits 16 g)

/-- The text of groups in a row. -/
def groupsText (gs : List Nat) : String := ":".intercalate (gs.map groupText)

/-- The number of zeros at the start. -/
def zerosAhead (gs : List Nat) : Nat := (gs.takeWhile (· == 0)).length

/-- Start and length of the first of the longest runs of zeros. -/
def longestZeros (start : Nat) : List Nat → Nat × Nat
  | [] => (start, 0)
  | g :: gs =>
    let here := zerosAhead (g :: gs)
    let later := longestZeros (start + 1) gs
    if here = 0 ∨ here < later.2 then later else (start, here)

/-- The text of a version 6 address by its groups. -/
def V6.textOfGroups (ip : V6) : String :=
  let (start, length) := longestZeros 0 ip.groups
  if 1 < length then
    groupsText (ip.groups.take start) ++ "::" ++ groupsText (ip.groups.drop (start + length))
  else groupsText ip.groups

/-- The text of a version 6 address. -/
def V6.text (ip : V6) : String :=
  match ip.groups with
  | [0, 0, 0, 0, 0, 0xFFFF, a, b] =>
    "::ffff:" ++ V4.text ⟨[a / 256, a % 256, b / 256, b % 256]⟩
  | _ => ip.textOfGroups

/-- The text of an address with its port. The scope is shown unless it is zero. -/
def Address.text : Address → String
  | .v4 ip port => ip.text ++ ":" ++ toString port
  | .v6 ip scope port =>
    "[" ++ ip.text ++ (if scope = 0 then "" else "%" ++ toString scope) ++ "]:" ++ toString port

/-! ## Reading -/

/-- A reader: it takes a value from the start of a text and leaves the rest. -/
abbrev Read (α : Type) := List Char → Option (α × List Char)

/-- The value of a digit in a base up to 16. -/
def digit? (base : Nat) (c : Char) : Option Nat :=
  let n :=
    if c.isDigit then c.toNat - '0'.toNat
    else if 'a' ≤ c ∧ c ≤ 'f' then c.toNat - 'a'.toNat + 10
    else if 'A' ≤ c ∧ c ≤ 'F' then c.toNat - 'A'.toNat + 10
    else 16
  if n < base then some n else none

/-- The digits at the start of a text. -/
def digitsAhead (base : Nat) (s : List Char) : List Nat :=
  (s.takeWhile fun c => (digit? base c).isSome).filterMap (digit? base)

/-- A number below a bound. `most` limits its digits, if it does. -/
def number (base bound : Nat) (most : Option Nat) (leadingZero : Bool) : Read Nat := fun s =>
  let ds := digitsAhead base s
  let n := ds.foldl (fun a d => a * base + d) 0
  if ds.isEmpty || most.any (· < ds.length) || (!leadingZero && ds.head? == some 0 && 1 < ds.length)
      || bound ≤ n then
    none
  else some (n, s.drop ds.length)

/-- One given character. -/
def given (c : Char) : Read Unit
  | d :: r => if d = c then some ((), r) else none
  | [] => none

/-- The reader of one of several parts, which has a separator in front of it unless it is the first one.
-/
def separated {α : Type} (sep : Char) (index : Nat) (r : Read α) : Read α := fun s =>
  if index = 0 then r s else (given sep s).bind fun p => r p.2

/-- The octets from a place on. -/
def octetsFrom : Nat → Nat → Read (List Nat)
  | 0, _, s => some ([], s)
  | n + 1, index, s => do
    let (o, s) ← separated '.' index (number 10 256 (some 3) false) s
    let (os, s) ← octetsFrom n (index + 1) s
    return (o :: os, s)

/-- A version 4 address. -/
def readV4 : Read V4 := fun s => (octetsFrom 4 0 s).map fun p => (⟨p.1⟩, p.2)

/-- As many groups as there are, up to a limit. The flag tells that a version 4 address ended
them. -/
def readGroups : Nat → Nat → List Char → (List Nat × Bool) × List Char
  | 0, _, s => (([], false), s)
  | limit + 1, index, s =>
    let embedded := if limit = 0 then none else separated ':' index readV4 s
    match embedded with
    | some (⟨[a, b, c, d]⟩, rest) => (([a * 256 + b, c * 256 + d], true), rest)
    | _ =>
      match separated ':' index (number 16 65536 (some 4) true) s with
      | none => (([], false), s)
      | some (g, rest) =>
        let ((gs, ended), rest) := readGroups limit (index + 1) rest
        ((g :: gs, ended), rest)

/-- A version 6 address. A version 4 address cannot stand before the gap. -/
def readV6 : Read V6 := fun s =>
  let ((ahead, ended), rest) := readGroups 8 0 s
  if ahead.length = 8 then some (⟨ahead⟩, rest)
  else if ended then none
  else do
    let (_, rest) ← given ':' rest
    let (_, rest) ← given ':' rest
    let ((behind, _), rest) := readGroups (7 - ahead.length) 0 rest
    return (⟨ahead ++ List.replicate (8 - ahead.length - behind.length) 0 ++ behind⟩, rest)

/-- A port after its colon. -/
def readPort : Read Nat := fun s => (given ':' s).bind fun p => number 10 65536 none true p.2

/-- A scope after its sign. -/
def readScope : Read Nat := fun s => (given '%' s).bind fun p => number 10 0x100000000 none true p.2

/-- A version 4 address with a port. -/
def readAddress4 : Read Address := fun s => do
  let (ip, s) ← readV4 s
  let (port, s) ← readPort s
  return (.v4 ip port, s)

/-- A version 6 address between brackets with a port. -/
def readAddress6 : Read Address := fun s => do
  let (_, s) ← given '[' s
  let (ip, s) ← readV6 s
  let (scope, s) := (readScope s).getD (0, s)
  let (_, s) ← given ']' s
  let (port, s) ← readPort s
  return (.v6 ip scope port, s)

/-- Reads an address with its port; nothing may follow. -/
def Address.parse? (s : List Char) : Option Address :=
  match (readAddress4 s).or (readAddress6 s) with
  | some (a, []) => some a
  | _ => none

end PluginKit.Net
