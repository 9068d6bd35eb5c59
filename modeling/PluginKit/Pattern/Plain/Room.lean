import PluginKit.Pattern.Plain.Basic

/-!
# The room that plain patterns take

A pattern is refused that takes too much room, as repetitions within repetitions soon do. Room is counted
for an automaton that reads the octets of a text: a state takes as much as four words, and each way that
leads on from a state some more. A set of characters is laid out from the last octet to the first one,
and sets that start alike share their states.
-/

namespace PluginKit.Pattern.Plain

open Unicode (CharSet)

/-! ## Octets -/

/-- The octets of a code point. -/
def octets (n : Nat) : List Nat :=
  if n < 0x80 then [n]
  else if n < 0x800 then [0xC0 + n / 64, 0x80 + n % 64]
  else if n < 0x10000 then [0xE0 + n / 4096, 0x80 + n / 64 % 64, 0x80 + n % 64]
  else [0xF0 + n / 262144, 0x80 + n / 4096 % 64, 0x80 + n / 64 % 64, 0x80 + n % 64]

/-- A row of ranges of octets. -/
abbrev Row := List (Nat × Nat)

/-- The rows between two rows of octets of one length. -/
def rowsBetween : List Nat → List Nat → List Row
  | [a], [b] => [[(a, b)]]
  | a :: as, b :: bs =>
    if a = b then (rowsBetween as bs).map fun r => (a, a) :: r
    else
      let low := as.all (· == 0x80)
      let high := bs.all (· == 0xBF)
      let first := if low then [] else (rowsBetween as (as.map fun _ => 0xBF)).map fun r => (a, a) :: r
      let last := if high then [] else (rowsBetween (as.map fun _ => 0x80) bs).map fun r => (b, b) :: r
      let from' := if low then a else a + 1
      let upto := if high then b else b - 1
      let middle := if from' ≤ upto then [(from', upto) :: as.map fun _ => (0x80, 0xBF)] else []
      first ++ middle ++ last
  | _, _ => []
termination_by as => as.length
decreasing_by all_goals simp

/-- The ranges of characters by the number of their octets. Surrogates are no characters. -/
def bands : List (Nat × Nat) :=
  [(0, 0x7F), (0x80, 0x7FF), (0x800, 0xD7FF), (0xE000, 0xFFFF), (0x10000, Unicode.lastCodePoint)]

/-- The rows of octets of a set of characters. -/
def rows (s : CharSet) : List Row :=
  s.ranges.flatMap fun r => bands.flatMap fun b =>
    let first := max r.1 b.1
    let last := min r.2 b.2
    if first ≤ last then rowsBetween (octets first) (octets last) else []

/-- How many ranges at the start of two rows are the same. -/
def sharedRanges : Row → Row → Nat
  | a :: as, b :: bs => if a = b then sharedRanges as bs + 1 else 0
  | _, _ => 0

/-- How many states rows take that share what they start with. -/
def statesOf : Row → List Row → Nat
  | _, [] => 0
  | before, r :: rest => r.length - sharedRanges before r + statesOf r rest

/-! ## Room -/

/-- The room of a state. -/
def stateRoom : Nat := 32
/-- The room of a state where a choice is made. -/
def choiceRoom : Nat := stateRoom + 8

/-- The room of a set of characters. -/
def setRoom (s : CharSet) : Nat :=
  match s.ranges with
  | [(a, b)] =>
    if a = b then stateRoom * (octets a).length
    else if b < 0x80 then 2 * stateRoom + 8
    else wide
  | rs => if rs.all fun r => r.2 < 0x80 then 2 * stateRoom + 8 * rs.length else wide
where
  /-- The room of a set with characters of several octets. -/
  wide : Nat := 2 * stateRoom + 4 * (rows s).length + stateRoom * statesOf [] (rows s)

mutual
/-- The room of a pattern. -/
def room : Plain → Nat
  | .empty => stateRoom
  | .one s => setRoom s
  | .look _ => stateRoom
  | .group number p => room p + if number.isSome then 2 * stateRoom else 0
  | .repeated p least most _ =>
    match most with
    | none => room p * max least 1 + choiceRoom
    | some most =>
      room p * least + if least < most then (room p + choiceRoom) * (most - least) + stateRoom else 0
  | .seq ps => roomOf ps
  | .alt ps => roomOf ps + 2 * stateRoom + 4 * ps.length
/-- The room of some patterns. -/
def roomOf : List Plain → Nat
  | [] => 0
  | p :: ps => room p + roomOf ps
end

/-- The room that a pattern may take: ten times 1024 times 1024. -/
def roomLimit : Nat := 10485760

end PluginKit.Pattern.Plain
