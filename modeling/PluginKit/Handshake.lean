import PluginKit.Config
import PluginKit.Fault
import PluginKit.System.Program

/-!
# Handshakes

After its start a plugin has to become ready: on a socket by its socket file, which the host looks for
again and again with growing pauses, on TCP by a line of output with its address.

## Main statements

- `readAddress_line`: a line with an address ends the reading, and what follows stays unread.
-/

namespace PluginKit.Handshake

open Text (Octets)

/-! ## Lines -/

/-- The octets of the first line and what follows, nothing at the end. The end of a line may be
written with a carriage return. -/
def nextLine (s : List UInt8) : Option (List UInt8 × List UInt8) :=
  let line := s.takeWhile (· != 0x0A)
  match s, s.dropWhile (· != 0x0A) with
  | [], _ => none
  | _, [] => some (line, [])
  | _, _ :: rest => some (if line.getLast? = some 0x0D then line.dropLast else line, rest)

/-- Less remains to be read after a line. -/
theorem nextLine_length {s line rest : List UInt8} (h : nextLine s = some (line, rest)) :
    rest.length < s.length := by
  have le : (s.dropWhile (· != 0x0A)).length ≤ s.length := (List.dropWhile_sublist _).length_le
  unfold nextLine at h
  split at h
  · simp at h
  · rename_i s' ne _
    simp only [Option.some.injEq, Prod.mk.injEq] at h
    rw [← h.2]
    exact List.length_pos_iff.mpr fun e => ne e
  · rename_i d rest' _ drop
    simp only [Option.some.injEq, Prod.mk.injEq] at h
    rw [drop, List.length_cons] at le
    rw [← h.2]
    omega

/-! ## Addresses on the output -/

/-- Why no address was read. -/
def closed (id : PluginId) : Fault :=
  .start id "stdout closed before the plugin reported its address"

/-- The output of a plugin that is no text. -/
def garbled (id : PluginId) : Fault :=
  .start id "failed to read plugin stdout: stream did not contain valid UTF-8"

/-- Reads lines up to one with an address. The result is the address and the octets after its line. -/
def readAddress (id : PluginId) (s : List UInt8) : Outcome (Place × List UInt8) :=
  match _h : nextLine s with
  | none => .error (closed id)
  | some (line, rest) =>
    match Text.decode? (ByteArray.mk line.toArray) with
    | none => .error (garbled id)
    | some text =>
      match Place.ofLine? text with
      | some place => .ok (place, rest)
      | none => readAddress id rest
termination_by s.length
decreasing_by exact nextLine_length _h

/-- A line with an address ends the reading, and what follows stays unread. -/
theorem readAddress_line {id : PluginId} {s line rest : List UInt8} {text : String} {place : Place}
    (first : nextLine s = some (line, rest))
    (decoded : Text.decode? (ByteArray.mk line.toArray) = some text)
    (found : Place.ofLine? text = some place) : readAddress id s = .ok (place, rest) := by
  rw [readAddress]
  split
  · rename_i h
    rw [first] at h
    exact absurd h (by simp)
  · rename_i l r h
    rw [first] at h
    obtain ⟨rfl, rfl⟩ := Prod.mk.inj (Option.some.inj h)
    simp [decoded, found]

/-- A result together with the time at which it is known. -/
structure Timed (α : Type) where
  time : Nat
  outcome : Outcome α

/-- The moments at which more output is there. Output that does not end with a line is only read when
the program has ended. -/
def moments (x : Execution) : List (Nat × List UInt8) :=
  let complete (time : Nat) : List UInt8 :=
    ((x.outputUntil time).toList.reverse.dropWhile (· != 0x0A)).reverse
  x.output.map (fun e => (e.1, complete e.1)) ++
    (x.ending.map fun e => (e.1, (x.outputUntil e.1).toList)).toList

/-- Waits for the address of a plugin on TCP, nothing if that has no end. -/
def waitForAddress (id : PluginId) (x : Execution) : Option (Timed Place) :=
  let outcomes := (moments x).map fun m => (m.1, readAddress id m.2)
  let early := outcomes.find? fun o =>
    match o.2 with
    | .ok _ => true
    | .error e => e.message != (closed id).message
  match early, x.ending with
  | some (time, r), _ => some { time, outcome := r.map Prod.fst }
  | none, some (time, _) => some { time, outcome := .error (closed id) }
  | none, none => none

/-! ## Socket files -/

/-- The pause after the one that was `delay` long. -/
def nextDelay (c : HandshakeConfig) (delay : Nat) : Nat := min (2 * delay) c.maxBackoffMillis

/-- Looks for the socket file of a plugin a number of times. A program that ends in a pause ends the
looking as well. -/
def lookForSocket (id : PluginId) (path : String) (c : HandshakeConfig) (isThere : Nat → Bool)
    (x : Execution) : Nat → Nat → Nat → Timed Place
  | 0, time, _ =>
    { time, outcome := .error (.start id ("socket " ++ path ++ " did not appear after " ++
        toString c.pollAttempts ++ " attempts")) }
  | left + 1, time, delay =>
    if isThere time then { time, outcome := .ok (.socket path) }
    else if x.endsBefore (time + delay) then
      { time := (x.ending.map Prod.fst).getD time,
        outcome := .error (.start id ("process exited before creating " ++ path)) }
    else lookForSocket id path c isThere x left (time + delay) (nextDelay c delay)

/-- Waits for the socket file of a plugin. -/
def waitForSocket (id : PluginId) (path : String) (c : HandshakeConfig) (isThere : Nat → Bool)
    (x : Execution) : Timed Place :=
  lookForSocket id path c isThere x c.pollAttempts 0 c.initialBackoffMillis

end PluginKit.Handshake
