import PluginKit.Pattern.Plain.Basic
import Std.Data.HashSet

/-!
# Matching plain patterns

A plain pattern becomes a list of steps in which every way on is given by a distance. Where there are two
ways, the preferred one is taken first and the other one is kept. No choice is made twice at one position
of the text: what did not lead to a match before will not do so later.
-/

namespace PluginKit.Pattern.Plain

/-! ## Steps -/

/-- A step of a plain pattern. -/
inductive Op where
  | one (set : Unicode.CharSet)
  | look (condition : Look)
  /-- Remembers the position. -/
  | mark (slot : Nat)
  /-- Goes on or skips steps; a greedy choice prefers to go on. -/
  | fork (distance : Nat) (greedy : Bool)
  /-- Goes back or on; a greedy choice prefers to go back. -/
  | again (distance : Nat) (greedy : Bool)
  /-- Skips steps. -/
  | leap (distance : Nat)
  deriving Repr, Inhabited

/-- Steps several times over. -/
def copies (n : Nat) (ops : List Op) : List Op := (List.replicate n ops).flatten

/-- Steps several times over, where each time may be the last one. -/
def optionalCopies (ops : List Op) (greedy : Bool) : Nat → List Op
  | 0 => []
  | n + 1 => .fork ((n + 1) * (ops.length + 1)) greedy :: ops ++ optionalCopies ops greedy n

/-- Steps at least once. -/
def someTimes (ops : List Op) (greedy : Bool) : List Op := ops ++ [.again ops.length greedy]

/-- Repeated steps. -/
def repeatedCode (ops : List Op) (least : Nat) (most : Option Nat) (greedy : Bool) : List Op :=
  match most, least with
  | some most, least => copies least ops ++ optionalCopies ops greedy (most - least)
  | none, 0 =>
    let body := someTimes ops greedy
    .fork (body.length + 1) greedy :: body
  | none, n + 1 => copies n ops ++ someTimes ops greedy

mutual
/-- The steps of a pattern. -/
def code : Plain → List Op
  | .empty => []
  | .one s => [.one s]
  | .look l => [.look l]
  | .group none p => code p
  | .group (some n) p => .mark (2 * n) :: code p ++ [.mark (2 * n + 1)]
  | .repeated p least most greedy => repeatedCode (code p) least most greedy
  | .seq ps => sequenceCode ps
  | .alt ps => choiceCode ps
/-- The steps of patterns one after another. -/
def sequenceCode : List Plain → List Op
  | [] => []
  | p :: ps => code p ++ sequenceCode ps
/-- The steps of a choice between patterns. -/
def choiceCode : List Plain → List Op
  | [] => [.one .empty]
  | [p] => code p
  | p :: q :: ps =>
    let first := code p
    let others := choiceCode (q :: ps)
    .fork (first.length + 2) true :: first ++ .leap (others.length + 1) :: others
end

/-! ## Runs -/

/-- A thread of the search: the step, the position in the text, and the marks that were set. -/
structure Thread where
  step : Nat
  position : Nat
  marks : List (Nat × Nat) := []
  deriving Inhabited

/-- The mark that was set last in a slot. -/
def Thread.mark? (t : Thread) (slot : Nat) : Option Nat := (t.marks.find? fun m => m.1 == slot).map Prod.snd

namespace Thread

/-- The two ways on, the preferred one first. -/
def ways (t : Thread) (near far : Nat) (nearFirst : Bool) : List Thread :=
  let a := { t with step := near }
  let b := { t with step := far }
  if nearFirst then [a, b] else [b, a]

/-- The threads that a step leads to. -/
def next (t : Thread) (op : Op) (text : Text) : List Thread :=
  match op with
  | .one s =>
    match text[t.position]? with
    | some c => if s.has c.toNat then [{ t with step := t.step + 1, position := t.position + 1 }] else []
    | none => []
  | .look l => if l.holds text t.position then [{ t with step := t.step + 1 }] else []
  | .mark slot => [{ t with step := t.step + 1, marks := (slot, t.position) :: t.marks }]
  | .fork d greedy => t.ways (t.step + 1) (t.step + d) greedy
  | .again d greedy => t.ways (t.step - d) (t.step + 1) greedy
  | .leap d => [{ t with step := t.step + d }]

end Thread

/-- Whether a step is a choice. -/
def Op.isChoice : Op → Bool
  | .fork _ _ => true
  | .again _ _ => true
  | _ => false

/-- Runs threads, the first one as long as it lives, until one of them gets past the last step. Choices
are made once for each position. -/
def run (ops : Array Op) (text : Text) : Nat → Std.HashSet Nat → List Thread → Option Thread
  | 0, _, _ => none
  | _, _, [] => none
  | fuel + 1, made, t :: others =>
    match ops[t.step]? with
    | none => some t
    | some op =>
      if op.isChoice then
        let key := t.step * (text.size + 1) + t.position
        if made.contains key then run ops text fuel made others
        else run ops text fuel (made.insert key) (t.next op text ++ others)
      else run ops text fuel made (t.next op text ++ others)

/-- As many steps as runs can take: each choice is made once for each position and leads to two ways,
none of which has more steps than there are. -/
def runLength (ops : Array Op) (text : Text) : Nat :=
  2 * (ops.size + 2) * (text.size + 2) * (ops.size + text.size + 2)

/-- The preferred match that starts at a position. -/
def matchAt (ops : Array Op) (text : Text) (i : Nat) : Option Thread :=
  run ops text (runLength ops text) {} [⟨0, i, []⟩]

/-- Whether there is a match anywhere. -/
def occurs (ops : Array Op) (text : Text) : Bool :=
  (run ops text (runLength ops text) {}
    ((List.range (text.size + 1)).map fun i => ⟨0, i, []⟩)).isSome

end PluginKit.Pattern.Plain
