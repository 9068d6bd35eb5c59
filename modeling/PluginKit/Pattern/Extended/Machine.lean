import PluginKit.Pattern.Extended.Reader
import PluginKit.Pattern.Plain.Machine
import PluginKit.Pattern.Plain.Room

/-!
# Matching extended patterns

An extended pattern becomes a list of steps in which every way on is given by a distance. What is plain
in it becomes a single step that takes the preferred match, as long as nothing that follows could need
another one. Every other choice leaves a branch behind, to which one returns when no step is possible;
a search that fails too often is given up.
-/

namespace PluginKit.Pattern.Extended

open Plain (Op)

/-! ## Steps -/

/-- A step of an extended pattern. -/
inductive Step where
  | any (lineEnds : Bool)
  | chars (cs : List Char)
  | one (set : Unicode.CharSet)
  | look (condition : Look)
  /-- Goes on or skips steps; a greedy choice prefers to go on. -/
  | fork (distance : Nat) (greedy : Bool)
  /-- Goes back or on; a greedy choice prefers to go back. -/
  | again (distance : Nat) (greedy : Bool)
  /-- Skips steps. -/
  | leap (distance : Nat)
  /-- Goes back. -/
  | loop (distance : Nat)
  /-- Remembers the position. -/
  | mark (slot : Nat)
  /-- Starts to count. -/
  | reset (slot : Nat)
  /-- Returns to a position. -/
  | restore (slot : Nat)
  /-- Counts a repetition, or skips steps. -/
  | count (least : Nat) (most : Option Nat) (distance slot : Nat) (greedy : Bool)
  /-- Counts a repetition that may be empty, but only the first time, or skips steps. -/
  | countFilled (least distance slot check : Nat) (greedy : Bool)
  /-- Goes back in the text. -/
  | retreat (distance : Nat)
  /-- Gives up, with all branches since the next step was left as a branch. -/
  | refuse
  | same (group : Nat)
  | known (group : Nat)
  /-- Takes the preferred match of a plain pattern, whose groups are numbered from one on. -/
  | plain (ops : Array Op) (first count : Nat)
  /-- Remembers the branches there are. -/
  | atomic
  /-- Gives up the branches since they were remembered. -/
  | commit
  | resume
  deriving Inhabited

/-- Steps are made from patterns, with slots that are taken one after the other. No steps are made from
what is no pattern, or takes too much room. -/
abbrev Emit := StateT Nat Option

/-- Takes a slot. -/
def newSlot : Emit Nat := modifyGet fun n => (n, n + 1)

/-- The step of a plain pattern. -/
def plainStep (text : List Char) (groups : List Nat) : Emit (List Step) := do
  let p ← (Plain.read? text : Option Plain)
  if Plain.roomLimit < p.room then failure
  match p with
  | .one s => pure [.one s]
  | p => pure [.plain p.code.toArray (groups.headD 0) groups.length]

/-- The step of plain parts in a row. -/
def plainSteps (wanted : List Nat) (parts : List Extended) : Emit (List Step) :=
  if parts.isEmpty then pure []
  else
    let facts := factsInRow wanted parts
    match facts.chars with
    | some cs => pure [.chars cs]
    | none => plainStep (parts.flatMap (written 1)) facts.groups

/-- Looks ahead, or behind by the number of characters that a pattern takes. -/
def lookSteps (facts : Facts) (behind : Bool) (inner : List Step) : Emit (List Step) :=
  if behind then if facts.fixed then pure (.retreat facts.least :: inner) else failure
  else pure inner

/-- Looks for a pattern and returns to where one stood. -/
def lookFor (inner : List Step) : Emit (List Step) := do
  let slot ← newSlot
  pure (.mark slot :: inner ++ [.restore slot])

/-- Looks for the absence of a pattern. -/
def lookAgainst (inner : List Step) : List Step := .fork (inner.length + 2) true :: inner ++ [.refuse]

/-- Repeated steps. -/
def repeatedSteps (facts : Facts) (least : Nat) (most : Option Nat) (greedy : Bool) (inner : List Step) :
    Emit (List Step) :=
  let n := inner.length
  if least = 0 ∧ most = some 1 then pure (.fork (n + 1) greedy :: inner)
  else if most = none ∧ facts.least = 0 then do
    let slot ← newSlot
    let check ← newSlot
    pure (.reset slot :: .countFilled least (n + 2) slot check greedy :: inner ++ [.loop (n + 1)])
  else if least = 0 ∧ most = none then pure (.fork (n + 2) greedy :: inner ++ [.loop (n + 1)])
  else if least = 1 ∧ most = none then pure (inner ++ [.again n greedy])
  else do
    let slot ← newSlot
    pure (.reset slot :: .count least most (n + 2) slot greedy :: inner ++ [.loop (n + 1)])

/-- How many parts in front are plain and of fixed size. -/
def plainPrefix (wanted : List Nat) (parts : List Extended) : Nat :=
  (parts.takeWhile fun p => (p.facts wanted).fixed && !(p.facts wanted).hard).length

/-- How many parts at the end are plain, and of fixed size if something follows. -/
def plainSuffix (wanted : List Nat) (followed : Bool) (parts : List Extended) : Nat :=
  (parts.reverse.takeWhile fun p =>
    ((p.facts wanted).fixed || !followed) && !(p.facts wanted).hard).length

mutual
/-- The steps of a pattern, which something may follow that needs other matches than the preferred one. -/
def emit (wanted : List Nat) : Extended → Bool → Emit (List Step)
  | p, followed => do
    let facts := p.facts wanted
    if !followed && !facts.hard then return ← plainSteps wanted [p]
    match p with
    | .empty => pure []
    | .any lineEnds => pure [.any lineEnds]
    | .literal c caseless => if caseless then plainSteps wanted [p] else pure [.chars [c]]
    | .look l => pure [.look l]
    | .plain _ _ => plainSteps wanted [p]
    | .seq ps =>
      let first := plainPrefix wanted ps
      let last := plainSuffix wanted followed (ps.drop first)
      let middle := ps.length - first - last
      let before ← plainSteps wanted (ps.take first)
      let between ← emitRow wanted ps first middle
      let after ← plainSteps wanted (ps.drop (first + middle))
      pure (before ++ between ++ after)
    | .alt ps => emitChoice wanted ps followed
    | .group n p =>
      let inner ← emit wanted p followed
      pure (.mark (2 * n) :: inner ++ [.mark (2 * n + 1)])
    | .repeated p least most greedy =>
      let simple := least = 0 ∧ most = some 1
      let inner ← emit wanted p (followed || (!simple && facts.hard))
      repeatedSteps (p.facts wanted) least most greedy inner
    | .around (.alt ps) true negated =>
      if (factsOfChoice wanted ps).fixed then
        let inner ← emit wanted (.alt ps) false
        let inner ← lookSteps (factsOfChoice wanted ps) true inner
        if negated then pure (lookAgainst inner) else lookFor inner
      else if negated then emitNoneBehind wanted ps
      else emitOneBehind wanted ps
    | .around p behind negated =>
      let inner ← emit wanted p false
      let inner ← lookSteps (p.facts wanted) behind inner
      if negated then pure (lookAgainst inner) else lookFor inner
    | .same n => pure [.same n]
    | .atomic p =>
      let inner ← emit wanted p false
      pure (.atomic :: inner ++ [.commit])
    | .keepOut => pure [.mark 0]
    | .resume => pure [.resume]
    | .known n => pure [.known n]
    | .conditional c yes no =>
      let c ← emit wanted c followed
      let yes ← emit wanted yes followed
      let no ← emit wanted no followed
      pure (.atomic :: .fork (c.length + yes.length + 3) true :: c ++ .commit :: yes ++
        .leap (no.length + 1) :: no)
/-- The steps of some parts in a row, after some that are left out. -/
def emitRow (wanted : List Nat) : List Extended → Nat → Nat → Emit (List Step)
  | [], _, _ => pure []
  | _ :: ps, n + 1, m => emitRow wanted ps n m
  | _ :: _, 0, 0 => pure []
  | p :: ps, 0, m + 1 => do
    let first ← emit wanted p true
    let others ← emitRow wanted ps 0 m
    pure (first ++ others)
/-- The steps of a choice between patterns. -/
def emitChoice (wanted : List Nat) : List Extended → Bool → Emit (List Step)
  | [], _ => pure []
  | [p], followed => emit wanted p followed
  | p :: q :: ps, followed => do
    let first ← emit wanted p followed
    let others ← emitChoice wanted (q :: ps) followed
    pure (.fork (first.length + 2) true :: first ++ .leap (others.length + 1) :: others)
/-- Looks behind for one of some patterns. -/
def emitOneBehind (wanted : List Nat) : List Extended → Emit (List Step)
  | [] => pure []
  | p :: ps => do
    let inner ← emit wanted p false
    let first ← lookFor (← lookSteps (p.facts wanted) true inner)
    if ps.isEmpty then pure first
    else
      let others ← emitOneBehind wanted ps
      pure (.fork (first.length + 2) true :: first ++ .leap (others.length + 1) :: others)
/-- Looks behind for none of some patterns. -/
def emitNoneBehind (wanted : List Nat) : List Extended → Emit (List Step)
  | [] => pure []
  | p :: ps => do
    let inner ← emit wanted p false
    let first := lookAgainst (← lookSteps (p.facts wanted) true inner)
    let others ← emitNoneBehind wanted ps
    pure (first ++ others)
end

/-- The steps of a whole search, which first tries every position. -/
def search (wanted : List Nat) (p : Extended) : Emit (List Step) := do
  let inner ← emit wanted p true
  pure (.fork 3 false :: .any true :: .loop 2 :: .mark 0 :: inner ++ [.mark 1])

/-! ## Runs -/

/-- A state of the search: the step, the position in the text, and the slots that were filled. -/
structure Point where
  step : Nat
  position : Nat
  slots : Array (Option Nat)
  /-- The numbers of branches that were remembered. -/
  heights : List Nat := []
  deriving Inhabited

/-- The result of a step. -/
inductive Move where
  | go (p : Point)
  /-- Goes on at one point and keeps the other one as a branch. -/
  | branch (p other : Point)
  | fail
  /-- Goes on with no more branches than a number. -/
  | cut (height : Nat) (p : Point)
  /-- Fails and drops the branches up to one that stands at a step. -/
  | drop (step : Nat)

namespace Point

/-- The content of a slot. -/
def slot (p : Point) (n : Nat) : Option Nat := (p.slots[n]?).join

/-- Puts a number into a slot. -/
def save (p : Point) (n : Nat) (value : Option Nat) : Point :=
  { p with slots := p.slots.setIfInBounds n value }

/-- The next step. -/
def on (p : Point) : Point := { p with step := p.step + 1 }

/-- The two ways on, the preferred one first. -/
def ways (p : Point) (near far : Nat) (nearFirst : Bool) : Move :=
  let a := { p with step := near }
  let b := { p with step := far }
  if nearFirst then .branch a b else .branch b a

/-- Whether characters stand at a position of a text. -/
def stands (cs : List Char) (text : Text) (i : Nat) : Bool :=
  (cs.zipIdx i).all fun p => text[p.2]? == some p.1

/-- Moves on by characters that stand next. -/
def take (p : Point) (cs : List Char) (text : Text) : Move :=
  if stands cs text p.position then .go { p.on with position := p.position + cs.length } else .fail

/-- Keeps what the groups of a plain pattern matched. -/
def keep (p : Point) (t : Plain.Thread) (first count : Nat) : Point :=
  (List.range count).foldl
    (fun (p : Point) (i : Nat) =>
      let start := t.mark? (2 * (i + 1))
      let finish := t.mark? (2 * (i + 1) + 1)
      let both := start.isSome && finish.isSome
      (p.save (2 * (first + i)) (if both then start else none)).save (2 * (first + i) + 1)
        (if both then finish else none))
    p

/-- A step. -/
def next (p : Point) (s : Step) (text : Text) (height : Nat) : Move :=
  match s with
  | .any lineEnds =>
    match text[p.position]? with
    | some c => if lineEnds || c != '\n' then .go { p.on with position := p.position + 1 } else .fail
    | none => .fail
  | .chars cs => p.take cs text
  | .one s =>
    match text[p.position]? with
    | some c => if s.has c.toNat then .go { p.on with position := p.position + 1 } else .fail
    | none => .fail
  | .look l => if l.holds text p.position then .go p.on else .fail
  | .fork d greedy => p.ways (p.step + 1) (p.step + d) greedy
  | .again d greedy => p.ways (p.step - d) (p.step + 1) greedy
  | .leap d => .go { p with step := p.step + d }
  | .loop d => .go { p with step := p.step - d }
  | .mark n => .go (p.on.save n (some p.position))
  | .reset n => .go (p.on.save n (some 0))
  | .restore n => .go { p.on with position := (p.slot n).getD 0 }
  | .count least most d slot greedy =>
    let n := (p.slot slot).getD 0
    if most = some n then .go { p with step := p.step + d }
    else
      let p := p.save slot (some (n + 1))
      if least ≤ n then p.ways (p.step + 1) (p.step + d) greedy else .go p.on
  | .countFilled least d slot check greedy =>
    let n := (p.slot slot).getD 0
    if 0 < n ∧ p.slot check = some p.position then .fail
    else
      let p := p.save slot (some (n + 1))
      if least ≤ n then (p.save check (some p.position)).ways (p.step + 1) (p.step + d) greedy
      else .go p.on
  | .retreat n => if n ≤ p.position then .go { p.on with position := p.position - n } else .fail
  | .refuse => .drop (p.step + 1)
  | .same g =>
    match p.slot (2 * g), p.slot (2 * g + 1) with
    | some first, some last => p.take (text.extract first last).toList text
    | _, _ => .fail
  | .known g => if (p.slot (2 * g)).isSome then .go p.on else .fail
  | .plain ops first count =>
    match Plain.matchAt ops text p.position with
    | some t => .go { p.keep t first count with step := p.step + 1, position := t.position }
    | none => .fail
  | .atomic => .go { p.on with heights := height :: p.heights }
  | .commit =>
    match p.heights with
    | h :: hs => .cut h { p.on with heights := hs }
    | [] => .fail
  | .resume => if p.position = 0 then .go p.on else .fail

end Point

/-- Why a search was given up. -/
inductive SearchFault where
  | failures
  | branches
  deriving DecidableEq, Repr

/-- The text of the fault. -/
def SearchFault.message : SearchFault → String
  | .failures => "Error executing regex: Max limit for backtracking count exceeded"
  | .branches => "Error executing regex: Max stack size exceeded for backtracking"

/-- How often a search may fail. -/
def failureLimit : Nat := 1000000
/-- How many branches there may be. -/
def branchLimit : Nat := 1000000

/-- Drops branches up to one that stands at a step, which is dropped as well. -/
def dropUpTo (step : Nat) : List Point → List Point
  | [] => []
  | b :: bs => if b.step = step then bs else dropUpTo step bs

/-- Runs steps until one gets past the last one, returning to the last branch wherever one fails. -/
def run (steps : Array Step) (text : Text) : Nat → Nat → Point → Nat → List Point →
    Except SearchFault Bool
  | 0, _, _, _, _ => .error .failures
  | fuel + 1, failures, p, height, branches =>
    let failWith (height : Nat) (branches : List Point) : Except SearchFault Bool :=
      match branches with
      | [] => .ok false
      | b :: bs =>
        if failureLimit ≤ failures then .error .failures
        else run steps text fuel (failures + 1) b (height - 1) bs
    match steps[p.step]? with
    | none => .ok true
    | some s =>
      match p.next s text height with
      | .go q => run steps text fuel failures q height branches
      | .branch q other =>
        if branchLimit ≤ height then .error .branches
        else run steps text fuel failures q (height + 1) (other :: branches)
      | .fail => failWith height branches
      | .cut h q => run steps text fuel failures q (min h height) (branches.drop (height - h))
      | .drop step =>
        let left := dropUpTo step branches
        failWith left.length left

/-- More steps than a search takes before it is given up. -/
def stepLimit : Nat := 0x10000000000

/-- Whether a pattern matches anywhere in a text. -/
def occurs (steps : Array Step) (slots : Nat) (text : Text) : Except SearchFault Bool :=
  run steps text stepLimit 0 ⟨0, 0, Array.replicate slots none, []⟩ 0 []

/-- A search without steps finds something at once. -/
theorem run_nil (text : Text) (fuel failures : Nat) (p : Point) (height : Nat) (branches : List Point) :
    run #[] text (fuel + 1) failures p height branches = .ok true := by
  simp [run]

end PluginKit.Pattern.Extended
