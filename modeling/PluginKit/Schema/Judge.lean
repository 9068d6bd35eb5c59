import PluginKit.Schema.Format
import PluginKit.Schema.Violation

/-!
# Judges

A judge goes through a value and lists what it comes upon: what is wrong, and which documents outside of
the schema it reads on its way. Schemas are put together from judges: one for every keyword, which is
content with the values that the keyword does not speak about.

A judge is handed another one for references to schemas elsewhere. Some keywords only test whether a
value is valid. A test reads no further than to the first thing that is wrong, and several tests go no
further than to the last one that matters.

## Main statements

- `all_valid`: a value is valid for judges together if and only if it is for each of them.
- `anyOf_valid`, `oneOf_valid`, `exclude_valid`: when a value is valid for a combination of judges.
-/

namespace PluginKit.Schema

/-- A finding of a judge: something wrong with the value, a document outside that it reads, or a place at
which a test ends, although what is wrong there is listed later. -/
inductive Finding where
  | wrong (v : Violation)
  | read (name : String)
  | testEnds

namespace Finding

/-- The violation that a finding is, if it is one. -/
def violation? : Finding → Option Violation
  | .wrong v => some v
  | _ => none

/-- The name of the document that is read, if one is. -/
def name? : Finding → Option String
  | .read name => some name
  | _ => none

/-- The finding as it is seen from outside, where the value is under a name. -/
def under (name : String) : Finding → Finding
  | .wrong v => .wrong (v.under name)
  | f => f

end Finding

/-- Judges values by the schema that a reference names. -/
abbrev References := Url → Json → List Finding

/-- Lists what there is to find in a value. -/
abbrev Judge := References → Json → List Finding

namespace Judge

/-- Whether nothing is wrong. -/
def passes (found : List Finding) : Bool := found.all fun f => f.violation?.isNone

/-- Whether nothing is wrong with a value. -/
def valid (j : Judge) (refs : References) (v : Json) : Bool := passes (j refs v)

/-- The findings of a test: the documents that are read up to the first thing that is wrong. -/
def tested (found : List Finding) : List Finding := found.takeWhile fun f => f.name?.isSome

/-- Content with every value. -/
def accept : Judge := fun _ _ => []

/-- Content with no value. -/
def refuse : Judge := fun _ v => [.wrong { part := v, cause := .never }]

/-- One violation of the whole value unless a condition holds. -/
def expect (holds : Bool) (v : Json) (cause : Cause) : List Finding :=
  if holds then [] else [.wrong { part := v, cause }]

@[simp] theorem passes_append (found more : List Finding) :
    passes (found ++ more) = (passes found && passes more) := List.all_append

@[simp] theorem passes_expect (holds : Bool) (v : Json) (cause : Cause) :
    passes (expect holds v cause) = holds := by
  cases holds <;> rfl

/-- A test finds nothing wrong. -/
@[simp] theorem passes_tested (found : List Finding) : passes (tested found) = true := by
  induction found with
  | nil => rfl
  | cons f found ih =>
    cases f with
    | read name => exact ih
    | wrong v => rfl
    | testEnds => rfl

/-- Several judges one after another. -/
def all (js : List Judge) : Judge := fun refs v => js.flatMap fun j => j refs v

/-- The schema that a reference names. -/
def reference (target : Url) : Judge := fun refs v => refs target v

/-- A value is valid for judges together if and only if it is for each of them. -/
theorem all_valid (js : List Judge) (refs : References) (v : Json) :
    (all js).valid refs v = true ↔ ∀ j ∈ js, j.valid refs v = true := by
  simp [all, valid, passes, List.all_flatMap]

/-! ## Tests -/

/-- Tests values one after another until so many of them are valid: the documents that are read, and how
many are valid. -/
def tally (refs : References) : Nat → List (Judge × Json) → List Finding × Nat
  | 0, _ => ([], 0)
  | _ + 1, [] => ([], 0)
  | n + 1, (j, v) :: rest =>
    let found := j refs v
    let (read, valid) := tally refs (if passes found then n else n + 1) rest
    (tested found ++ read, if passes found then valid + 1 else valid)

@[simp] theorem passes_tally (refs : References) (n : Nat) (tests : List (Judge × Json)) :
    passes (tally refs n tests).1 = true := by
  induction tests generalizing n with
  | nil => cases n <;> rfl
  | cons t tests ih =>
    cases n with
    | zero => rfl
    | succ n => simp [tally, ih]

/-- Tests that go on until there are so many valid values count those, but no more of them. -/
theorem tally_valid (refs : References) (n : Nat) (tests : List (Judge × Json)) :
    (tally refs n tests).2 = min n (tests.filter fun t => t.1.valid refs t.2).length := by
  induction tests generalizing n with
  | nil => cases n <;> rfl
  | cons t tests ih =>
    cases n with
    | zero => simp [tally]
    | succ n =>
      by_cases here : passes (t.1 refs t.2) = true
      · simp [tally, valid, here, ih]
      · simp [tally, valid, here, ih]

/-! ## Types and values -/

/-- A value of one of the types. -/
def ofType (draft : Draft) (allowed : List ValueType) : Judge := fun _ v =>
  expect (allowed.any fun t => t.admits draft v) v (.wrongType allowed)

/-- A value that is among the options. -/
def enum (options : List Json) : Judge := fun _ v =>
  expect (options.any fun o => o.sameValue v) v (.notListed (.arr options))

/-- The least difference that keeps numbers apart from a constant. -/
def epsilon : Binary64 := ⟨0x3CB0000000000000⟩

/-- Whether two numbers differ by less than the least difference. -/
def isNear (x y : Json.Number) : Bool :=
  let (a, b) := (Json.Number.float x.toBinary64).ratio
  let (c, d) := (Json.Number.float y.toBinary64).ratio
  match Binary64.ofRatio false (a * d - c * b).natAbs (b * d) with
  | some diff => diff.compareValue epsilon == .lt
  | none => false

/-- A value that equals the expected one. -/
def const (expected : Json) : Judge := fun _ v =>
  expect
    (match expected, v with
      | .num x, .num y => isNear x y
      | _, _ => expected.sameValue v)
    v (.notConstant expected)

/-! ## Numbers -/

/-- A number that a condition holds of. -/
def number (holds : Json.Number → Bool) (cause : Cause) : Judge := fun _ v =>
  match v with
  | .num n => expect (holds n) v cause
  | _ => []

/-- A number that is not below a limit. -/
def minimum (limit : Json.Number) : Judge :=
  number (fun n => n.compareValue limit != .lt) (.belowMinimum limit)

/-- A number that is not above a limit. -/
def maximum (limit : Json.Number) : Judge :=
  number (fun n => n.compareValue limit != .gt) (.aboveMaximum limit)

/-- A number above a limit. -/
def exclusiveMinimum (limit : Json.Number) : Judge :=
  number (fun n => n.compareValue limit == .gt) (.notAboveMinimum limit)

/-- A number below a limit. -/
def exclusiveMaximum (limit : Json.Number) : Judge :=
  number (fun n => n.compareValue limit == .lt) (.notBelowMaximum limit)

/-- A finite number as the fraction that its shortest decimal stands for. -/
def shortestRatio (x : Binary64) : Nat × Nat :=
  let d := x.shortest
  let (n, e) := tenPow d.power
  (d.digits * n, e)

/-- Whether a number is a multiple of another one. A divisor that is not whole divides in floating
point numbers, and what is left over has to be less than the least difference; where the quotient is too
large, the shortest decimals divide. -/
def divides (divisor : Binary64) (n : Json.Number) : Bool :=
  let x := n.toBinary64
  let (a, b) := (Json.Number.float x).ratio
  let (c, d) := (Json.Number.float divisor).ratio
  if c = 0 then false
  else if c % d = 0 then a % b = 0 && (a / b) % (c / d) = 0
  else
    match x.div? divisor with
    | none =>
      let (a, b) := shortestRatio x
      let (c, d) := shortestRatio divisor
      (a * d) % (b * c) = 0
    | some q =>
      if q.isNegative then true
      else
        let (p, r) := q.ratio
        match Binary64.ofRatio false (p % r) r with
        | some left => left.compareValue epsilon == .lt
        | none => false

/-- A multiple of a number. -/
def multipleOf (divisor : Binary64) : Judge := number (divides divisor) (.notMultiple divisor)

/-! ## Strings -/

/-- A string that a condition holds of. -/
def string (holds : String → Bool) (cause : Cause) : Judge := fun _ v =>
  match v with
  | .str s => expect (holds s) v cause
  | _ => []

/-- A string with at least so many characters. -/
def minLength (n : Nat) : Judge := string (fun s => n ≤ s.length) (.tooShort n)

/-- A string with at most so many characters. -/
def maxLength (n : Nat) : Judge := string (fun s => s.length ≤ n) (.tooLong n)

/-- A string in which a pattern occurs. A search that is given up is a violation of its own. -/
def pattern (source : String) (p : Pattern.Matcher) : Judge := fun _ v =>
  match v with
  | .str s =>
    match p.search s with
    | .ok found => expect found v (.noMatch source)
    | .error fault => [.wrong { part := v, cause := .notSearched fault }]
  | _ => []

/-- A string of a format. -/
def format (name : String) (test : List Char → Bool) : Judge :=
  string (fun s => test s.toList) (.notOfFormat name)

/-- A string that is base 64. -/
def base64 : Judge :=
  string (fun s => (Format.decodeBase64 s.toList).isSome) (.notEncoded "base64")

/-- A string that is JSON. -/
def json : Judge := string Format.isJson (.notOfMedia "application/json")

/-- A string that is JSON in base 64. Octets that form no text are at fault themselves. -/
def jsonInBase64 : Judge := fun refs v =>
  match v with
  | .str s =>
    match Format.decodeBase64 s.toList with
    | none => base64 refs v
    | some octets =>
      match Text.read ⟨octets.toArray⟩ with
      | .ok text => expect (Format.isJson text) v (.notOfMedia "application/json")
      | .error flaw => [.wrong { place := .nowhere, part := v, cause := .badText flaw }]
  | _ => []

/-! ## Arrays -/

/-- Judges an item, given by its place. -/
def item (j : Judge) (refs : References) (i : Nat) (v : Json) : List Finding :=
  (j refs v).map (Finding.under (toString i))

/-- An array that a condition holds of. -/
def array (holds : List Json → Bool) (cause : List Json → Cause) : Judge := fun _ v =>
  match v with
  | .arr xs => expect (holds xs) v (cause xs)
  | _ => []

/-- An array with at least so many items. -/
def minItems (n : Nat) : Judge := array (fun xs => n ≤ xs.length) fun _ => .tooFewItems n

/-- An array with at most so many items. -/
def maxItems (n : Nat) : Judge := array (fun xs => xs.length ≤ n) fun _ => .tooManyItems n

/-- Whether no two values are alike. -/
def distinct (alike : Json → Json → Bool) : List Json → Bool
  | [] => true
  | x :: xs => !(xs.any (alike x)) && distinct alike xs

/-- Up to so many items are compared by the values of their numbers, and more by their form. -/
def fewItems : Nat := 15

/-- An array without repeated items. -/
def uniqueItems : Judge :=
  array (fun xs => distinct (if xs.length ≤ fewItems then Json.sameValue else (· == ·)) xs)
    fun _ => .repeated

/-- An array whose items from a place on are judged alike. -/
def itemsFrom (start : Nat) (j : Judge) : Judge := fun refs v =>
  match v with
  | .arr xs => (xs.zipIdx.drop start).flatMap fun e => j.item refs e.2 e.1
  | _ => []

/-- An array whose items have judges of their own. -/
def itemsInOrder (js : List Judge) : Judge := fun refs v =>
  match v with
  | .arr xs => (js.zip xs.zipIdx).flatMap fun e => e.1.item refs e.2.2 e.2.1
  | _ => []

/-- An array with no item from a place on. -/
def noItemsFrom (n : Nat) : Judge := array (fun xs => xs.length ≤ n) fun xs => .extraItems (xs.drop n)

/-- An array with a valid item. -/
def contains (j : Judge) : Judge := fun refs v =>
  match v with
  | .arr xs =>
    let (read, valid) := tally refs 1 (xs.map fun x => (j, x))
    read ++ expect (valid = 1) v .noneContained
  | _ => []

/-! ## Objects -/

/-- Judges the value of a member. -/
def member (j : Judge) (refs : References) (name : String) (v : Json) : List Finding :=
  (j refs v).map (Finding.under name)

/-- A judge of objects by their members. It is content with every other value. -/
def object (f : References → List (String × Json) → List Finding) : Judge := fun refs v =>
  match v with
  | .obj ms => f refs ms
  | _ => []

/-- An object with at least so many members. -/
def minMembers (n : Nat) : Judge := fun refs v =>
  object (fun _ ms => expect (n ≤ ms.length) v (.tooFewMembers n)) refs v

/-- An object with at most so many members. -/
def maxMembers (n : Nat) : Judge := fun refs v =>
  object (fun _ ms => expect (ms.length ≤ n) v (.tooManyMembers n)) refs v

/-- An object that has the members. -/
def required (names : List String) : Judge := fun refs v =>
  object (fun _ ms => names.flatMap fun n => expect (ms.lookup n).isSome v (.missing n)) refs v

/-- An object whose members are judged by their names. -/
def members (known : List (String × Judge)) : Judge :=
  object fun refs ms =>
    known.flatMap fun e => ((ms.lookup e.1).map (e.2.member refs e.1)).getD []

/-- An object whose members are judged by the patterns that their names match. -/
def matching (patterns : List (Pattern.Matcher × Judge)) : Judge :=
  object fun refs ms =>
    patterns.flatMap fun e =>
      (ms.filter fun m => e.1.occursIn m.1).flatMap fun m => e.2.member refs m.1 m.2

/-- The judges for the name of a member. -/
def forName (known : List (String × Judge)) (patterns : List (Pattern.Matcher × Judge)) (name : String) :
    List Judge :=
  (known.lookup name).toList ++ (patterns.filter fun e => e.1.occursIn name).map Prod.snd

/-- An object whose members are judged by name and pattern, and all others alike. -/
def membersOr (known : List (String × Judge)) (patterns : List (Pattern.Matcher × Judge)) (other : Judge) :
    Judge :=
  object fun refs ms =>
    ms.flatMap fun m =>
      match forName known patterns m.1 with
      | [] => other.member refs m.1 m.2
      | js => js.flatMap fun j => j.member refs m.1 m.2

/-- An object whose members are judged by name and pattern, and that has no others. Others are listed at
the end, but a test ends at the first of them. -/
def membersOnly (known : List (String × Judge)) (patterns : List (Pattern.Matcher × Judge)) : Judge :=
  fun refs v =>
    object (fun refs ms =>
      let extra := ms.filter fun m => (forName known patterns m.1).isEmpty
      membersOr known patterns (fun _ _ => [.testEnds]) refs v ++
        expect extra.isEmpty v (.extraMembers (extra.map Prod.fst))) refs v

/-- An object without members. Its first member is the violation. -/
def noMembers : Judge :=
  object fun _ ms => ms.head?.toList.map fun m => .wrong { part := m.2, cause := .never }

/-- An object whose names are judged. -/
def names (j : Judge) : Judge := object fun refs ms => ms.flatMap fun m => j refs (.str m.1)

/-- An object without members. -/
def noNames : Judge := fun refs v => object (fun _ ms => expect ms.isEmpty v .never) refs v

/-- An object that is judged further if it has certain members. -/
def dependencies (ds : List (String × Judge)) : Judge := fun refs v =>
  object (fun refs ms =>
    ds.flatMap fun d => if (ms.lookup d.1).isSome then d.2 refs v else []) refs v

/-! ## Combinations -/

/-- A value for which one of the judges has no objection. -/
def anyOf (js : List Judge) : Judge := fun refs v =>
  let (read, valid) := tally refs 1 (js.map fun j => (j, v))
  read ++ expect (valid = 1) v .anyOfNone

/-- A value for which exactly one of the judges has no objection. -/
def oneOf (js : List Judge) : Judge := fun refs v =>
  let (read, valid) := tally refs 2 (js.map fun j => (j, v))
  read ++
    match valid with
    | 0 => [.wrong { part := v, cause := .oneOfNone }]
    | 1 => []
    | _ => [.wrong { part := v, cause := .oneOfSeveral }]

/-- A value for which the judge of a schema has an objection. -/
def exclude (source : Json) (j : Judge) : Judge := fun refs v =>
  tested (j refs v) ++ expect (!j.valid refs v) v (.excluded source)

/-- A value that is judged by one of two judges, as a third one has no objection or has one. -/
def cases (condition : Judge) (yes no : Judge) : Judge := fun refs v =>
  tested (condition refs v) ++ if condition.valid refs v then yes refs v else no refs v

/-- The judges that have no objection, counted by tests of the one value. -/
theorem tally_judges (js : List Judge) (refs : References) (n : Nat) (v : Json) :
    (tally refs n (js.map fun j => (j, v))).2 = min n (js.filter fun j => j.valid refs v).length := by
  rw [tally_valid, List.filter_map, List.length_map]
  rfl

/-- A value is valid for one of some judges if and only if one of them has no objection. -/
theorem anyOf_valid (js : List Judge) (refs : References) (v : Json) :
    (anyOf js).valid refs v = true ↔ ∃ j ∈ js, j.valid refs v = true := by
  have counted := tally_judges js refs 1 v
  have some_ : 0 < (js.filter fun j => j.valid refs v).length ↔ ∃ j ∈ js, j.valid refs v = true := by
    rw [List.length_pos_iff_exists_mem]
    simp only [List.mem_filter]
  change passes ((tally refs 1 (js.map fun j => (j, v))).1 ++ expect _ v .anyOfNone) = true ↔ _
  rw [passes_append, passes_tally, passes_expect, Bool.true_and, decide_eq_true_eq, counted, ← some_]
  omega

/-- A value is valid for exactly one of some judges if and only if a single one has no objection. -/
theorem oneOf_valid (js : List Judge) (refs : References) (v : Json) :
    (oneOf js).valid refs v = true ↔ (js.filter fun j => j.valid refs v).length = 1 := by
  have counted := tally_judges js refs 2 v
  unfold oneOf
  change passes ((tally refs 2 (js.map fun j => (j, v))).1 ++ _) = true ↔ _
  rw [passes_append, passes_tally, Bool.true_and, counted]
  generalize (js.filter fun j => j.valid refs v).length = n
  match n with
  | 0 => simp [passes, Finding.violation?]
  | 1 => simp [passes]
  | n + 2 => simp [passes, Finding.violation?]

/-- A value is excluded by a judge if and only if it is not valid for it. -/
theorem exclude_valid (source : Json) (j : Judge) (refs : References) (v : Json) :
    (exclude source j).valid refs v = true ↔ j.valid refs v = false := by
  simp [exclude, valid]

end Judge

end PluginKit.Schema
