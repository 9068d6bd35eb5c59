import PluginKit.Pattern.Basic

/-!
# Extended patterns

An extended pattern may ask for what was matched before, look around, or give up what it could match in
another way. The parts of it that do none of this are plain: they can be written out in the notation of
plain patterns, and sets of characters are kept in that notation from the start.
-/

namespace PluginKit.Pattern

/-- An extended pattern. -/
inductive Extended where
  | empty
  /-- Any character, or any but the end of a line. -/
  | any (lineEnds : Bool)
  | literal (c : Char) (caseless : Bool)
  | look (condition : Look)
  | seq (parts : List Extended)
  | alt (choices : List Extended)
  /-- A group, whose number counts the groups that open before it. -/
  | group (number : Nat) (content : Extended)
  | repeated (content : Extended) (least : Nat) (most : Option Nat) (greedy : Bool)
  /-- Looks ahead or behind for a pattern, or for its absence. -/
  | around (content : Extended) (behind negated : Bool)
  /-- A single character by the notation of plain patterns. -/
  | plain (text : List Char) (caseless : Bool)
  /-- The text that a group matched last. -/
  | same (group : Nat)
  /-- A pattern of which only the preferred match counts. -/
  | atomic (content : Extended)
  /-- Lets the match start here. -/
  | keepOut
  /-- The position at which the search started. -/
  | resume
  /-- Asks whether a group has matched. -/
  | known (group : Nat)
  | conditional (condition yes no : Extended)
  deriving Repr, Inhabited

namespace Extended

/-- A sequence, which a single part needs not be. -/
def ofParts : List Extended → Extended
  | [] => .empty
  | [p] => p
  | ps => .seq ps

/-- Whether a pattern is empty. -/
def isEmpty : Extended → Bool
  | .empty => true
  | _ => false

/-- Whether a sign of repetition may follow. -/
def isRepeatable : Extended → Bool
  | .empty => false
  | .look _ => false
  | .around _ _ _ => false
  | _ => true

/-! ## Facts -/

/-- The facts about a pattern that do not depend on the text to be matched. -/
structure Facts where
  /-- It takes no fewer characters. -/
  least : Nat := 0
  /-- Whether it takes no more of them either. -/
  fixed : Bool := true
  /-- Whether it is more than a plain pattern. -/
  hard : Bool := false
  /-- The characters that it consists of, if it is nothing else. -/
  chars : Option (List Char) := none
  /-- The groups in it by their numbers. -/
  groups : List Nat := []
  deriving DecidableEq, Repr, Inhabited

/-- The facts about two patterns one after the other. -/
def Facts.followedBy (a b : Facts) : Facts where
  least := a.least + b.least
  fixed := a.fixed && b.fixed
  hard := a.hard || b.hard
  chars := a.chars.bind fun cs => b.chars.map (cs ++ ·)
  groups := a.groups ++ b.groups

/-- The facts about a choice between two patterns. -/
def Facts.or (a b : Facts) : Facts where
  least := min a.least b.least
  fixed := a.fixed && b.fixed && a.least == b.least
  hard := a.hard || b.hard
  groups := a.groups ++ b.groups

/-- The facts about a condition and what follows it in either case. -/
def Facts.decides (c yes no : Facts) : Facts where
  least := c.least + min yes.least no.least
  fixed := c.fixed && yes.fixed && no.fixed && c.least + yes.least == no.least
  hard := true
  groups := c.groups ++ yes.groups ++ no.groups

mutual
/-- The facts about a pattern. A group is more than a plain pattern if it is asked for elsewhere. -/
def facts (wanted : List Nat) : Extended → Facts
  | .empty => {}
  | .any _ => { least := 1 }
  | .literal c caseless => { least := 1, chars := if caseless then none else some [c] }
  | .look l => { hard := l.asksAnyWord }
  | .seq ps => factsInRow wanted ps
  | .alt ps => factsOfChoice wanted ps
  | .group n p =>
    let f := facts wanted p
    { f with hard := f.hard || wanted.contains n, chars := none, groups := n :: f.groups }
  | .repeated p least most _ =>
    let f := facts wanted p
    { f with least := f.least * least, fixed := f.fixed && most == some least, chars := none }
  | .around p _ _ => { hard := true, groups := (facts wanted p).groups }
  | .plain _ _ => { least := 1 }
  | .same _ => { fixed := false, hard := true }
  | .atomic p => { facts wanted p with hard := true, chars := none }
  | .keepOut => { hard := true }
  | .resume => { hard := true }
  | .known _ => { hard := true }
  | .conditional c yes no => (facts wanted c).decides (facts wanted yes) (facts wanted no)
/-- The facts about patterns one after another. -/
def factsInRow (wanted : List Nat) : List Extended → Facts
  | [] => { chars := some [] }
  | p :: ps => (facts wanted p).followedBy (factsInRow wanted ps)
/-- The facts about a choice between patterns. -/
def factsOfChoice (wanted : List Nat) : List Extended → Facts
  | [] => {}
  | [p] => { facts wanted p with chars := none }
  | p :: q :: ps => (facts wanted p).or (factsOfChoice wanted (q :: ps))
end

/-! ## Writing plain parts out -/

/-- The characters that a backslash makes stand for themselves where they are written out. -/
def quoted (c : Char) : List Char :=
  if "\\.+*?()|[]\x7b\x7d^$#".toList.contains c then ['\\', c] else [c]

/-- Text with something around it, where it is needed. -/
def wrapped (needed : Bool) (opening : String) (s : List Char) : List Char :=
  if needed then opening.toList ++ s ++ [')'] else s

/-- The sign of a repetition. -/
def sign (least : Nat) (most : Option Nat) (greedy : Bool) : List Char :=
  let bounds := match least, most with
    | 0, some 1 => "?"
    | 0, none => "*"
    | 1, none => "+"
    | n, none => "\x7b" ++ toString n ++ ",\x7d"
    | n, some m =>
      if n = m then "\x7b" ++ toString n ++ "\x7d" else "\x7b" ++ toString n ++ "," ++ toString m ++ "\x7d"
  bounds.toList ++ if greedy then [] else ['?']

/-- A condition on a position, written out. -/
def writtenLook : Look → List Char
  | .start => "^".toList
  | .finish => "$".toList
  | .lineStart => "(?m:^)".toList
  | .lineEnd => "(?m:$)".toList
  | _ => []

mutual
/-- A pattern written in the notation of plain patterns. It is bound by what stands around it as tightly
as the number says: not at all, in a choice, in a sequence or by a repetition. -/
def written : Nat → Extended → List Char
  | _, .any lineEnds => if lineEnds then "(?s:.)".toList else ['.']
  | _, .literal c caseless => wrapped caseless "(?i:" (quoted c)
  | _, .look l => writtenLook l
  | bound, .seq ps => wrapped (bound > 1) "(?:" (writtenInRow ps)
  | bound, .alt ps => wrapped (bound > 0) "(?:" (writtenChoice ps)
  | _, .group _ p => wrapped true "(" (written 0 p)
  | bound, .repeated p least most greedy =>
    wrapped (bound > 2) "(?:" (written 3 p ++ sign least most greedy)
  | _, .plain text caseless => wrapped caseless "(?i:" text
  | _, _ => []
/-- Patterns written one after another. -/
def writtenInRow : List Extended → List Char
  | [] => []
  | p :: ps => written 2 p ++ writtenInRow ps
/-- A choice between patterns, written out. -/
def writtenChoice : List Extended → List Char
  | [] => []
  | [p] => written 1 p
  | p :: q :: ps => written 1 p ++ '|' :: writtenChoice (q :: ps)
end

end Extended

end PluginKit.Pattern
