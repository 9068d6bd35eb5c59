import PluginKit.Pattern.Basic

/-!
# Plain patterns

A plain pattern says by characters, choices and repetitions alone which texts it matches, so that no
choice depends on what was matched before. What is stated about all parts of a pattern is a recursion
over it, hand in hand with one over lists of parts.
-/

namespace PluginKit.Pattern

/-- A plain pattern. -/
inductive Plain where
  | empty
  | one (set : Unicode.CharSet)
  | look (condition : Look)
  /-- Content that may be remembered under a number. -/
  | group (number : Option Nat) (content : Plain)
  | repeated (content : Plain) (least : Nat) (most : Option Nat) (greedy : Bool)
  | seq (parts : List Plain)
  | alt (choices : List Plain)
  deriving Repr, Inhabited

namespace Plain

/-- A sequence, which a single part needs not be. -/
def ofParts : List Plain → Plain
  | [] => .empty
  | [p] => p
  | ps => .seq ps

/-- A choice, which a single pattern needs not be. -/
def ofChoices : List Plain → Plain
  | [p] => p
  | ps => .alt ps

mutual
/-- How deep patterns stand within each other. -/
def depth : Plain → Nat
  | .group _ p => depth p + 1
  | .repeated p _ _ _ => depth p + 1
  | .seq ps => depths ps + 1
  | .alt ps => depths ps + 1
  | .empty => 0
  | .one _ => 0
  | .look _ => 0
/-- The greatest depth of some patterns. -/
def depths : List Plain → Nat
  | [] => 0
  | p :: ps => max (depth p) (depths ps)
end

mutual
/-- Whether a condition of a kind occurs. -/
def anyLook (f : Look → Bool) : Plain → Bool
  | .look l => f l
  | .group _ p => anyLook f p
  | .repeated p _ _ _ => anyLook f p
  | .seq ps => anyLooks f ps
  | .alt ps => anyLooks f ps
  | .empty => false
  | .one _ => false
/-- Whether a condition of a kind occurs in some patterns. -/
def anyLooks (f : Look → Bool) : List Plain → Bool
  | [] => false
  | p :: ps => anyLook f p || anyLooks f ps
end

end Plain

end PluginKit.Pattern
