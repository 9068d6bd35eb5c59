import PluginKit.Pattern.Extended.Machine

/-!
# Matchers

A pattern that is plain is matched by the steps of a plain pattern and never given up. Any other one is
matched by the steps of an extended pattern.
-/

namespace PluginKit.Pattern

/-- A pattern that is ready to be matched. -/
inductive Matcher where
  | plain (ops : Array Plain.Op)
  | extended (steps : Array Extended.Step) (slots : Nat)
  deriving Inhabited

namespace Matcher

/-- Reads a pattern in the extended notation. -/
def read? (s : List Char) : Option Matcher := do
  let r ← Extended.read? s
  if (r.pattern.facts r.wanted).hard then
    let (steps, slots) ← (Extended.search r.wanted r.pattern).run (2 * (r.groups + 1))
    some (.extended steps.toArray slots)
  else
    let p ← Plain.read? (r.pattern.written 0)
    if Plain.roomLimit < p.room then none else some (.plain p.code.toArray)

/-- Searches a text for a pattern. -/
def search (m : Matcher) (s : String) : Except Extended.SearchFault Bool :=
  let text := s.toList.toArray
  match m with
  | .plain ops => .ok (Plain.occurs ops text)
  | .extended steps slots => Extended.occurs steps slots text

/-- Whether a search finds a pattern. One that was given up does not. -/
def occursIn (m : Matcher) (s : String) : Bool :=
  match m.search s with
  | .ok found => found
  | .error _ => false

end Matcher

end PluginKit.Pattern
