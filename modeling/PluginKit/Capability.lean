import PluginKit.Json.Decode

/-!
# Capabilities and plugin identifiers

A plugin serves capabilities, each in an instance of its own. Plugins are told apart by an
identifier of lowercase letters, digits and inner hyphens.
-/

namespace PluginKit

/-- A capability of a plugin instance. -/
inductive Capability where
  | resourceRepository
  | digestProcessor
  | componentLister
  deriving DecidableEq, Repr

namespace Capability

/-- All capabilities in their order. -/
def all : List Capability := [.resourceRepository, .digestProcessor, .componentLister]

/-- The name in documents and messages. -/
def name : Capability → String
  | .resourceRepository => "resourceRepository"
  | .digestProcessor => "digestProcessor"
  | .componentLister => "componentLister"

/-- The short name in the identifiers of instances. -/
def slug : Capability → String
  | .resourceRepository => "resource"
  | .digestProcessor => "digest"
  | .componentLister => "lister"

/-- The place in the order of capabilities. -/
def index : Capability → Nat
  | .resourceRepository => 0
  | .digestProcessor => 1
  | .componentLister => 2

instance : Ord Capability := ⟨fun a b => compare a.index b.index⟩

/-- Capabilities by their names. -/
def named : List (String × Capability) := all.map fun c => (c.name, c)

/-- The capability with a name. -/
def ofName? (s : String) : Option Capability := named.lookup s

/-- A capability in a document. -/
def decoder : Json.Decoder Capability :=
  Json.Decoder.variants (named.map fun e => (e.1, .plain e.2))

/-- Every capability is listed. -/
theorem mem_all (c : Capability) : c ∈ all := by cases c <;> decide

/-- A capability is found by its name. -/
theorem ofName?_name (c : Capability) : ofName? c.name = some c := by cases c <;> rfl

end Capability

/-- The identifier of a plugin. -/
structure PluginId where
  text : String
  deriving DecidableEq, Repr, Inhabited

namespace PluginId

instance : Ord PluginId := ⟨fun a b => compare a.text b.text⟩

/-- The characters of an identifier. -/
def allowed (c : Char) : Bool := c.isLower || c.isDigit || c == '-'

/-- Why a text is no identifier. -/
inductive Flaw where
  | empty
  | foreignCharacter
  | outerHyphen
  deriving DecidableEq, Repr

/-- The wording of a flaw. -/
def Flaw.message (s : String) : Flaw → String
  | .empty => "plugin id must not be empty"
  | .foreignCharacter =>
    "plugin id may only contain lowercase letters, digits and hyphens, got: " ++ s
  | .outerHyphen => "plugin id must not start or end with a hyphen, got: " ++ s

/-- Checks an identifier. -/
def parse (s : String) : Except Flaw PluginId :=
  let cs := s.toList
  if cs.isEmpty then .error .empty
  else if !cs.all allowed then .error .foreignCharacter
  else if cs.head? = some '-' ∨ cs.getLast? = some '-' then .error .outerHyphen
  else .ok ⟨s⟩

/-- A checked identifier in a document. -/
def decoder : Json.Decoder PluginId :=
  Json.Decoder.string.refine fun s =>
    (parse s).mapError fun flaw => "invalid plugin id: " ++ flaw.message s

end PluginId

end PluginKit
