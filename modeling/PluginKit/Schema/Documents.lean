import PluginKit.Json.Value
import PluginKit.Table
import PluginKit.Url.Basic

/-!
# Documents outside of a schema

A reference may lead to a document that is no part of the schema: to a file, or to what a server answers.
These documents do not depend on the schema, and they may change. They are given here as they are at one
time, each under its name, which is the text of its identifier. For every other identifier there
is a reason why no document can be had.

A schema keeps the documents that its references have led to, and does not ask for them again.
-/

namespace PluginKit.Schema

/-- The documents outside at one time. -/
@[ext]
structure Documents where
  found : Table String Json
  ascending : found.Ascending
  fault : Url → String

namespace Documents

/-- No document can be had. -/
def none : Documents where
  found := []
  ascending := Table.ascending_nil
  fault _ := "No such file or directory (os error 2)"

/-- The document of an identifier without a fragment, or why there is none. Only files and what a server
answers are asked for. -/
def get (d : Documents) (u : Url) : Except String Json :=
  match String.ofList u.scheme with
  | "json-schema" => .error "cannot resolve relative external schema without root schema ID"
  | "http" | "https" | "file" => (d.found.get? u.text).elim (.error (d.fault u)) .ok
  | scheme => .error ("unknown scheme " ++ scheme)

/-- How many values there are in all documents together. -/
def size (d : Documents) : Nat := Json.sizeMembers d.found

/-- The documents for a schema that has kept some of them: those as they were kept, and the others as they
are. -/
def keeping (d : Documents) (kept : Table String Json) : Documents where
  found := d.found.union kept
  ascending := Table.ascending_foldl_insert kept d.ascending
  fault := d.fault

end Documents

end PluginKit.Schema
