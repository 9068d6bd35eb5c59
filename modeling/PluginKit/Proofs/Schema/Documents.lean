import Mathlib.Data.List.Induction
import PluginKit.Proofs.Table
import PluginKit.Schema.Basic

/-!
# Documents that stay the same

A schema that has judged values keeps the documents outside that it has read for them, and judges by
these from then on. As long as the documents are still the same, that makes no difference: it finds what
the schema finds that has judged nothing yet, and reads the same.

## Main statements

- `findings_of_holds`: documents that are still the same can be kept or not.
- `afterAll_eq`: of a schema that judges values, only the kept documents change.
- `kept_of_steady`: what is kept after values were judged, as long as nothing that was read has changed.
-/

namespace PluginKit.Schema

variable {docs : Documents} {kept : Table String Json} {s fresh : Schema} {v : Json}

/-- Documents that were kept are still the same. -/
def Documents.Holds (docs : Documents) (kept : List (String × Json)) : Prop :=
  ∀ e ∈ kept, docs.found.get? e.1 = some e.2

theorem Documents.keeping_of_holds (holds : docs.Holds kept) : docs.keeping kept = docs :=
  Documents.ext (Table.union_of_forall docs.ascending holds) rfl

/-! ## Schemas that keep documents -/

theorem follow_keep (s : Schema) (kept : Table String Json) (docs : Documents) (n : Nat) :
    { s with kept }.follow docs n = s.follow docs n := by
  induction n with
  | zero => rfl
  | succ n ih =>
    funext target v
    rw [follow, follow, ih]
    rfl

/-- Documents that are still the same can be kept or not. -/
theorem findings_of_holds (new : fresh.kept = []) (holds : docs.Holds kept) (v : Json) :
    { fresh with kept }.findings docs v = fresh.findings docs v := by
  unfold findings
  dsimp only
  rw [follow_keep, new, Documents.keeping_of_holds holds, @Documents.keeping_of_holds docs [] nofun]
  rfl

theorem violations_of_holds (new : fresh.kept = []) (holds : docs.Holds kept) (v : Json) :
    { fresh with kept }.violations docs v = fresh.violations docs v := by
  rw [violations, violations, findings_of_holds new holds]

theorem reads_of_holds (new : fresh.kept = []) (holds : docs.Holds kept) (v : Json) :
    { fresh with kept }.reads docs v = fresh.reads docs v := by
  unfold reads
  rw [findings_of_holds new holds, new]
  dsimp only
  rw [Documents.keeping_of_holds holds]
  rfl

/-- A schema that has judged nothing yet reads documents as they are. -/
theorem holds_reads (new : fresh.kept = []) : docs.Holds (fresh.reads docs v) := by
  intro e mem
  obtain ⟨f, -, read⟩ := List.mem_filterMap.1 mem
  obtain ⟨name, -, read⟩ := Option.bind_eq_some_iff.1 read
  obtain ⟨d, there, rfl⟩ := Option.map_eq_some_iff.1 read
  rw [new] at there
  exact there

/-- A document that is kept after a value was judged was kept before or is read for it. -/
theorem mem_kept_after {e : String × Json} (mem : e ∈ (s.after docs v).kept) :
    e ∈ s.kept ∨ e ∈ s.reads docs v :=
  Table.mem_of_mem_foldl_insert mem

/-! ## Values one after another -/

/-- A value that is judged, and the documents outside as they are then. -/
structure Occasion where
  documents : Documents
  value : Json

/-- The documents that a schema reads on an occasion. -/
def readsOn (s : Schema) (o : Occasion) : List (String × Json) := s.reads o.documents o.value

/-- A schema once it has judged values one after another. -/
def afterAll (s : Schema) (occasions : List Occasion) : Schema :=
  occasions.foldl (fun s o => s.after o.documents o.value) s

theorem afterAll_concat (s : Schema) (os : List Occasion) (o : Occasion) :
    s.afterAll (os ++ [o]) = (s.afterAll os).after o.documents o.value :=
  List.foldl_concat ..

/-- Of a schema that judges values, only the kept documents change. -/
theorem afterAll_eq (s : Schema) (os : List Occasion) :
    s.afterAll os = { s with kept := (s.afterAll os).kept } := by
  induction os using List.reverseRecOn with
  | nil => rfl
  | append_singleton os o ih =>
    rw [afterAll_concat]
    exact congrArg
      (fun t : Schema => { t with kept := ((s.afterAll os).after o.documents o.value).kept }) ih

/-- Let nothing that a schema reads on an occasion have changed on a later one. Then all that it keeps
was read on some occasion by the schema that had judged nothing yet. -/
theorem kept_of_steady (new : fresh.kept = []) {os : List Occasion}
    (steady : os.Pairwise fun o o' => o'.documents.Holds (fresh.readsOn o)) :
    ∀ e ∈ (fresh.afterAll os).kept, ∃ o ∈ os, e ∈ fresh.readsOn o := by
  induction os using List.reverseRecOn with
  | nil =>
    intro e mem
    rw [show (fresh.afterAll []).kept = [] from new] at mem
    cases mem
  | append_singleton os o ih =>
    obtain ⟨earlier, -, last⟩ := List.pairwise_append.1 steady
    intro e mem
    rw [afterAll_concat] at mem
    rcases mem_kept_after mem with old | read
    · obtain ⟨o', listed, read⟩ := ih earlier e old
      exact ⟨o', List.mem_append_left _ listed, read⟩
    · -- what was kept is still there, so the same is read as without it
      have holds : o.documents.Holds (fresh.afterAll os).kept := by
        intro d mem
        obtain ⟨o', listed, read⟩ := ih earlier d mem
        exact last o' listed o List.mem_cons_self d read
      rw [afterAll_eq, reads_of_holds new holds] at read
      exact ⟨o, List.mem_append_right _ List.mem_cons_self, read⟩

/-- The kept documents are still the same if no document has changed that was read before. -/
theorem holds_kept_of_steady (new : fresh.kept = []) {os : List Occasion}
    (steady : os.Pairwise fun o o' => o'.documents.Holds (fresh.readsOn o))
    (now : ∀ o ∈ os, docs.Holds (fresh.readsOn o)) : docs.Holds (fresh.afterAll os).kept := by
  intro e mem
  obtain ⟨o, listed, read⟩ := kept_of_steady new steady e mem
  exact now o listed e read

/-! ## Schemas that were just compiled -/

theorem kept_of_ofLibrary {l : Library} (h : ofLibrary l = .ok s) : s.kept = [] := by
  unfold ofLibrary at h
  dsimp only at h
  cases judged : (Part.ofJson ⟨l.draft, l.base⟩ l.root).judge with
  | error flaw =>
    rw [judged] at h
    cases h
  | ok judge =>
    rw [judged] at h
    cases h
    rfl

/-- A schema that was just compiled keeps no documents. -/
theorem kept_of_compile {source : Json} (h : compile source = .ok s) : s.kept = [] := by
  have loaded := load_of_compile h
  unfold load at loaded
  split at loaded
  · exact kept_of_ofLibrary loaded
  · cases loaded

end PluginKit.Schema
