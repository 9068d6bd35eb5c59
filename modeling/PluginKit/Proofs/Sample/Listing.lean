import Mathlib.Algebra.Order.Floor.Div
import PluginKit.Operations
import PluginKit.Proofs.Pagination
import PluginKit.Sample.Catalog

/-!
# Catalogs are listed whole

The catalog cuts pages and names cursors, the listing follows them. A cursor that the catalog names is
the last component of its page, so the next page begins where this one ends. Wherever a listing stands,
what is left of the components gets shorter with every page until a page holds all of it.

## Main statements

- `follow_pageOf`: a page that holds all that is left ends the listing, and any other one leads on.
- `listing_complete`: a listing hands over every component after its start once and in order, with as
  many pages as that takes.
-/

namespace PluginKit.Sample.Catalog

variable {names rest : List String} {cursor : String}

/-- The components after a cursor. Before the first page there is no cursor, and all are left. -/
def beyond (cursor : String) (names : List String) : List String :=
  if cursor = "" then names else names.drop (names.idxOf cursor + 1)

/-! ## Where a listing stands -/

/-- A listing that asks with a cursor has `rest` left of the components. -/
def Stands (names : List String) (cursor : String) (rest : List String) : Prop :=
  (cursor = "" ∧ names = rest) ∨ ∃ before, names = before ++ cursor :: rest

theorem stands_beyond (start : cursor = "" ∨ cursor ∈ names) :
    Stands names cursor (beyond cursor names) := by
  unfold beyond
  split
  · next first => exact .inl ⟨first, rfl⟩
  · next later =>
    have mem : cursor ∈ names := start.resolve_left later
    have lt : names.idxOf cursor < names.length := List.idxOf_lt_length_of_mem mem
    refine .inr ⟨names.take (names.idxOf cursor), ?_⟩
    have split := List.take_append_drop (names.idxOf cursor) names
    rw [List.drop_eq_getElem_cons lt, List.getElem_idxOf] at split
    exact split.symm

theorem after_append {before : List String} (fresh : cursor ∉ before) (rest : List String) :
    after cursor (before ++ cursor :: rest) = some rest := by
  induction before with
  | nil => exact if_pos rfl
  | cons name before ih =>
    have ne : name ≠ cursor := by
      rintro rfl
      exact fresh List.mem_cons_self
    exact (if_neg ne).trans (ih fun mem => fresh (List.mem_cons_of_mem name mem))

/-- The catalog finds what is left of the components. -/
theorem from?_of_stands (distinct : names.Nodup) (named : "" ∉ names)
    (stands : Stands names cursor rest) : from? cursor names = some rest := by
  rcases stands with ⟨rfl, rfl⟩ | ⟨before, rfl⟩
  · exact if_pos rfl
  · have later : cursor ≠ "" := by
      rintro rfl
      exact named (List.mem_append_right _ List.mem_cons_self)
    -- the cursor comes up only once, so nothing before it is taken for it
    have fresh : cursor ∉ before := fun mem =>
      (List.nodup_append.1 distinct).2.2 cursor mem cursor List.mem_cons_self rfl
    exact (if_neg later).trans (after_append fresh rest)

/-! ## One page -/

/-- The page that the catalog cuts from what is left. -/
def pageOf (size : Nat) (rest : List String) : Page String where
  items := rest.take size
  next := if size < rest.length then (rest.take size).getLast? else none

/-- A listing that asks for a page gets it, whatever the world is like. -/
theorem run_pageAfter {s : Scheme} {p : Payload} {repo : Repository} {c : Credentials}
    (reads : decode s p = .ok repo)
    (allowed : repo.requiresAuth = true → c.get? "token" ≠ none)
    (found : from? cursor repo.components = some rest) (w : Files) :
    ((lister s).pageAfter p c cursor).run w = (.ok (pageOf (max 1 repo.pageSize) rest), w) := by
  have permitted : ¬ (repo.requiresAuth = true ∧ c.get? "token" = none) :=
    fun h => allowed h.1 h.2
  have listed : list s { repository := p, last := cursor } c =
      .ok { names := (pageOf (max 1 repo.pageSize) rest).items
            last := (pageOf (max 1 repo.pageSize) rest).next } := by
    simp only [list, reads, page, found, Nat.max_comm, bind, Except.bind, if_neg permitted]
    simp only [pageOf, decide_eq_true_eq]
    rfl
  have asked : ((lister s).page { repository := p, last := cursor } c).run w =
      (list s { repository := p, last := cursor } c, w) := rfl
  rw [listed] at asked
  exact Effect.run_bind_ok asked

/-- The names after the last one of a page are those that the page leaves. -/
theorem stands_next {size : Nat} (stands : Stands names cursor rest) {front : List String}
    {next : String} (last : rest.take size = front ++ [next]) :
    Stands names next (rest.drop size) := by
  have cut : rest = front ++ next :: rest.drop size := by
    conv => lhs; rw [← List.take_append_drop size rest, last]
    rw [List.append_assoc, List.singleton_append]
  rcases stands with ⟨-, whole⟩ | ⟨before, whole⟩
  · exact .inr ⟨front, whole.trans cut⟩
  · refine .inr ⟨before ++ cursor :: front, ?_⟩
    rw [List.append_assoc, List.cons_append, ← cut]
    exact whole

/-- A page that holds all that is left ends the listing. Any other page is followed by the one after
its last name, which is neither empty nor the cursor that was asked with. -/
theorem follow_pageOf {size : Nat} (some_ : 0 < size) (distinct : names.Nodup) (named : "" ∉ names)
    (stands : Stands names cursor rest) :
    if size < rest.length then
      ∃ next, (pageOf size rest).follow cursor = some next ∧ Stands names next (rest.drop size)
    else (pageOf size rest).follow cursor = none := by
  split
  · next more =>
    have filled : rest.take size ≠ [] := by
      intro empty
      have length := congrArg List.length empty
      rw [List.length_take, List.length_nil] at length
      omega
    obtain ⟨front, next, last⟩ : ∃ front next, rest.take size = front ++ [next] :=
      ⟨_, _, (List.dropLast_concat_getLast filled).symm⟩
    have mem : next ∈ rest := List.mem_of_mem_take (last ▸ List.mem_append_right front (by simp))
    obtain ⟨old, among⟩ : next ≠ cursor ∧ next ∈ names := by
      rcases stands with ⟨rfl, rfl⟩ | ⟨before, rfl⟩
      · exact ⟨fun eq => named (eq ▸ mem), mem⟩
      · refine ⟨?_, List.mem_append_right _ (List.mem_cons_of_mem _ mem)⟩
        rintro rfl
        exact (List.nodup_cons.1 (List.nodup_append.1 distinct).2.1).1 mem
    have filledNext : next ≠ "" := by
      rintro rfl
      exact named among
    refine ⟨next, ?_, stands_next stands last⟩
    rw [Page.follow, pageOf, if_pos more, last, List.getLast?_concat]
    refine if_neg ?_
    rintro (empty | none_ | same)
    · exact filledNext empty
    · exact filled (last.trans (List.isEmpty_iff.1 none_))
    · exact old same
  · next all =>
    rw [Page.follow, pageOf, if_neg all]

/-! ## All pages -/

/-- How many pages it takes to fetch a number of components. The first one is always fetched. -/
def fetches (size count : Nat) : Nat := max 1 (count ⌈/⌉ size)

theorem fetches_last {size count : Nat} (some_ : 0 < size) (all : count ≤ size) :
    fetches size count = 1 := by
  have least : count ⌈/⌉ size ≤ 1 := by
    rw [ceilDiv_le_iff_le_mul some_, Nat.mul_one]
    exact all
  exact Nat.max_eq_left least

theorem fetches_more {size count : Nat} (some_ : 0 < size) (more : size < count) :
    fetches size count = fetches size (count - size) + 1 := by
  have step : count ⌈/⌉ size = (count - size) ⌈/⌉ size + 1 := by
    rw [Nat.ceilDiv_eq_add_pred_div, Nat.ceilDiv_eq_add_pred_div, ← Nat.add_div_right _ some_]
    congr 1
    omega
  have left : 1 ≤ (count - size) ⌈/⌉ size := by
    rw [Nat.ceilDiv_eq_add_pred_div]
    exact (Nat.le_div_iff_mul_le some_).2 (by omega)
  rw [fetches, fetches, step]
  omega

section Listing

variable {s : Scheme} {p : Payload} {repo : Repository} {c : Credentials}
variable {receive : List String → Effect Files Unit}

/-- From wherever a listing stands it hands over what is left. -/
theorem lists_rest (reads : decode s p = .ok repo)
    (allowed : repo.requiresAuth = true → c.get? "token" ≠ none)
    (distinct : repo.components.Nodup) (named : "" ∉ repo.components)
    (accepts : ∀ names w, ((receive names).run w).1 = .ok ())
    (stands : Stands repo.components cursor rest) {n : Nat}
    (enough : fetches (max 1 repo.pageSize) rest.length ≤ n) (w : Files) :
    (((lister s).list p c receive n cursor).run w).1 = .ok none ∧
      (Page.cursors (Page.trace ((lister s).pageAfter p c) receive n cursor w)).length =
        fetches (max 1 repo.pageSize) rest.length ∧
      (Page.handovers (Page.trace ((lister s).pageAfter p c) receive n cursor w)).flatten = rest := by
  have some_ : 0 < max 1 repo.pageSize := Nat.lt_of_lt_of_le Nat.one_pos (Nat.le_max_left _ _)
  -- the induction is on the pages that may still be fetched, while what is left gets shorter
  induction n generalizing cursor rest w with
  | zero =>
    have first : 1 ≤ fetches (max 1 repo.pageSize) rest.length := Nat.le_max_left _ _
    omega
  | succ n ih =>
    have fetched := run_pageAfter reads allowed (from?_of_stands distinct named stands) w
    obtain ⟨w', received⟩ : ∃ w', (receive (pageOf (max 1 repo.pageSize) rest).items).run w =
        (.ok (), w') := ⟨_, Prod.ext (accepts _ w) rfl⟩
    have follow := follow_pageOf some_ distinct named stands
    split at follow
    · next more =>
      obtain ⟨next, follow, stands⟩ := follow
      rw [fetches_more some_ more] at enough ⊢
      obtain ⟨run, trace⟩ := Page.run_pages_next fetched received follow n
      rw [← List.length_drop] at enough ⊢
      obtain ⟨ended, count, all⟩ := ih stands (Nat.le_of_succ_le_succ enough) w'
      refine ⟨(congrArg Prod.fst run).trans ended, ?_, ?_⟩
      · rw [trace]
        exact congrArg (· + 1) count
      · rw [trace]
        exact (congrArg (_ ++ ·) all).trans (List.take_append_drop _ rest)
    · next all =>
      rw [fetches_last some_ (Nat.le_of_not_lt all)]
      obtain ⟨run, trace⟩ := Page.run_pages_last fetched received follow n
      refine ⟨congrArg Prod.fst run, ?_, ?_⟩
      · rw [trace]
        rfl
      · rw [trace]
        refine (List.append_nil _).trans (List.take_of_length_le (Nat.le_of_not_lt all))

/-- A repository whose components have different names and no empty one is listed from its beginning or
from after any of its components. If it demands a token there is one, and no page is refused by the
receiver. Then the listing ends, however small or large the pages are. It has fetched as many pages as it
takes to fetch all components after the start, and at least one. The pages that were handed over hold
exactly these components, in order and each once. -/
theorem listing_complete (reads : decode s p = .ok repo) (distinct : repo.components.Nodup)
    (named : "" ∉ repo.components) (allowed : repo.requiresAuth = true → c.get? "token" ≠ none)
    (accepts : ∀ names w, ((receive names).run w).1 = .ok ()) {start : String}
    (begins : start = "" ∨ start ∈ repo.components) {n : Nat}
    (enough : max 1 ((beyond start repo.components).length ⌈/⌉ max 1 repo.pageSize) ≤ n) (w : Files) :
    (((lister s).list p c receive n start).run w).1 = .ok none ∧
      (Page.cursors (Page.trace ((lister s).pageAfter p c) receive n start w)).length =
        max 1 ((beyond start repo.components).length ⌈/⌉ max 1 repo.pageSize) ∧
      (Page.handovers (Page.trace ((lister s).pageAfter p c) receive n start w)).flatten =
        beyond start repo.components :=
  lists_rest reads allowed distinct named accepts (stands_beyond begins) enough w

end Listing

/-- A scheme that knows repositories. -/
def shelfScheme : Scheme :=
  Scheme.empty.bind Repository.prototype.name Repository.schema [.versioned "SampleRepository" "v1"]

/-- A repository of four components, two to a page, that demands a token. -/
def shelf : Repository where
  tag := .versioned "SampleRepository" "v1"
  name := "shelf"
  components := ["a", "b", "c", "d"]
  pageSize := 2
  requiresAuth := true

/-- The specification of the repository above. -/
def shelfSpec : Payload where
  tag := .versioned "SampleRepository" "v1"
  fields :=
    [("components", .arr [.str "a", .str "b", .str "c", .str "d"]), ("name", .str "shelf"),
      ("pageSize", .nat 2), ("requiresAuth", .bool true)]

/-- The token that the repository demands. -/
def shelfToken : Credentials := .ofPairs [("token", "t")]

/-- From after its first component the repository above is listed with two pages. -/
theorem listing_shelf : decode shelfScheme shelfSpec = .ok shelf ∧
    (Page.cursors (Page.trace ((lister shelfScheme).pageAfter shelfSpec shelfToken)
        (fun _ => pure ()) 5 "a" {})).length = 2 ∧
      (Page.handovers (Page.trace ((lister shelfScheme).pageAfter shelfSpec shelfToken)
        (fun _ => pure ()) 5 "a" {})).flatten = ["b", "c", "d"] := by
  have reads : decode shelfScheme shelfSpec = .ok shelf := by rfl
  have token : shelfToken.get? "token" ≠ none := by decide
  have accepts : ∀ (names : List String) (w : Files),
      ((pure () : Effect Files Unit).run w).1 = .ok () := fun _ _ => rfl
  exact ⟨reads, (listing_complete reads (by decide) (by decide) (fun _ => token) accepts
    (.inr (by decide)) (by decide) {}).2⟩

end PluginKit.Sample.Catalog
