import Mathlib.Data.Finset.Card
import PluginKit.Proofs.Pagination.Rounds
import PluginKit.Proofs.Sample.Listing

/-!
# Listings that come round

Where the page for a cursor depends on nothing but the cursor, a listing follows a path from cursor to
cursor. It stops at a page that names the cursor it was asked for with, and looks no further back. So a
path that comes back to an earlier cursor by way of another one is followed round and round, and if
there are only so many cursors to name, nothing else keeps a listing from ending.

## Main statements

- `getElem?_cursors`: the cursors that a listing asks for lie on the path.
- `path_round`: a path that comes back to a cursor goes round for ever.
- `settles_of_steady`: a listing ends if and only if it asks for no cursor twice.
- `ends_iff_never_again`: the above, also for the repositories of the sample plugin.
-/

namespace PluginKit

variable {σ α : Type}

namespace Page

/-! ## Paths -/

section Path

variable (answer : String → Outcome (Page α))

/-- The cursor that is asked for after another one. -/
def onward (cursor : String) : Option String :=
  match answer cursor with
  | .ok page => page.follow cursor
  | .error _ => none

/-- The cursor that is asked for after `n` others from a cursor on. -/
def path (cursor : String) : Nat → Option String
  | 0 => some cursor
  | n + 1 => (path cursor n).bind (onward answer)

variable {answer} {cursor next : String}

theorem path_add (m n : Nat) :
    path answer cursor (m + n) = (path answer cursor m).bind fun c => path answer c n := by
  induction n with
  | zero => exact (Option.bind_fun_some _).symm
  | succ n ih =>
    rw [Nat.add_succ, path, ih, Option.bind_assoc]
    rfl

theorem path_succ (n : Nat) : path answer cursor (n + 1) =
    (onward answer cursor).bind fun c => path answer c n := by
  rw [Nat.add_comm, path_add]
  rfl

/-- A path that has ended does not go on. -/
theorem path_eq_none_of_le {m n : Nat} (le : m ≤ n) (ended : path answer cursor m = none) :
    path answer cursor n = none := by
  obtain ⟨k, rfl⟩ := Nat.exists_eq_add_of_le le
  rw [path_add, ended]
  rfl

/-- A path that comes back to a cursor repeats the cursors between without end. -/
theorem path_round {i j : Nat} {c : String} (less : i < j) (first : path answer cursor i = some c)
    (again : path answer cursor j = some c) (n : Nat) :
    path answer cursor (j + n) = path answer cursor (i + n) ∧
      path answer cursor (i + n) ≠ none := by
  have same (n : Nat) : path answer cursor (j + n) = path answer cursor (i + n) := by
    rw [path_add, path_add, first, again]
  refine ⟨same n, ?_⟩
  -- the induction takes away one round at a time
  induction n using Nat.strong_induction_on with
  | _ n ih =>
    intro ended
    by_cases short : i + n ≤ j
    · cases again.symm.trans (path_eq_none_of_le short ended)
    · obtain ⟨m, rfl⟩ : ∃ m, n = (j - i) + m := ⟨n - (j - i), by omega⟩
      have around : i + (j - i + m) = j + m := by omega
      rw [around, same] at ended
      exact ih m (by omega) ended

/-- The page that leads on to a cursor names it, and it names another one than it was asked for with. -/
theorem onward_eq_some (leads : onward answer cursor = some next) :
    next ≠ cursor ∧ ∃ page, answer cursor = .ok page ∧ page.next = some next := by
  unfold onward at leads
  split at leads
  · next page given =>
    refine ⟨(follow_ne leads).1, page, given, ?_⟩
    unfold follow at leads
    split at leads
    · cases leads
    · next named names =>
      rw [names]
      exact (Option.ite_none_left_eq_some.1 leads).2
  · cases leads

end Path

/-! ## Listings along a path -/

section Steady

variable (fetch : String → Effect σ (Page α)) (receive : List α → Effect σ Unit)

/-- A plugin whose page depends on the cursor alone, and whose pages name no other cursors than `names`. -/
structure Steady (names : Finset String) : Prop where
  answers : ∀ cursor w w', ((fetch cursor).run w).1 = ((fetch cursor).run w').1
  among : ∀ cursor w page, ((fetch cursor).run w).1 = .ok page → ∀ next ∈ page.next, next ∈ names

/-- The cursor of the fetch after `n` others, if the listing goes on for so long. -/
def asked (cursor : String) (w : σ) (n : Nat) : Option String :=
  (cursors (trace fetch receive (n + 1) cursor w))[n]?

end Steady

variable {fetch : String → Effect σ (Page α)} {receive : List α → Effect σ Unit}
variable {answer : String → Outcome (Page α)} {names : Finset String} {cursor : String} {w : σ}

/-- The first page is asked for with the first cursor, and the others as if the listing began with the
cursor that follows. -/
theorem cursors_trace_succ (answers : ∀ cursor w, ((fetch cursor).run w).1 = answer cursor)
    (accepts : ∀ items w, ((receive items).run w).1 = .ok ()) (n : Nat) (cursor : String) (w : σ) :
    ∃ w', cursors (trace fetch receive (n + 1) cursor w) =
      cursor :: ((onward answer cursor).map fun next =>
        cursors (trace fetch receive n next w')).getD [] := by
  unfold onward
  rw [← answers cursor w]
  rcases fetched : (fetch cursor).run w with ⟨fault | page, w₁⟩
  · have made : round fetch receive cursor w = (.unfetched cursor fault, w₁) := by
      rw [round, fetched]
    rw [(run_pages_of_stops made .unfetched n).2]
    exact ⟨w, rfl⟩
  · have received : (receive page.items).run w₁ = (.ok (), ((receive page.items).run w₁).2) :=
      Prod.ext (accepts _ w₁) rfl
    refine ⟨((receive page.items).run w₁).2, ?_⟩
    cases follows : page.follow cursor with
    | none =>
      rw [(run_pages_last fetched received follows n).2]
      simp only [follows]
      rfl
    | some next =>
      rw [(run_pages_next fetched received follows n).2]
      simp only [follows]
      rfl

/-- The cursors that a listing asks for lie on the path, from its beginning on. -/
theorem getElem?_cursors (answers : ∀ cursor w, ((fetch cursor).run w).1 = answer cursor)
    (accepts : ∀ items w, ((receive items).run w).1 = .ok ()) (n i : Nat) (cursor : String) (w : σ) :
    (cursors (trace fetch receive n cursor w))[i]? =
      if i < n then path answer cursor i else none := by
  induction n generalizing i cursor w with
  | zero => rfl
  | succ n ih =>
    obtain ⟨w', cons⟩ := cursors_trace_succ answers accepts n cursor w
    rw [cons]
    cases i with
    | zero => exact (if_pos n.succ_pos).symm
    | succ i =>
      rw [List.getElem?_cons_succ, path_succ]
      simp only [Nat.succ_lt_succ_iff]
      cases onward answer cursor with
      | none => exact (ite_self none).symm
      | some next => exact ih i next w'

theorem asked_eq_path (answers : ∀ cursor w, ((fetch cursor).run w).1 = answer cursor)
    (accepts : ∀ items w, ((receive items).run w).1 = .ok ()) (cursor : String) (w : σ) (n : Nat) :
    asked fetch receive cursor w n = path answer cursor n := by
  rw [asked, getElem?_cursors answers accepts, if_pos n.lt_succ_self]

/-- A listing that ends with the `k`th page asks for no other. -/
theorem Ends.asked_eq_none {k : Nat} {r : Outcome Unit} {w' : σ}
    (ends : Ends fetch receive cursor w k r w') : asked fetch receive cursor w k = none := by
  rw [asked, List.getElem?_eq_none_iff, (ends.ended (k + 1) (Nat.le_succ k)).2]

/-- A listing that does not end asks for page after page. -/
theorem asked_ne_none_of_endless (endless : ¬∃ k r w', Ends fetch receive cursor w k r w') (n : Nat) :
    asked fetch receive cursor w n ≠ none := by
  obtain ⟨rounds, cursor', w₁, goes, many⟩ := exists_goes fetch receive (n + 1) cursor w
  have length : rounds.length = n + 1 := by
    rcases many with length | ⟨-, r, stops⟩
    · exact length
    · exact absurd ⟨_, r, _, goes.ends rfl stops⟩ endless
  have notes := (goes.run_pages 0).2
  rw [Nat.add_zero, length] at notes
  have fetches : (cursors (trace fetch receive (n + 1) cursor w)).length = n + 1 := by
    rw [notes, ← length, ← rounds.length_map (f := Round.cursor), ← Round.cursors_flatMap]
    exact congrArg (List.length ∘ cursors) (List.append_nil _)
  rw [asked, Ne, List.getElem?_eq_none_iff, fetches]
  exact Nat.not_succ_le_self n

/-! ## How listings end -/

variable (fetch receive) in
/-- How a listing goes that is served by a plugin with these cursors. -/
structure Settles (names : Finset String) (cursor : String) (w : σ) : Prop where
  /-- It ends if and only if it asks for no cursor twice. -/
  ends_iff : (∃ k r w', Ends fetch receive cursor w k r w') ↔
    ∀ n, (cursors (trace fetch receive n cursor w)).Nodup
  /-- If it ends, there was at most one fetch for each cursor, and the first one. -/
  few : ∀ k r w', Ends fetch receive cursor w k r w' → k ≤ names.card + 1
  /-- It never asks for a cursor twice in a row. -/
  changes : ∀ n c, asked fetch receive cursor w n = some c →
    asked fetch receive cursor w (n + 1) ≠ some c
  /-- After a cursor was asked for twice the listing repeats the cursors between without end. -/
  rounds : ∀ i j c, i < j → asked fetch receive cursor w i = some c →
    asked fetch receive cursor w j = some c → ∀ n,
      asked fetch receive cursor w (j + n) = asked fetch receive cursor w (i + n) ∧
        asked fetch receive cursor w (i + n) ≠ none

section Settling

variable (answers : ∀ cursor w, ((fetch cursor).run w).1 = answer cursor)
variable (accepts : ∀ items w, ((receive items).run w).1 = .ok ())

include answers accepts

/-- A listing asks for no cursor twice if its path never comes back to one. -/
theorem nodup_cursors_iff : (∀ n, (cursors (trace fetch receive n cursor w)).Nodup) ↔
    ∀ i j c, i < j → path answer cursor i = some c → path answer cursor j ≠ some c := by
  constructor
  · intro nodup i j c less first again
    have apart := List.nodup_iff_getElem?_ne_getElem?.1 (nodup (j + 1)) i j less
    rw [getElem?_cursors answers accepts, getElem?_cursors answers accepts, if_pos (by omega),
      if_pos j.lt_succ_self] at apart
    refine apart ?_ (first.trans again.symm)
    by_contra short
    have ended := List.getElem?_eq_none_iff.2 (Nat.le_of_not_lt short)
    rw [getElem?_cursors answers accepts, if_pos j.lt_succ_self] at ended
    cases again.symm.trans ended
  · intro apart n
    refine List.nodup_iff_getElem?_ne_getElem?.2 fun i j less short same => ?_
    obtain ⟨c, again⟩ : ∃ c, (cursors (trace fetch receive n cursor w))[j]? = some c :=
      ⟨_, List.getElem?_eq_getElem short⟩
    rw [again] at same
    rw [getElem?_cursors answers accepts] at same again
    exact apart i j c less (Option.ite_none_right_eq_some.1 same).2
      (Option.ite_none_right_eq_some.1 again).2

/-- The cursors that are asked for are the first one and those that pages name. -/
theorem mem_insert_of_mem_cursors (among : ∀ cursor page, answer cursor = .ok page →
      ∀ next ∈ page.next, next ∈ names) {n : Nat} {c : String}
    (mem : c ∈ cursors (trace fetch receive n cursor w)) : c ∈ insert cursor names := by
  obtain ⟨i, at_⟩ := List.mem_iff_getElem?.1 mem
  rw [getElem?_cursors answers accepts] at at_
  have reached := (Option.ite_none_right_eq_some.1 at_).2
  cases i with
  | zero =>
    cases reached
    exact Finset.mem_insert_self _ _
  | succ i =>
    obtain ⟨c', -, leads⟩ := Option.bind_eq_some_iff.1 reached
    obtain ⟨-, page, given, named⟩ := onward_eq_some leads
    exact Finset.mem_insert_of_mem (among c' page given c named)

/-- Cursors that are all different are no more than there are. -/
theorem length_cursors_le (among : ∀ cursor page, answer cursor = .ok page →
      ∀ next ∈ page.next, next ∈ names) {n : Nat}
    (nodup : (cursors (trace fetch receive n cursor w)).Nodup) :
    (cursors (trace fetch receive n cursor w)).length ≤ names.card + 1 :=
  calc (cursors (trace fetch receive n cursor w)).length
      = (cursors (trace fetch receive n cursor w)).toFinset.card :=
        (List.toFinset_card_of_nodup nodup).symm
    _ ≤ (insert cursor names).card := Finset.card_le_card fun _ mem =>
        mem_insert_of_mem_cursors answers accepts among (List.mem_toFinset.1 mem)
    _ ≤ names.card + 1 := Finset.card_insert_le _ _

/-- A listing that ends does not come back to a cursor. -/
theorem Ends.asked_ne {k : Nat} {r : Outcome Unit} {w' : σ}
    (ends : Ends fetch receive cursor w k r w') {i j : Nat} {c : String} (less : i < j)
    (first : asked fetch receive cursor w i = some c) : asked fetch receive cursor w j ≠ some c := by
  intro again
  have ended := ends.asked_eq_none
  rw [asked_eq_path answers accepts] at first again ended
  obtain ⟨-, open_⟩ := path_round less first again k
  exact open_ (path_eq_none_of_le (Nat.le_add_left k i) ended)

/-- It has asked for no cursor twice. -/
theorem Ends.nodup {k : Nat} {r : Outcome Unit} {w' : σ}
    (ends : Ends fetch receive cursor w k r w') (n : Nat) :
    (cursors (trace fetch receive n cursor w)).Nodup := by
  refine (nodup_cursors_iff answers accepts).2 (fun i j c less first => ?_) n
  rw [← asked_eq_path answers accepts] at first ⊢
  exact ends.asked_ne answers accepts less first

/-- A listing that asks for no cursor twice ends. -/
theorem exists_ends_of_nodup (among : ∀ cursor page, answer cursor = .ok page →
      ∀ next ∈ page.next, next ∈ names)
    (nodup : ∀ n, (cursors (trace fetch receive n cursor w)).Nodup) :
    ∃ k r w', Ends fetch receive cursor w k r w' := by
  by_contra endless
  have few := length_cursors_le answers accepts among (nodup (names.card + 2))
  have further := asked_ne_none_of_endless endless (names.card + 1)
  rw [asked, Ne, List.getElem?_eq_none_iff] at further
  exact further few

end Settling

/-- A listing ends if and only if it asks for no cursor twice, provided that no page is refused. -/
theorem settles_of_steady (steady : Steady fetch names)
    (accepts : ∀ items w, ((receive items).run w).1 = .ok ()) (cursor : String) (w : σ) :
    Settles fetch receive names cursor w := by
  -- what is answered in one world is answered in all
  have answers (c : String) (w' : σ) : ((fetch c).run w').1 = (fun c => ((fetch c).run w).1) c :=
    steady.answers c w' w
  have among (c : String) := steady.among c w
  constructor
  · exact ⟨fun ⟨_, _, _, ends⟩ => ends.nodup answers accepts,
      exists_ends_of_nodup answers accepts among⟩
  · intro k r w' ends
    rw [← (ends.ended k k.le_refl).2]
    exact length_cursors_le answers accepts among (ends.nodup answers accepts k)
  · intro n c now
    rw [asked_eq_path answers accepts] at now ⊢
    rw [path, now]
    intro leads
    exact (onward_eq_some (Option.bind_some .. ▸ leads)).1 rfl
  · intro i j c less first again n
    simp only [asked_eq_path answers accepts] at first again ⊢
    exact path_round less first again n

end Page

/-! ## Repositories that name components twice -/

namespace Sample.Catalog

variable {s : Scheme} {p : Payload} {repo : Repository} {c : Credentials}
variable {receive : List String → Effect Files Unit}

theorem suffix_of_after {last : String} {names rest : List String}
    (found : after last names = some rest) : rest <:+ names := by
  induction names with
  | nil => cases found
  | cons name names ih =>
    unfold after at found
    split at found
    · cases found
      exact List.suffix_cons _ _
    · exact (ih found).trans (List.suffix_cons name names)

theorem suffix_of_from? {last : String} {names rest : List String}
    (found : from? last names = some rest) : rest <:+ names := by
  unfold from? at found
  split at found
  · cases found
    exact List.suffix_refl names
  · exact suffix_of_after found

/-- The items of a page are components of the repository. -/
theorem items_subset {last : String} {cut : List String × Bool} (given : page repo last = .ok cut) :
    cut.1 ⊆ repo.components := by
  unfold page at given
  split at given
  · cases given
  · next rest found =>
    cases given
    exact fun name mem => (suffix_of_from? found).subset (List.mem_of_mem_take mem)

/-- A page names no other cursor than a component. -/
theorem last_mem_components {r : Wire.ListRequest} (reads : decode s r.repository = .ok repo)
    {answer : Wire.ListResponse} (listed : list s r c = .ok answer) {next : String}
    (named : next ∈ answer.last) : next ∈ repo.components := by
  simp only [list, reads, bind, Except.bind] at listed
  split at listed
  · cases listed
  · cases cut : page repo r.last with
    | error fault =>
      rw [cut] at listed
      cases listed
    | ok cut_ =>
      rw [cut] at listed
      cases listed
      have last := (Option.ite_none_right_eq_some.1 named).2
      exact items_subset cut (List.mem_of_getLast? last)

/-- A repository is listed by its specification alone, and its cursors are its components. -/
theorem steady_lister (reads : decode s p = .ok repo) (c : Credentials) :
    Page.Steady ((lister s).pageAfter p c) repo.components.toFinset := by
  have pageAfter (cursor : String) (w : Files) : (((lister s).pageAfter p c cursor).run w).1 =
      (list s { repository := p, last := cursor } c).map
        fun a => { items := a.names, next := a.last } := by
    rw [ListerContract.pageAfter, bind_pure_comp, Effect.run_map]
    rfl
  constructor
  · intro cursor w w'
    rw [pageAfter, pageAfter]
  · intro cursor w page given next named
    rw [pageAfter] at given
    cases listed : list s { repository := p, last := cursor } c with
    | error fault =>
      rw [listed] at given
      cases given
    | ok answer =>
      rw [listed] at given
      cases given
      exact List.mem_toFinset.2 (last_mem_components reads listed named)

/-- A listing asks for the cursor that a page of the catalog names as if it began there. -/
theorem asked_lister_succ (reads : decode s p = .ok repo)
    (allowed : repo.requiresAuth = true → c.get? "token" ≠ none)
    (accepts : ∀ names w, ((receive names).run w).1 = .ok ()) {cursor next : String}
    {rest : List String} (found : from? cursor repo.components = some rest)
    (leads : (pageOf (max 1 repo.pageSize) rest).follow cursor = some next) (w : Files) (n : Nat) :
    Page.asked ((lister s).pageAfter p c) receive cursor w (n + 1) =
      Page.asked ((lister s).pageAfter p c) receive next w n := by
  have answers (cursor : String) (w' : Files) := (steady_lister reads c).answers cursor w' w
  have onward : Page.onward (fun cursor => (((lister s).pageAfter p c cursor).run w).1) cursor =
      some next := by
    rw [Page.onward, run_pageAfter reads allowed found]
    exact leads
  rw [Page.asked_eq_path answers accepts, Page.asked_eq_path answers accepts, Page.path_succ, onward]
  rfl

end Sample.Catalog

/-! ## What keeps a listing from ending -/

/-- A plugin answers with the same page whenever it is asked for the page after the same cursor, its pages
name no other cursors than some, and no page is refused by the receiver. Then a listing ends if and only
if it asks for no cursor twice, and if it ends there was at most one fetch for each cursor, and the first
one. It never asks for a cursor twice in a row, for it ends instead. But once it has come back to a cursor
in another way it repeats without end. The repositories of the sample plugin are listed so, with their
components as cursors, however often they name one. -/
theorem ends_iff_never_again :
    (∀ (σ α : Type) (fetch : String → Effect σ (Page α)) (receive : List α → Effect σ Unit)
      (names : Finset String), Page.Steady fetch names →
      (∀ items w, ((receive items).run w).1 = .ok ()) →
      ∀ cursor w, Page.Settles fetch receive names cursor w) ∧
    ∀ (s : Scheme) (p : Payload) (repo : Sample.Repository) (c : Credentials)
      (receive : List String → Effect Files Unit), Sample.Catalog.decode s p = .ok repo →
      (∀ items w, ((receive items).run w).1 = .ok ()) →
      ∀ cursor w, Page.Settles ((Sample.Catalog.lister s).pageAfter p c) receive
        repo.components.toFinset cursor w :=
  ⟨fun _ _ _ _ _ steady accepts => Page.settles_of_steady steady accepts,
    fun _ _ _ c _ reads accepts =>
      Page.settles_of_steady (Sample.Catalog.steady_lister reads c) accepts⟩

namespace Sample.Catalog

/-- The specification of a repository with these components, one to a page. -/
def singlesSpec (components : List String) : Payload where
  tag := .versioned "SampleRepository" "v1"
  fields := [("components", .arr (components.map Json.str)), ("pageSize", .nat 1)]

/-- The repository with these components, one to a page. -/
def singles (components : List String) : Repository where
  tag := .versioned "SampleRepository" "v1"
  name := "default"
  components
  pageSize := 1

theorem reads_singles_twice :
    decode shelfScheme (singlesSpec ["a", "a"]) = .ok (singles ["a", "a"]) := by
  rfl

theorem reads_singles_around : decode shelfScheme (singlesSpec ["a", "b", "a", "c"]) =
    .ok (singles ["a", "b", "a", "c"]) := by
  rfl

/-- The listing of the second repository asks for the page after its first component, and after one more
page it asks for it again. -/
theorem asked_singles_around :
    Page.asked ((lister shelfScheme).pageAfter (singlesSpec ["a", "b", "a", "c"]) {})
        (fun _ => pure ()) "" {} 1 = some "a" ∧
      Page.asked ((lister shelfScheme).pageAfter (singlesSpec ["a", "b", "a", "c"]) {})
        (fun _ => pure ()) "" {} 3 = some "a" := by
  have next (cursor next : String) {rest : List String} (n : Nat)
      (found : from? cursor ["a", "b", "a", "c"] = some rest)
      (leads : (pageOf 1 rest).follow cursor = some next) :
      Page.asked ((lister shelfScheme).pageAfter (singlesSpec ["a", "b", "a", "c"]) {})
          (fun _ => pure ()) cursor {} (n + 1) =
        Page.asked ((lister shelfScheme).pageAfter (singlesSpec ["a", "b", "a", "c"]) {})
          (fun _ => pure ()) next {} n :=
    asked_lister_succ reads_singles_around (c := {}) nofun (fun _ _ => rfl) found leads {} n
  have here : Page.asked ((lister shelfScheme).pageAfter (singlesSpec ["a", "b", "a", "c"]) {})
      (fun _ => pure ()) "a" {} 0 = some "a" :=
    Page.asked_eq_path (fun c w => (steady_lister reads_singles_around {}).answers c w {})
      (fun _ _ => rfl) "a" {} 0
  have first (n : Nat) := next "" "a" n rfl rfl
  have second := next "a" "b" 1 rfl rfl
  have third := next "b" "a" 0 rfl rfl
  rw [first, first, second, third, here]
  exact ⟨rfl, rfl⟩

/-- A repository that names its component twice is listed to its end, with two pages. Another one names
its first component again after the second, and its listing goes round between the two. -/
theorem singles_settle :
    Page.Ends ((lister shelfScheme).pageAfter (singlesSpec ["a", "a"]) {}) (fun _ => pure ()) "" {} 2
        (.ok ()) {} ∧
      (∀ n, (Page.cursors (Page.trace ((lister shelfScheme).pageAfter (singlesSpec ["a", "a"]) {})
        (fun _ => pure ()) n "" {})).Nodup) ∧
      ∀ n, Page.asked ((lister shelfScheme).pageAfter (singlesSpec ["a", "b", "a", "c"]) {})
        (fun _ => pure ()) "" {} (1 + n) ≠ none := by
  have taken {cursor : String} {rest : List String} (found : from? cursor ["a", "a"] = some rest) :
      Page.round ((lister shelfScheme).pageAfter (singlesSpec ["a", "a"]) {}) (fun _ => pure ()) cursor
        {} = (.taken cursor (pageOf 1 rest), {}) := by
    rw [Page.round, run_pageAfter reads_singles_twice (c := {}) nofun found]
    rfl
  have open_ (r : Outcome Unit) : ¬(Page.Round.taken "" (pageOf 1 ["a", "a"])).Stops r :=
    fun stops => absurd (Page.Round.stops_taken_iff.1 stops).1 (by decide)
  have goes := Page.Goes.on (taken rfl) open_ rfl (.start : Page.Goes _ _ "a" _ [] "a" _)
  have ends := goes.ends (taken rfl) (.last (.inl rfl))
  have settles {components : List String}
      (reads : decode shelfScheme (singlesSpec components) = .ok (singles components)) :=
    ends_iff_never_again.2 shelfScheme _ _ {} (fun _ => pure ()) reads (fun _ _ => rfl) "" {}
  refine ⟨ends, (settles reads_singles_twice).ends_iff.1 ⟨_, _, _, ends⟩, fun n => ?_⟩
  obtain ⟨first, again⟩ := asked_singles_around
  exact ((settles reads_singles_around).rounds 1 3 "a" (by decide) first again n).2

/-- The repository that names its first component again after the second has only so many cursors, and
no page of it is refused. Its listing asks for one page twice and never ends. -/
theorem singles_endless :
    decode shelfScheme (singlesSpec ["a", "b", "a", "c"]) = .ok (singles ["a", "b", "a", "c"]) ∧
      Page.Steady ((lister shelfScheme).pageAfter (singlesSpec ["a", "b", "a", "c"]) {})
        ["a", "b", "a", "c"].toFinset ∧
      Page.asked ((lister shelfScheme).pageAfter (singlesSpec ["a", "b", "a", "c"]) {})
        (fun _ => pure ()) "" {} 1 = some "a" ∧
      Page.asked ((lister shelfScheme).pageAfter (singlesSpec ["a", "b", "a", "c"]) {})
        (fun _ => pure ()) "" {} 3 = some "a" ∧
      ¬∃ k r w', Page.Ends ((lister shelfScheme).pageAfter (singlesSpec ["a", "b", "a", "c"]) {})
        (fun _ => pure ()) "" {} k r w' := by
  have steady := steady_lister reads_singles_around {}
  obtain ⟨first, again⟩ := asked_singles_around
  refine ⟨reads_singles_around, steady, first, again, ?_⟩
  rintro ⟨k, r, w', ends⟩
  exact ends.asked_ne (fun c w => steady.answers c w {}) (fun _ _ => rfl) (by decide) first again

end Sample.Catalog

end PluginKit
