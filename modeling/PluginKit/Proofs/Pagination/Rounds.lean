import PluginKit.Proofs.Pagination

/-!
# Rounds of a listing

A listing is made in rounds: a page is asked for with a cursor, and what comes is handed over. A round
ends the listing if no page comes, if the page is not received, or if the page names no cursor, is empty
or names the cursor that it was asked for with. Any other round is followed by one for the cursor that
its page names. Whatever fetching and receiving do to the world, every listing consists of such rounds.

## Main statements

- `exists_goes`: any number of rounds is gone through, or one of them ends the listing.
- `Goes.run_pages`, `run_pages_of_stops`: what a listing gives, and what happens in it, by its rounds.
- `ends_iff`: a listing ends with the first round that ends listings, and with nothing else.
- `listing_by_rounds`: the above, together with the cursors that are asked for.
-/

namespace PluginKit.Page

variable {σ α : Type}

/-! ## What a round comes to -/

/-- A round of a listing: the page after a cursor is asked for. -/
inductive Round (α : Type) where
  /-- The page cannot be fetched. -/
  | unfetched (cursor : String) (fault : Fault)
  /-- The page was fetched and refused. -/
  | refused (cursor : String) (page : Page α) (fault : Fault)
  /-- The page was fetched and received. -/
  | taken (cursor : String) (page : Page α)

namespace Round

/-- The cursor that is asked for. -/
def cursor : Round α → String
  | unfetched cursor _ => cursor
  | refused cursor _ _ => cursor
  | taken cursor _ => cursor

/-- The cursor that a page names which was received. -/
def next? : Round α → Option String
  | taken _ page => page.next
  | _ => none

/-- The events of a round: a page that was fetched is handed over as it is, and at once. -/
def moments : Round α → List (Moment α)
  | unfetched cursor _ => [.asked cursor]
  | refused cursor page _ => [.asked cursor, .handed page.items]
  | taken cursor page => [.asked cursor, .handed page.items]

/-- One page is asked for in every round. -/
theorem cursors_flatMap (rounds : List (Round α)) :
    cursors (rounds.flatMap moments) = rounds.map cursor := by
  induction rounds with
  | nil => rfl
  | cons r rounds ih =>
    rw [List.flatMap_cons, cursors, List.filterMap_append, List.map_cons, ← ih]
    cases r <;> rfl

/-- The rounds that end a listing, each with what the listing gives. -/
inductive Stops : Round α → Outcome Unit → Prop where
  | unfetched {cursor : String} {fault : Fault} : Stops (.unfetched cursor fault) (.error fault)
  | refused {cursor : String} {page : Page α} {fault : Fault} :
    Stops (.refused cursor page fault) (.error fault)
  /-- The page names no cursor. -/
  | last {cursor : String} {page : Page α} (none_ : page.next = none ∨ page.next = some "") :
    Stops (.taken cursor page) (.ok ())
  /-- The page is empty. -/
  | void {cursor : String} {page : Page α} (nothing : page.items = []) :
    Stops (.taken cursor page) (.ok ())
  /-- The page names the cursor that it was asked for with. -/
  | repeated {cursor : String} {page : Page α} (same : page.next = some cursor) :
    Stops (.taken cursor page) (.ok ())

/-- A round whose page was received ends the listing if and only if nothing follows the page. -/
theorem stops_taken_iff {cursor : String} {page : Page α} {r : Outcome Unit} :
    Stops (.taken cursor page) r ↔ page.follow cursor = none ∧ r = .ok () := by
  have ends : page.follow cursor = none ↔ (page.next = none ∨ page.next = some "") ∨
      page.items = [] ∨ page.next = some cursor := by
    unfold follow
    cases page.next with
    | none => simp
    | some next => grind
  rw [ends]
  constructor
  · rintro (_ | _)
    case last none_ => exact ⟨.inl none_, rfl⟩
    case void nothing => exact ⟨.inr (.inl nothing), rfl⟩
    case repeated same => exact ⟨.inr (.inr same), rfl⟩
  · rintro ⟨none_ | nothing | same, rfl⟩
    · exact .last none_
    · exact .void nothing
    · exact .repeated same

end Round

/-! ## Rounds that are made -/

section Made

variable (fetch : String → Effect σ (Page α)) (receive : List α → Effect σ Unit)

/-- The round for a cursor, and the world after it. -/
def round (cursor : String) (w : σ) : Round α × σ :=
  match (fetch cursor).run w with
  | (.error fault, w) => (.unfetched cursor fault, w)
  | (.ok page, w) =>
    match (receive page.items).run w with
    | (.error fault, w) => (.refused cursor page fault, w)
    | (.ok (), w) => (.taken cursor page, w)

/-- Rounds none of which ends the listing, each for the cursor that the page before it names and in the
world that the round before it leaves. After them comes the round for `cursor'` in `w'`. -/
inductive Goes : String → σ → List (Round α) → String → σ → Prop where
  | start {cursor : String} {w : σ} : Goes cursor w [] cursor w
  | on {cursor next cursor' : String} {w w₁ w' : σ} {page : Page α} {rounds : List (Round α)}
    (made : round fetch receive cursor w = (.taken cursor page, w₁))
    (open_ : ∀ r, ¬(Round.taken cursor page).Stops r) (names : page.next = some next)
    (rest : Goes next w₁ rounds cursor' w') :
    Goes cursor w (.taken cursor page :: rounds) cursor' w'

end Made

variable {fetch : String → Effect σ (Page α)} {receive : List α → Effect σ Unit}
variable {cursor cursor' next : String} {w w' w₁ : σ} {page : Page α} {rounds : List (Round α)}
variable {last : Round α} {r : Outcome Unit}

/-- A page that does not end the listing is followed by the page for the cursor that it names. -/
theorem follow_of_open (open_ : ∀ r, ¬(Round.taken cursor page).Stops r)
    (names : page.next = some next) : page.follow cursor = some next := by
  cases follows : page.follow cursor with
  | none => exact absurd (Round.stops_taken_iff.2 ⟨follows, rfl⟩) (open_ (.ok ()))
  | some next' =>
    unfold follow at follows
    rw [names] at follows
    simp only [Option.ite_none_left_eq_some] at follows
    exact follows.2.symm

/-- A round ends the listing, or its page was received and names the cursor of the next round. -/
theorem stops_or_open (fetch : String → Effect σ (Page α)) (receive : List α → Effect σ Unit)
    (cursor : String) (w : σ) :
    (∃ r, (round fetch receive cursor w).1.Stops r) ∨
      ∃ page next w₁, round fetch receive cursor w = (.taken cursor page, w₁) ∧
        page.next = some next ∧ ∀ r, ¬(Round.taken cursor page).Stops r := by
  unfold round
  rcases (fetch cursor).run w with ⟨fault | page, w₁⟩
  · exact .inl ⟨.error fault, .unfetched⟩
  · simp only
    rcases (receive page.items).run w₁ with ⟨fault | ⟨⟨⟩⟩, w₂⟩
    · exact .inl ⟨.error fault, .refused⟩
    · by_cases ends : ∃ r, (Round.taken cursor page).Stops r
      · exact .inl ends
      · cases names : page.next with
        | none => exact absurd ⟨_, .last (.inl names)⟩ ends
        | some next => exact .inr ⟨page, next, w₂, rfl, names, not_exists.1 ends⟩

theorem cursor_round (fetch : String → Effect σ (Page α)) (receive : List α → Effect σ Unit)
    (cursor : String) (w : σ) : (round fetch receive cursor w).1.cursor = cursor := by
  unfold round
  rcases (fetch cursor).run w with ⟨fault | page, w₁⟩
  · rfl
  · simp only
    rcases (receive page.items).run w₁ with ⟨fault | ⟨⟨⟩⟩, w₂⟩ <;> rfl

/-- A page that was received was fetched first. -/
theorem of_round_eq_taken {asked : String}
    (made : round fetch receive cursor w = (.taken asked page, w')) :
    asked = cursor ∧ ∃ w₁, (fetch cursor).run w = (.ok page, w₁) ∧
      (receive page.items).run w₁ = (.ok (), w') := by
  unfold round at made
  rcases fetched : (fetch cursor).run w with ⟨fault | page', w₁⟩
  · rw [fetched] at made
    cases made
  · rw [fetched] at made
    simp only at made
    rcases received : (receive page'.items).run w₁ with ⟨fault | ⟨⟨⟩⟩, w₂⟩
    · rw [received] at made
      cases made
    · rw [received] at made
      cases made
      exact ⟨rfl, w₁, rfl, received⟩

/-- A listing whose first round stops it ends with this round. -/
theorem run_pages_of_stops (made : round fetch receive cursor w = (last, w')) (stops : last.Stops r)
    (n : Nat) : (pages fetch receive (n + 1) cursor).run w = (r.map fun _ => none, w') ∧
      trace fetch receive (n + 1) cursor w = last.moments := by
  have step := run_watched_succ fetch receive n cursor w []
  rw [run_watched, List.nil_append] at step
  have parts {o : Outcome (Option String)} {u : σ} {notes : List (Moment α)}
      (h : (((pages fetch receive (n + 1) cursor).run w).1,
        ((pages fetch receive (n + 1) cursor).run w).2,
        trace fetch receive (n + 1) cursor w) = (o, u, notes)) :
      (pages fetch receive (n + 1) cursor).run w = (o, u) ∧
        trace fetch receive (n + 1) cursor w = notes := by
    cases h
    exact ⟨rfl, rfl⟩
  unfold round at made
  generalize (fetch cursor).run w = fetched at made step
  obtain ⟨fault | page, w₁⟩ := fetched
  · cases made
    cases stops
    exact parts step
  · simp only at made step
    generalize (receive page.items).run w₁ = received at made step
    obtain ⟨fault | ⟨⟨⟩⟩, w₂⟩ := received
    · cases made
      cases stops
      exact parts step
    · cases made
      obtain ⟨ends, rfl⟩ := Round.stops_taken_iff.1 stops
      rw [ends] at step
      exact parts step

/-- How a listing goes on after rounds that do not end it. -/
theorem Goes.run_pages (goes : Goes fetch receive cursor w rounds cursor' w') (n : Nat) :
    (pages fetch receive (rounds.length + n) cursor).run w = (pages fetch receive n cursor').run w' ∧
      trace fetch receive (rounds.length + n) cursor w =
        rounds.flatMap Round.moments ++ trace fetch receive n cursor' w' := by
  induction goes with
  | start => exact ⟨by rw [List.length_nil, Nat.zero_add], by rw [List.length_nil, Nat.zero_add]; rfl⟩
  | @on cursor next cursor' w w₁ w' page rounds made open_ names rest ih =>
    obtain ⟨-, w₀, fetched, received⟩ := of_round_eq_taken made
    have step := run_pages_next fetched received (follow_of_open open_ names) (rounds.length + n)
    rw [List.length_cons, Nat.add_right_comm, step.1, step.2, ih.1, ih.2]
    exact ⟨rfl, rfl⟩

/-! ## Listings by their rounds -/

/-- Any number of rounds is gone through, or one of them ends the listing. -/
theorem exists_goes (fetch : String → Effect σ (Page α)) (receive : List α → Effect σ Unit) (n : Nat)
    (cursor : String) (w : σ) : ∃ rounds cursor' w', Goes fetch receive cursor w rounds cursor' w' ∧
      (rounds.length = n ∨
        rounds.length < n ∧ ∃ r, (round fetch receive cursor' w').1.Stops r) := by
  induction n generalizing cursor w with
  | zero => exact ⟨[], cursor, w, .start, .inl rfl⟩
  | succ n ih =>
    rcases stops_or_open fetch receive cursor w with stops | ⟨page, next, w₁, made, names, open_⟩
    · exact ⟨[], cursor, w, .start, .inr ⟨n.succ_pos, stops⟩⟩
    · obtain ⟨rounds, cursor', w', rest, many⟩ := ih next w₁
      refine ⟨_, cursor', w', .on made open_ names rest, ?_⟩
      rw [List.length_cons, Nat.succ_lt_succ_iff, Nat.succ_inj]
      exact many

/-- The first round is for the first cursor and each later one for the cursor that the page before it
names, which is not empty. -/
theorem Goes.cursors (goes : Goes fetch receive cursor w rounds cursor' w') :
    rounds.map (some ∘ Round.cursor) ++ [some cursor'] = some cursor :: rounds.map Round.next? ∧
      ∀ round ∈ rounds, round.next? ≠ some "" := by
  induction goes with
  | start => exact ⟨rfl, nofun⟩
  | @on cursor next cursor' w w₁ w' page rounds made open_ names rest ih =>
    have named : (Round.taken cursor page).next? ≠ some "" := fun blank =>
      open_ (.ok ()) (.last (.inr blank))
    refine ⟨?_, List.forall_mem_cons.2 ⟨named, ih.2⟩⟩
    rw [List.map_cons, List.cons_append, ih.1, List.map_cons]
    exact congrArg (some cursor :: · :: rounds.map Round.next?) names.symm

/-- As long as rounds do not end the listing it stands at a cursor. -/
theorem Goes.stands (goes : Goes fetch receive cursor w rounds cursor' w') {n : Nat}
    (few : n ≤ rounds.length) :
    ∃ standing w₁, (pages fetch receive n cursor).run w = (.ok (some standing), w₁) := by
  induction goes generalizing n with
  | @start cursor w =>
    cases Nat.le_zero.1 few
    exact ⟨cursor, w, rfl⟩
  | @on cursor next cursor' w w₁ w' page rounds made open_ names rest ih =>
    cases n with
    | zero => exact ⟨cursor, w, rfl⟩
    | succ n =>
      obtain ⟨-, w₀, fetched, received⟩ := of_round_eq_taken made
      rw [(run_pages_next fetched received (follow_of_open open_ names) n).1]
      exact ih (Nat.le_of_succ_le_succ few)

/-- A listing that goes through some rounds and is stopped by the next one ends with it. -/
theorem Goes.run_pages_of_stops (goes : Goes fetch receive cursor w rounds cursor' w₁)
    (made : round fetch receive cursor' w₁ = (last, w')) (stops : last.Stops r) {n : Nat}
    (many : rounds.length < n) :
    (pages fetch receive n cursor).run w = (r.map fun _ => none, w') ∧
      trace fetch receive n cursor w = (rounds ++ [last]).flatMap Round.moments := by
  obtain ⟨m, rfl⟩ := Nat.exists_eq_add_of_lt many
  obtain ⟨result, notes⟩ := goes.run_pages (m + 1)
  obtain ⟨result', notes'⟩ := Page.run_pages_of_stops made stops m
  rw [Nat.add_assoc, result, notes, result', notes', List.flatMap_append, List.flatMap_singleton]
  exact ⟨rfl, rfl⟩

variable (fetch receive) in
/-- A listing ends with the `k`th page that is asked for: with fewer pages it stands at a cursor, and
with this many or more it is over. -/
structure Ends (cursor : String) (w : σ) (k : Nat) (r : Outcome Unit) (w' : σ) : Prop where
  ended : ∀ n, k ≤ n → (pages fetch receive n cursor).run w = (r.map fun _ => none, w') ∧
    (Page.cursors (trace fetch receive n cursor w)).length = k
  stands : ∀ n, n < k →
    ∃ standing w₁, (pages fetch receive n cursor).run w = (.ok (some standing), w₁)

theorem Goes.ends (goes : Goes fetch receive cursor w rounds cursor' w₁)
    (made : round fetch receive cursor' w₁ = (last, w')) (stops : last.Stops r) :
    Ends fetch receive cursor w (rounds.length + 1) r w' where
  ended n many := by
    obtain ⟨result, notes⟩ := goes.run_pages_of_stops made stops many
    rw [notes, Round.cursors_flatMap, List.length_map, List.length_append]
    exact ⟨result, rfl⟩
  stands n few := goes.stands (Nat.le_of_lt_succ few)

theorem map_none_ne_some {r : Outcome Unit} {standing : String} {w w' : σ} :
    ((r.map fun _ => none, w) : Outcome (Option String) × σ) ≠ (.ok (some standing), w') := by
  cases r <;> nofun

/-- A listing ends in one way only. -/
theorem Ends.eq {k k' : Nat} {r' : Outcome Unit} {w₂ : σ} (h : Ends fetch receive cursor w k r w')
    (h' : Ends fetch receive cursor w k' r' w₂) : k = k' ∧ r = r' ∧ w' = w₂ := by
  have le {k k' : Nat} {r r' : Outcome Unit} {w' w₂ : σ} (h : Ends fetch receive cursor w k r w')
      (h' : Ends fetch receive cursor w k' r' w₂) : k ≤ k' := by
    refine Nat.le_of_not_lt fun less => ?_
    obtain ⟨standing, w₁, open_⟩ := h.stands k' less
    exact map_none_ne_some ((h'.ended k' k'.le_refl).1.symm.trans open_)
  have same : k = k' := Nat.le_antisymm (le h h') (le h' h)
  subst same
  have results := (h.ended k k.le_refl).1.symm.trans (h'.ended k k.le_refl).1
  refine ⟨rfl, ?_, congrArg Prod.snd results⟩
  have results := congrArg Prod.fst results
  cases r <;> cases r' <;> cases results <;> rfl

/-- A listing ends with the first round that ends listings, and with nothing else. -/
theorem ends_iff {k : Nat} : Ends fetch receive cursor w k r w' ↔
    ∃ rounds cursor' w₁ last, Goes fetch receive cursor w rounds cursor' w₁ ∧
      round fetch receive cursor' w₁ = (last, w') ∧ last.Stops r ∧ k = rounds.length + 1 := by
  constructor
  · intro ends
    obtain ⟨rounds, cursor', w₁, goes, many⟩ := exists_goes fetch receive k cursor w
    rcases many with rfl | ⟨few, r', stops⟩
    · obtain ⟨standing, w₂, open_⟩ := goes.stands (Nat.le_refl _)
      exact absurd ((ends.ended _ (Nat.le_refl _)).1.symm.trans open_) map_none_ne_some
    · obtain ⟨same, rfl, rfl⟩ := ends.eq (goes.ends rfl stops)
      exact ⟨rounds, cursor', w₁, _, goes, rfl, stops, same⟩
  · rintro ⟨rounds, cursor', w₁, last, goes, made, stops, rfl⟩
    exact goes.ends made stops

/-- Whatever fetching and receiving do, a listing consists of rounds: a page is asked for, and what
comes is handed over whole and before anything else. The first round is for the first cursor, each later
one for the cursor that the page before it names, which is not empty. If at most `n` pages are allowed,
there are `n` rounds that do not end the listing or fewer of them and then one that does, and nothing
else happens. So the listing ends with the first round that ends listings, whatever it gives then, and
with nothing else: the first one whose page does not come or is not received, or whose page names no
cursor, is empty or names the cursor that it was asked for with. -/
theorem listing_by_rounds (fetch : String → Effect σ (Page α)) (receive : List α → Effect σ Unit)
    (cursor : String) (w : σ) :
    (∀ n, ∃ rounds cursor' w₁, Goes fetch receive cursor w rounds cursor' w₁ ∧
      (rounds.length = n ∧ (pages fetch receive n cursor).run w = (.ok (some cursor'), w₁) ∧
          trace fetch receive n cursor w = rounds.flatMap Round.moments ∨
        ∃ last w' r, rounds.length < n ∧ round fetch receive cursor' w₁ = (last, w') ∧
          last.cursor = cursor' ∧ last.Stops r ∧
          (pages fetch receive n cursor).run w = (r.map fun _ => none, w') ∧
          trace fetch receive n cursor w = (rounds ++ [last]).flatMap Round.moments)) ∧
    (∀ rounds cursor' w₁, Goes fetch receive cursor w rounds cursor' w₁ →
      rounds.map (some ∘ Round.cursor) ++ [some cursor'] = some cursor :: rounds.map Round.next? ∧
        ∀ round ∈ rounds, round.next? ≠ some "") ∧
    ∀ k r w', Ends fetch receive cursor w k r w' ↔
      ∃ rounds cursor' w₁ last, Goes fetch receive cursor w rounds cursor' w₁ ∧
        round fetch receive cursor' w₁ = (last, w') ∧ last.Stops r ∧ k = rounds.length + 1 := by
  refine ⟨fun n => ?_, fun rounds cursor' w₁ goes => goes.cursors, fun k r w' => ends_iff⟩
  obtain ⟨rounds, cursor', w₁, goes, many⟩ := exists_goes fetch receive n cursor w
  refine ⟨rounds, cursor', w₁, goes, many.imp ?_ ?_⟩
  · rintro rfl
    obtain ⟨result, notes⟩ := goes.run_pages 0
    refine ⟨rfl, result, notes.trans ?_⟩
    exact List.append_nil _
  · rintro ⟨few, r, stops⟩
    obtain ⟨result, notes⟩ := goes.run_pages_of_stops rfl stops few
    exact ⟨_, _, r, few, rfl, cursor_round fetch receive cursor' w₁, stops, result, notes⟩

/-- A plugin that counts its pages and names the same cursor on all of them. -/
def stubborn (_ : String) : Effect Nat (Page Nat) :=
  .ofFunction fun n => (.ok { items := [n], next := some "again" }, n + 1)

/-- Listing ends where the plugin names the cursor that it was asked for with, and the page is handed over
before. -/
theorem stubborn_listed : Ends stubborn (fun _ => pure ()) "" 0 2 (.ok ()) 2 ∧
    ∀ n, 2 ≤ n → ((pages stubborn (fun _ => pure ()) n "").run 0) = (.ok none, 2) := by
  have open_ (r : Outcome Unit) :
      ¬(Round.taken "" { items := [0], next := some "again" } : Round Nat).Stops r :=
    fun stops => absurd (Round.stops_taken_iff.1 stops).1 (by decide)
  have goes : Goes stubborn (fun _ => pure ()) "" 0
      [.taken "" { items := [0], next := some "again" }] "again" 1 := .on rfl open_ rfl .start
  obtain ⟨-, -, ends⟩ := listing_by_rounds stubborn (fun _ => pure ()) "" 0
  have ends_ := (ends 2 (.ok ()) 2).2 ⟨_, _, _, _, goes, rfl, .repeated rfl, rfl⟩
  exact ⟨ends_, fun n many => (ends_.ended n many).1⟩

end PluginKit.Page
