import PluginKit.Proofs.Host.History

/-!
# Scripted histories

A script says what is asked of a host and which task goes on next. What cannot be done is passed over,
so that every script makes a history.

## Main statements

- `step_apply`: whatever a script says makes a step.
- `fewOverlap_ofScript`: a script of ordinary length does not exhaust the generations.
-/

namespace PluginKit

variable {σ τ : Type} {l : Launcher τ}

/-- One line of a script. -/
inductive Act where
  | find (capability : Capability) (kind : String) (tag : TypeId)
  | stop (capabilities : List Capability) (patience : Option Nat)
  | bind (capability : Capability) (descriptor : PluginDescriptor) (type : TypeId)
  | go (task : Nat)
  | wait (time : Nat)

namespace Act

open Host

/-- A task goes on if it can. -/
def goOn (l : Launcher τ) (h : Host σ τ) (n : Nat) : Host σ τ :=
  match h.tasks[n]? with
  | none => h
  | some t =>
    match h.readyAt n t.stage with
    | none => h
    | some r => if t.notBefore ≤ h.now ∧ r ≤ h.now then h.next l n t.stage else h

/-- The host after a line of a script. -/
def apply (l : Launcher τ) (h : Host σ τ) : Act → Host σ τ
  | .find c kind tag => (h.ask 0 (.looking c kind tag)).2
  | .stop cs patience => (h.ask 0 (.asked cs patience)).2
  | .bind c d t => (h.register c fun r => r.add d t).2
  | .go n => goOn l h n
  | .wait time => { h with now := max h.now time }

theorem step_goOn (h : Host σ τ) (n : Nat) : Step l h (goOn l h n) := by
  have idle : Step l h h := .waited (Nat.le_refl h.now)
  unfold goOn
  split
  · exact idle
  · next t there =>
    split
    · exact idle
    · next r ready =>
      split
      · next due =>
        refine .turned ⟨?_, ?_, r, due.2, ready⟩
        · rw [stage?, there]
          rfl
        · intro u same
          cases there.symm.trans same
          exact due.1
      · exact idle

/-- A task that is due goes on. -/
theorem goOn_of_due {h : Host σ τ} {n : Nat} {s : Stage σ τ} (due : h.Due n s) :
    goOn l h n = h.next l n s := by
  obtain ⟨t, there, rfl⟩ := Option.map_eq_some_iff.1 due.at_
  obtain ⟨r, now, ready⟩ := due.ready
  have begun := due.begun t there
  simp only [goOn, there, ready]
  exact if_pos ⟨begun, now⟩

/-- Every line of a script makes a step. -/
theorem step_apply (h : Host σ τ) (a : Act) : Step l h (a.apply l h) := by
  cases a with
  | find c kind tag => exact .asked 0 trivial
  | stop cs patience => exact .asked 0 trivial
  | bind c d t => exact .bound c d t
  | go n => exact step_goOn h n
  | wait time => exact .waited (Nat.le_max_left _ _)

end Act

/-! ## Asking at any moment -/

namespace Host

variable {h g : Host σ τ}

theorem stage?_ask_ne (h : Host σ τ) {n : Nat} (delay : Nat) (s : Stage σ τ)
    (ne : n ≠ h.tasks.length) : (h.ask delay s).2.stage? n = h.stage? n := by
  show ((h.tasks ++ [_])[n]?).map Task.stage = _
  rcases Nat.lt_or_ge n h.tasks.length with old | new
  · rw [List.getElem?_append_left old]
    rfl
  · rw [List.getElem?_eq_none (by rw [List.length_append, List.length_singleton]; omega), stage?,
      List.getElem?_eq_none new]

/-- A task that is asked for without a delay is due as soon as it can go on. -/
theorem due_ask {s : Stage σ τ} (ready : (h.ask 0 s).2.readyAt h.tasks.length s = some h.now) :
    (h.ask 0 s).2.Due h.tasks.length s := by
  have there : (h.ask 0 s).2.tasks[h.tasks.length]? = some { notBefore := h.now, stage := s } := by
    show (h.tasks ++ [_])[h.tasks.length]? = _
    rw [List.getElem?_append_right (Nat.le_refl _), Nat.sub_self]
    rfl
  refine ⟨by rw [stage?, there]; rfl, ?_, h.now, Nat.le_refl _, ready⟩
  intro t same
  cases there.symm.trans same
  exact Nat.le_refl h.now

/-- A task that has moved is due again as soon as it can go on. -/
theorem due_of_moves {n : Nat} {s s' : Stage σ τ} (due : h.Due n s) (m : Moves l h n s s' g)
    (ready : (g.onStage n s').readyAt n s' = some g.now) : (g.onStage n s').Due n s' := by
  refine ⟨stage?_onStage due.at_ m.tasks s', ?_, g.now, Nat.le_refl _, ready⟩
  intro t there
  rw [onStage, List.getElem?_modify, m.tasks] at there
  obtain ⟨u, was, rfl⟩ := Option.map_eq_some_iff.1 there
  have begun := due.begun u was
  rw [now_onStage, m.now]
  simpa using begun

/-- With a task in the queue of the cell of a plugin. -/
def joining (h : Host σ τ) (n : Nat) (c : Capability) (d : PluginDescriptor) : Host σ τ :=
  ((h.cellOf c d.id).2.onCell (h.cellOf c d.id).1 fun x => { x with queue := x.queue ++ [n] }).onStage
    n (.queued (h.ticket c d))

/-- A task that looks up a plugin joins the queue of its cell, and is due as soon as it can go on. -/
theorem joined_of_serves {n : Nat} {c : Capability} {kind : String} {tag : TypeId}
    {d : PluginDescriptor} (due : h.Due n (.looking c kind tag))
    (serves : (h.registries c).lookup kind tag = .ok (.plugin d)) :
    Act.goOn l h n = h.joining n c d ∧
      ((h.joining n c d).mayGoOn n (h.ticket c d).cell = true →
        (h.joining n c d).Due n (.queued (h.ticket c d))) ∧
      ∀ m ≠ n, (h.joining n c d).stage? m = h.stage? m := by
  have moves : Moves l h n (.looking c kind tag) _ _ := .joined serves
  refine ⟨(Act.goOn_of_due due).trans ?_, fun may => due_of_moves due moves (if_pos may), ?_⟩
  · simp only [next, look, serves]
    rfl
  · intro m ne
    rw [joining, stage?_onStage_ne _ ne, stage?_congr moves.tasks]

end Host

namespace History

open Host

/-- The host after some lines of a script. -/
def play (l : Launcher τ) (h : Host σ τ) (acts : List Act) : Nat → Host σ τ
  | 0 => h
  | i + 1 =>
    match acts[i]? with
    | some a => a.apply l (play l h acts i)
    | none => play l h acts i

theorem step_play (h : Host σ τ) (acts : List Act) (i : Nat) :
    Step l (play l h acts i) (play l h acts (i + 1)) := by
  rw [play]
  split
  · exact Act.step_apply _ _
  · exact .waited (Nat.le_refl _)

/-- The history of a script, at whose end nothing happens any more. -/
def ofScript (l : Launcher τ) {h : Host σ τ} (fresh : h.Fresh) (acts : List Act) : History σ l where
  state := play l h acts
  fresh := fresh
  step := step_play h acts

theorem closings_ofScript {h : Host σ τ} (fresh : h.Fresh) (acts : List Act) (c : Capability)
    (i : Nat) : (ofScript l fresh acts).closings c i ≤ acts.length ∧
      (ofScript l fresh acts).closings c i ≤ i := by
  induction i with
  | zero => exact ⟨Nat.zero_le _, Nat.zero_le _⟩
  | succ i ih =>
    rw [closings]
    split
    · exact ⟨ih.1, Nat.le_succ_of_le ih.2⟩
    · next other =>
      have within : i < acts.length := by
        refine Nat.lt_of_not_le fun beyond => other ?_
        show ((play l h acts (i + 1)).registries c).generation = _
        rw [play, List.getElem?_eq_none beyond]
        rfl
      omega

/-- A script of ordinary length does not exhaust the generations. -/
theorem fewOverlap_ofScript {h : Host σ τ} (fresh : h.Fresh) {acts : List Act}
    (short : acts.length < UInt64.size) : (ofScript l fresh acts).FewOverlap := by
  intro n a b s s' k _ _ _ _ _
  have bound := (closings_ofScript (l := l) fresh acts k.capability b).1
  exact Nat.lt_of_le_of_lt bound (Nat.lt_of_lt_of_le short (Nat.le_add_left _ _))

/-! ## Going on from a moment -/

/-- The history that is the same up to a moment and goes on with a script. -/
def followed (r : History σ l) (i : Nat) (acts : List Act) : History σ l where
  state j := if j ≤ i then r.state j else play l (r.state i) acts (j - i)
  fresh := by simpa using r.fresh
  step j := by
    -- a step of the old history, the first step of the script, or a later one
    rcases Nat.lt_trichotomy j i with less | rfl | more
    · rw [if_pos (Nat.le_of_lt less), if_pos (show j + 1 ≤ i from less)]
      exact r.step j
    · rw [if_pos (Nat.le_refl _), if_neg (Nat.not_succ_le_self _), Nat.add_sub_cancel_left]
      exact step_play _ _ 0
    · rw [if_neg (Nat.not_le_of_lt more), if_neg (Nat.not_le_of_lt (Nat.lt_succ_of_lt more)),
        Nat.succ_sub (Nat.le_of_lt more)]
      exact step_play _ _ _

theorem followed_of_le (r : History σ l) {i j : Nat} (acts : List Act) (h : j ≤ i) :
    (r.followed i acts).state j = r.state j := if_pos h

theorem followed_add (r : History σ l) (i j : Nat) (acts : List Act) :
    (r.followed i acts).state (i + j) = play l (r.state i) acts j := by
  cases j with
  | zero => exact followed_of_le r acts (Nat.le_refl i)
  | succ j =>
    show (if i + (j + 1) ≤ i then _ else _) = _
    rw [if_neg (by omega), Nat.add_sub_cancel_left]

/-- A caller asks for what serves a type, and its task goes on twice. -/
def findAndGo (c : Capability) (kind : String) (tag : TypeId) (n : Nat) : List Act :=
  [.find c kind tag, .go n, .go n]

/-! ## A plugin to write scripts about -/

/-- A plugin at a path. -/
def samplePlugin (path : String) : PluginDescriptor where
  id := ⟨"p"⟩
  path := path

/-- The type that the plugin serves. -/
def sampleType : TypeId := .ofName "t"

/-- A type that another plugin may serve. -/
def otherType : TypeId := .ofName "u"

/-- The line that binds the plugin to its type. -/
def bindSample : Act := .bind .resourceRepository (samplePlugin "a") sampleType

/-- The line that asks for what serves the type. -/
def findSample : Act := .find .resourceRepository "" sampleType

/-- The line that stops all instances. -/
def stopSample : Act := .stop [.resourceRepository] none

/-- A launcher for plugins that exit as soon as they are interrupted. The place where an instance is
reached tells which plugin was started. -/
def sampleLauncher (delay : Nat) : Launcher Unit := fun d _ count =>
  { delay
    outcome := .ok {
      place := .socket d.path
      process := { plugin := d.id, count, exitAfter := some 0 }
      send := fun _ => .fail (.notFound "request")
      ids := fun _ => .zero
      documents := .none
      world := () } }

/-- A host to which nothing has happened. -/
def sampleHost : Host Unit Unit := ofScheme {} {}

theorem fresh_sampleHost : sampleHost.Fresh := fresh_ofScheme {} {}

end History

end PluginKit
