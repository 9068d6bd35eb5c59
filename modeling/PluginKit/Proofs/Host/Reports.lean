import PluginKit.Proofs.Host.Move

/-!
# Reports on processes

When the waiting for processes ends, each of them has one fault at most. What is reported are these
faults in the order of the processes, however the reports are joined.

## Main statements

- `report_eq`: a report holds the faults of the processes.
- `join_reports`: reports that are joined are one report.
- `allSettleAt_eq_none`: when the waiting has no end.
- `hasExited_iff_of_settled`: which processes have exited when the waiting ends.
-/

namespace PluginKit

/-! ## Reports -/

/-- The faults that a fault adds to a report: those that it was joined from, or itself. -/
def Fault.causes : Fault → List Fault
  | .shutdown causes => causes
  | e => [e]

/-- The report on some faults, which is a success if there are none. -/
def Fault.reported (faults : List Fault) : Outcome Unit :=
  if faults.isEmpty then .ok () else .error (.shutdown faults)

theorem Fault.join_eq (faults : List Fault) : join faults = reported (faults.flatMap causes) := rfl

theorem Fault.reported_eq_ok {faults : List Fault} : reported faults = .ok () ↔ faults = [] := by
  cases faults <;> simp [reported]

namespace Process

/-- The fault of a process at the moment when the waiting for it ends: the one of its exit, or that it
had to be killed. -/
def fault (now : Nat) (p : Process) : Option Fault :=
  if p.hasExited now then p.exitFault else some p.killedFault

/-- The faults of processes, one at most for each. -/
def faults (now : Nat) (ps : List Process) : List Fault := ps.filterMap (fault now)

theorem settle_fault (now : Nat) (p : Process) : (p.settle now).2 = p.fault now := by
  unfold settle fault
  split <;> rfl

/-- A process has no fault if it has exited and could be interrupted and waited for. -/
theorem fault_eq_none {now : Nat} {p : Process} : p.fault now = none ↔
    p.hasExited now = true ∧ p.interruptFault = none ∧ p.waitFault = none := by
  unfold fault
  split
  · next exited => simp [exited, exitFault, Option.map_eq_none_iff]
  · next alive => simp [alive]

theorem causes_fault {now : Nat} {p : Process} {e : Fault} (failed : p.fault now = some e) :
    e.causes = [e] := by
  unfold fault at failed
  split at failed
  · obtain ⟨text, -, rfl⟩ := Option.map_eq_some_iff.1 failed
    rfl
  · cases failed
    rfl

/-- A report holds the faults of the processes, in their order. -/
theorem report_eq (now : Nat) (ps : List Process) : report now ps = Fault.reported (faults now ps) := by
  have flat : (faults now ps).flatMap Fault.causes = faults now ps := by
    induction ps with
    | nil => rfl
    | cons p ps ih =>
      rw [faults, List.filterMap_cons]
      cases failed : p.fault now with
      | none => exact ih
      | some e =>
        show e.causes ++ (faults now ps).flatMap Fault.causes = e :: faults now ps
        rw [causes_fault failed, ih]
        rfl
  have settled : (ps.filterMap fun p => (p.settle now).2) = faults now ps := by
    simp only [settle_fault]
    rfl
  rw [report, settled, Fault.join_eq, flat]

/-- Reports that are joined are one report. -/
theorem join_reports (now : Nat) (pss : List (List Process)) :
    Fault.join (pss.filterMap fun ps => match report now ps with
      | .error e => some e
      | .ok () => none) = report now pss.flatten := by
  have flat : (pss.filterMap fun ps => match report now ps with
      | .error e => some e
      | .ok () => none).flatMap Fault.causes = faults now pss.flatten := by
    induction pss with
    | nil => rfl
    | cons ps pss ih =>
      rw [List.flatten_cons, faults, List.filterMap_append, ← faults, ← faults, ← ih,
        List.filterMap_cons, report_eq, Fault.reported]
      cases faults now ps <;> rfl
  rw [Fault.join_eq, flat, report_eq]

theorem report_eq_ok {now : Nat} {ps : List Process} : report now ps = .ok () ↔
    ∀ p ∈ ps, p.hasExited now = true ∧ p.interruptFault = none ∧ p.waitFault = none := by
  rw [report_eq, Fault.reported_eq_ok, faults, List.filterMap_eq_nil_iff]
  simp only [fault_eq_none]

/-! ## Waiting -/

/-- When all processes are settled each of them is. -/
theorem settled_of_all {now r : Nat} {cancelAt : Option Nat} {ps : List Process}
    (settled : allSettleAt now cancelAt ps = some r) :
    now ≤ r ∧ ∀ p ∈ ps, ∃ e ≤ r, p.settlesAt cancelAt = some e := by
  induction ps generalizing now with
  | nil =>
    cases settled
    exact ⟨Nat.le_refl _, by simp⟩
  | cons p ps ih =>
    rw [Host.allSettleAt_cons] at settled
    obtain ⟨e, ends, rest⟩ := Option.bind_eq_some_iff.1 settled
    obtain ⟨later, others⟩ := ih rest
    refine ⟨by omega, ?_⟩
    rintro q mem
    rcases List.mem_cons.1 mem with rfl | mem
    · exact ⟨e, by omega, ends⟩
    · exact others q mem

/-- A task does not wait for processes beyond the moment that limits the waiting. -/
theorem allSettleAt_le {now r cancel : Nat} {ps : List Process}
    (settled : allSettleAt now (some cancel) ps = some r) : r ≤ max now cancel := by
  induction ps generalizing now with
  | nil =>
    cases settled
    omega
  | cons p ps ih =>
    rw [Host.allSettleAt_cons] at settled
    obtain ⟨e, ends, rest⟩ := Option.bind_eq_some_iff.1 settled
    have bound := ih rest
    have least : e ≤ cancel := by
      unfold settlesAt at ends
      cases exits : p.exitsAt <;> simp only [exits, Option.some.injEq] at ends <;> omega
    omega

/-- The waiting has no end only if there is no limit to it and one of the processes never exits. -/
theorem allSettleAt_eq_none {now : Nat} {cancelAt : Option Nat} {ps : List Process}
    (unsettled : allSettleAt now cancelAt ps = none) :
    cancelAt = none ∧ ∃ p ∈ ps, p.exitsAt = none := by
  induction ps generalizing now with
  | nil => cases unsettled
  | cons p ps ih =>
    rw [Host.allSettleAt_cons] at unsettled
    cases ends : p.settlesAt cancelAt with
    | none =>
      unfold settlesAt at ends
      cases exits : p.exitsAt <;> cases limit : cancelAt <;> simp [exits, limit] at ends
      exact ⟨rfl, p, List.mem_cons_self, exits⟩
    | some e =>
      rw [ends, Option.bind_some] at unsettled
      obtain ⟨limit, q, mem, never⟩ := ih unsettled
      exact ⟨limit, q, List.mem_cons_of_mem _ mem, never⟩

/-- A process that has not exited when it is settled has been waited for until the moment came. -/
theorem limit_of_alive {now e : Nat} {cancelAt : Option Nat} {p : Process}
    (ends : p.settlesAt cancelAt = some e) (intime : e ≤ now) (alive : p.hasExited now = false) :
    ∃ cancel ≤ now, cancelAt = some cancel := by
  unfold settlesAt at ends
  unfold hasExited at alive
  cases exits : p.exitsAt <;> cases limit : cancelAt <;> simp [exits, limit] at ends alive
  · exact ⟨_, by omega, rfl⟩
  · omega
  · exact ⟨_, by omega, rfl⟩

/-- A task that goes on as soon as all processes are settled sees a process exit if and only if it exits
at the latest when the moment comes. -/
theorem hasExited_iff_of_settled {now r cancel : Nat} {ps : List Process}
    (settled : allSettleAt now (some cancel) ps = some r) {p : Process} (mem : p ∈ ps) :
    p.hasExited r = p.hasExited (max now cancel) := by
  obtain ⟨later, each⟩ := settled_of_all settled
  obtain ⟨e, intime, ends⟩ := each p mem
  have bound := allSettleAt_le settled
  unfold settlesAt at ends
  unfold hasExited
  cases exits : p.exitsAt with
  | none => rfl
  | some t =>
    simp only [exits, Option.some.injEq] at ends
    simp only [Option.any_some, decide_eq_decide]
    omega

end Process

end PluginKit
