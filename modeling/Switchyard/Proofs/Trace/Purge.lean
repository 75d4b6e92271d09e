import Switchyard.Proofs.Trace.Pinned
set_option autoImplicit false

/-! Purging. A purge takes away the stale traces and the decisions that have no trace left, and
nothing else; that determines it, so purges one after another come to a single one. Main statement:
`Recorder.purges_compose`. -/
namespace Switchyard.Recorder

/-- The trace of an id was last appended to before a cutoff, a number of milliseconds, and no
request of the id is running. -/
def isStale (recorder : Recorder) (cutoff : Int) (id : String) : Bool :=
  (recorder.logs.get? id).any (fun log => decide (log.lastAppend.millis < cutoff)) &&
    !recorder.isRunning id

/-- What a purge makes of a recorder, and the number of traces that it takes away. -/
structure Purged (cutoff : Int) (before after : Recorder) (removed : Nat) : Prop where
  /-- The stale traces are gone, and every other trace is what it was. -/
  logs : ∀ id, after.logs.get? id =
    if before.isStale cutoff id then none else before.logs.get? id
  /-- Exactly the decisions are left whose id still has a trace. -/
  decisions : ∀ id, after.decisions.get? id =
    if after.logs.contains id then before.decisions.get? id else none
  running : after.running = before.running
  activations : after.activations = before.activations
  mode : after.mode = before.mode
  retentionSecs : after.retentionSecs = before.retentionSecs
  maxRequests : after.maxRequests = before.maxRequests
  removed : removed = before.logs.keys.countP (before.isStale cutoff)

theorem isStale_max (recorder : Recorder) (first second : Int) (id : String) :
    recorder.isStale (max first second) id =
      (recorder.isStale first id || recorder.isStale second id) := by
  unfold isStale
  cases recorder.logs.get? id with
  | none => rfl
  | some log =>
    have either : log.lastAppend.millis < max first second ↔
        log.lastAppend.millis < first ∨ log.lastAppend.millis < second := by omega
    simp only [Option.any_some, either, Bool.decide_or, Bool.and_or_distrib_right]

theorem idle_of_isStale {recorder : Recorder} {cutoff : Int} {id : String}
    (stale : recorder.isStale cutoff id = true) : recorder.isRunning id = false := by
  rw [isStale, Bool.and_eq_true, Bool.not_eq_true'] at stale
  exact stale.2

theorem Spared.fresh {recorder : Recorder} {id : String} (spared : recorder.Spared id)
    (cutoff : Int) : recorder.isStale cutoff id = false := by
  rcases spared with running | nothing
  · rw [isStale, running, Bool.not_true, Bool.and_false]
  · have absent : recorder.logs.get? id = none := congrArg Prod.fst nothing
    rw [isStale, absent]
    rfl

section Purged

variable {cutoff : Int} {before after : Recorder} {removed : Nat}

theorem contains_of_stale_gone
    (logs : ∀ id, after.logs.get? id = if before.isStale cutoff id then none else before.logs.get? id)
    (id : String) :
    after.logs.contains id = (before.logs.contains id && !before.isStale cutoff id) := by
  rw [Dict.contains, logs, Dict.contains]
  cases before.isStale cutoff id <;> simp

theorem removed_eq_of_stale_gone
    (logs : ∀ id, after.logs.get? id = if before.isStale cutoff id then none else before.logs.get? id)
    (counted : after.traceCount + removed = before.traceCount) :
    removed = before.logs.keys.countP (before.isStale cutoff) := by
  have sizes := Dict.size_add_countP (contains_of_stale_gone logs)
  unfold traceCount at counted
  omega

theorem Purged.traceCount_add (purged : Purged cutoff before after removed) :
    after.traceCount + removed = before.traceCount := by
  rw [purged.removed]
  exact Dict.size_add_countP (contains_of_stale_gone purged.logs)

/-- A purge takes a decision away exactly if it leaves no trace of its id. -/
theorem Purged.held_cases (purged : Purged cutoff before after removed) (id : String) :
    after.held id = before.held id ∨ after.held id = (none, none) := by
  have logs := purged.logs id
  have decisions := purged.decisions id
  cases left : after.logs.contains id with
  | false =>
    rw [left] at decisions
    have gone : after.logs.get? id = none := by
      rwa [Dict.contains, Option.isSome_eq_false_iff, Option.isNone_iff_eq_none] at left
    exact Or.inr (Prod.ext gone decisions)
  | true =>
    rw [left] at decisions
    rw [contains_of_stale_gone purged.logs, Bool.and_eq_true, Bool.not_eq_true'] at left
    rw [left.2] at logs
    exact Or.inl (Prod.ext logs decisions)

theorem Purged.held_of_spared (purged : Purged cutoff before after removed) {id : String}
    (spared : before.Spared id)
    (tied : (before.decision? id).isSome = true → before.traces id ≠ []) :
    after.held id = before.held id := by
  rcases purged.held_cases id with same | gone
  · exact same
  · have noTrace : before.logs.get? id = none := by
      have logs := purged.logs id
      rw [spared.fresh] at logs
      exact logs.symm.trans (congrArg Prod.fst gone)
    have noDecision : before.decisions.get? id = none := by
      cases decided : before.decisions.get? id with
      | none => rfl
      | some decision =>
        have traced := tied (by rw [decision?, decided]; rfl)
        rw [traces, noTrace] at traced
        exact absurd rfl traced
    exact gone.trans (Prod.ext noTrace noDecision).symm

/-- What a purge does is determined by its cutoff. -/
theorem Purged.unique {other : Recorder} {count : Nat}
    (purged : Purged cutoff before after removed) (again : Purged cutoff before other count) :
    after = other ∧ removed = count := by
  have logs : after.logs = other.logs := by
    apply Dict.ext_get?
    intro id
    rw [purged.logs, again.logs]
  have decisions : after.decisions = other.decisions := by
    apply Dict.ext_get?
    intro id
    rw [purged.decisions, again.decisions, logs]
  refine ⟨?_, purged.removed.trans again.removed.symm⟩
  have running := purged.running.trans again.running.symm
  have activations := purged.activations.trans again.activations.symm
  have mode := purged.mode.trans again.mode.symm
  have retention := purged.retentionSecs.trans again.retentionSecs.symm
  have max := purged.maxRequests.trans again.maxRequests.symm
  cases after
  cases other
  simp_all

end Purged

/-- Purges one after another come to one with the later of their cutoffs. -/
theorem Purged.trans {first second : Int} {before between after : Recorder} {removed more : Nat}
    (earlier : Purged first before between removed) (later : Purged second between after more) :
    Purged (max first second) before after (removed + more) := by
  have sameRunning : ∀ id, between.isRunning id = before.isRunning id := by
    intro id
    exact isRunning_of_running earlier.running id
  have logs : ∀ id, after.logs.get? id =
      if before.isStale (max first second) id then none else before.logs.get? id := by
    intro id
    rw [later.logs, isStale_max]
    cases gone : before.isStale first id with
    | true =>
      have held : between.logs.get? id = none := by
        rw [earlier.logs, gone]
        rfl
      rw [held]
      simp
    | false =>
      have held : between.logs.get? id = before.logs.get? id := by
        rw [earlier.logs, gone]
        rfl
      have stale : between.isStale second id = before.isStale second id := by
        rw [isStale, isStale, held, sameRunning]
      rw [held, stale, Bool.false_or]
  refine ⟨logs, ?_, later.running.trans earlier.running,
    later.activations.trans earlier.activations, later.mode.trans earlier.mode,
    later.retentionSecs.trans earlier.retentionSecs, later.maxRequests.trans earlier.maxRequests, ?_⟩
  · intro id
    rw [later.decisions]
    cases left : after.logs.contains id with
    | false => rfl
    | true =>
      -- A trace that has outlived both purges has outlived the first one.
      have outlived := contains_of_stale_gone later.logs id
      rw [left, eq_comm, Bool.and_eq_true] at outlived
      rw [earlier.decisions, outlived.1]
      rfl
  · apply removed_eq_of_stale_gone logs
    have firstCount := earlier.traceCount_add
    have secondCount := later.traceCount_add
    omega

theorem purgeBefore_purged (recorder : Recorder) (cutoff : Timestamp) :
    Purged cutoff.millis recorder (recorder.purgeBefore cutoff).1
      (recorder.purgeBefore cutoff).2 := by
  have logs : ∀ id, (recorder.purgeBefore cutoff).1.logs.get? id =
      if recorder.isStale cutoff.millis id then none else recorder.logs.get? id := by
    intro id
    have kept : (recorder.purgeBefore cutoff).1.logs.get? id =
        (recorder.logs.get? id).filter fun log =>
          decide (cutoff.millis ≤ log.lastAppend.millis) || recorder.isRunning id :=
      Dict.get?_filter _ (recorder.outlives cutoff) _
    rw [kept, isStale]
    cases recorder.logs.get? id with
    | none => simp
    | some log =>
      have order : decide (log.lastAppend.millis < cutoff.millis) =
          !decide (cutoff.millis ≤ log.lastAppend.millis) := by
        rw [← decide_not]
        exact decide_eq_decide.mpr Int.not_le.symm
      simp only [Option.filter_some, Option.any_some, order]
      cases decide (cutoff.millis ≤ log.lastAppend.millis) <;> cases recorder.isRunning id <;> rfl
  refine ⟨logs, ?_, rfl, rfl, rfl, rfl, rfl, ?_⟩
  · intro id
    have kept : (recorder.purgeBefore cutoff).1.decisions.get? id =
        (recorder.decisions.get? id).filter
          fun _ => (recorder.purgeBefore cutoff).1.logs.contains id := Dict.get?_filter _ _ _
    rw [kept]
    cases (recorder.purgeBefore cutoff).1.logs.contains id <;> cases recorder.decisions.get? id <;>
      rfl
  · apply removed_eq_of_stale_gone logs
    have fewer := (Dict.keys_filter_sublist recorder.logs (recorder.outlives cutoff)).length_le
    rw [Dict.length_keys, Dict.length_keys] at fewer
    change (recorder.logs.filter _).size + (recorder.logs.size - (recorder.logs.filter _).size) =
      recorder.logs.size
    omega

/-- A purge takes away exactly the traces that are stale at its cutoff, leaves every other trace, the
running requests and the activations as they are, and keeps exactly the decisions whose id still has
a trace; it tells how many traces it takes away. So two purges, in whatever order, reach the state
of one with the later cutoff, and together tell of as many traces. Which cutoff is the later one is
told by their milliseconds, and so by the instants themselves unless the earlier lies in a leap
second. -/
theorem purges_compose (recorder : Recorder) (first second : Timestamp) :
    (∀ cutoff : Timestamp, Purged cutoff.millis recorder (recorder.purgeBefore cutoff).1
      (recorder.purgeBefore cutoff).2) ∧
    (let later := if first.millis ≤ second.millis then second else first
      let once := recorder.purgeBefore first
      let twice := once.1.purgeBefore second
      twice.1 = (recorder.purgeBefore later).1 ∧
        once.2 + twice.2 = (recorder.purgeBefore later).2) ∧
    (first.leap = false → first.rank ≤ second.rank → first.millis ≤ second.millis) := by
  refine ⟨recorder.purgeBefore_purged, ?_, Timestamp.millis_le_of_rank_le⟩
  intro later once twice
  have both := (recorder.purgeBefore_purged first).trans (once.1.purgeBefore_purged second)
  have bound : max first.millis second.millis = later.millis := by
    by_cases order : first.millis ≤ second.millis
    · simp only [later, order, if_true]
      omega
    · simp only [later, order, if_false]
      omega
  rw [bound] at both
  exact both.unique (recorder.purgeBefore_purged later)

end Switchyard.Recorder
