import Mathlib.Logic.Relation
import Switchyard.Proofs.Trace.Calls
set_option autoImplicit false

/-! How many traces a recorder keeps. Main statement: whatever it is called for, there are no more
of them than it has room for, or all but one of them are pinned by running requests. -/
namespace Switchyard.Recorder

/-! One eviction, and what the evictions of a call come to. -/

/-- There are too many traces, and one of those that may go is removed: one that was appended to no
later than any other of them. -/
inductive Evicts (keep : String) (before : Recorder) : Recorder → Prop
  | oldest {id : String} {log : TraceLog} (tooMany : before.maxRequests < before.traceCount)
      (held : before.logs.get? id = some log) (notKept : id ≠ keep)
      (idle : before.isRunning id = false)
      (oldest : ∀ other otherLog, before.logs.get? other = some otherLog → other ≠ keep →
        before.isRunning other = false → log.lastAppend.millis ≤ otherLog.lastAppend.millis) :
      Evicts keep before (before.removeTrace id)

/-- One recorder comes from another by evictions, and no further eviction is possible. -/
def EvictsAll (keep : String) (before after : Recorder) : Prop :=
  Relation.ReflTransGen (Evicts keep) before after ∧ ∀ next, ¬ Evicts keep after next

theorem older_bound {best : Option (String × TraceLog)} {entry next : String × TraceLog}
    (chosen : older best next = some entry) :
    (∀ first ∈ best, entry.2.lastAppend.millis ≤ first.2.lastAppend.millis) ∧
      entry.2.lastAppend.millis ≤ next.2.lastAppend.millis := by
  unfold older at chosen
  split at chosen
  · obtain rfl := Option.some.inj chosen
    exact ⟨fun first inside => (Option.not_mem_none first inside).elim, Int.le_refl _⟩
  · rename_i id log
    have only : ∀ first ∈ some (id, log), first = (id, log) := fun first inside =>
      (Option.mem_some.mp inside).symm
    split at chosen
    · rename_i less
      obtain rfl := Option.some.inj chosen
      exact ⟨fun first inside => only first inside ▸ Int.le_of_lt less, Int.le_refl _⟩
    · rename_i notLess
      obtain rfl := Option.some.inj chosen
      exact ⟨fun first inside => only first inside ▸ Int.le_refl _, Int.not_lt.mp notLess⟩

theorem foldl_older_bound {best : Option (String × TraceLog)} {entry : String × TraceLog}
    {list : List (String × TraceLog)} (found : list.foldl older best = some entry) :
    (∀ first ∈ best, entry.2.lastAppend.millis ≤ first.2.lastAppend.millis) ∧
      ∀ other ∈ list, entry.2.lastAppend.millis ≤ other.2.lastAppend.millis := by
  induction list generalizing best with
  | nil =>
    rw [List.foldl_nil] at found
    subst found
    refine ⟨fun first inside => ?_, fun other inside => (List.not_mem_nil inside).elim⟩
    exact Option.mem_some.mp inside ▸ Int.le_refl _
  | cons head rest ih =>
    obtain ⟨fromBest, fromRest⟩ := ih found
    obtain ⟨chosen, same⟩ : ∃ chosen, older best head = some chosen := by
      unfold older
      split
      · exact ⟨_, rfl⟩
      · split <;> exact ⟨_, rfl⟩
    obtain ⟨belowBest, belowHead⟩ := older_bound same
    have belowChosen := fromBest chosen same
    exact ⟨fun first inside => Int.le_trans belowChosen (belowBest first inside),
      List.forall_mem_cons.mpr ⟨Int.le_trans belowChosen belowHead, fromRest⟩⟩

theorem isRemovable_iff (recorder : Recorder) (keep : String) (entry : String × TraceLog) :
    recorder.isRemovable keep entry = true ↔
      entry.1 ≠ keep ∧ recorder.isRunning entry.1 = false := by
  simp [isRemovable]

theorem evicts_of_oldest? {recorder : Recorder} {keep id : String} {log : TraceLog}
    (tooMany : recorder.maxRequests < recorder.traceCount)
    (found : recorder.oldest? keep = some (id, log)) :
    Evicts keep recorder (recorder.removeTrace id) := by
  obtain ⟨inside, notKept, idle⟩ := oldest?_spec found
  refine .oldest tooMany ((Dict.get?_eq_some_iff _ _ _).mpr inside) notKept idle ?_
  intro other otherLog held otherNotKept otherIdle
  refine (foldl_older_bound found).2 (other, otherLog) (List.mem_filter.mpr ⟨?_, ?_⟩)
  · exact (Dict.get?_eq_some_iff _ _ _).mp held
  · exact (recorder.isRemovable_iff keep _).mpr ⟨otherNotKept, otherIdle⟩

theorem not_removable_of_oldest? {recorder : Recorder} {keep : String}
    (nothing : recorder.oldest? keep = none) {id : String} {log : TraceLog}
    (held : recorder.logs.get? id = some log) :
    ¬ (id ≠ keep ∧ recorder.isRunning id = false) := by
  intro removable
  have inside : (id, log) ∈ recorder.logs.entries.filter (recorder.isRemovable keep) :=
    List.mem_filter.mpr ⟨(Dict.get?_eq_some_iff _ _ _).mp held,
      (recorder.isRemovable_iff keep _).mpr removable⟩
  have chosen : ∀ (list : List (String × TraceLog)) (best : String × TraceLog),
      list.foldl older (some best) ≠ none := by
    intro list
    induction list with
    | nil => exact fun best => Option.some_ne_none best
    | cons head rest ih =>
      intro best
      rw [List.foldl_cons, older]
      split
      · exact ih head
      · exact ih best
  unfold oldest? at nothing
  generalize recorder.logs.entries.filter (recorder.isRemovable keep) = list at nothing inside
  cases list with
  | nil => exact List.not_mem_nil inside
  | cons head rest => exact chosen rest head nothing

theorem traceCount_removeTrace {recorder : Recorder} {id : String} {log : TraceLog}
    (held : recorder.logs.get? id = some log) :
    (recorder.removeTrace id).traceCount + 1 = recorder.traceCount :=
  recorder.logs.size_erase ((Dict.contains_iff _ _).mpr ⟨log, held⟩)

/-- Every eviction leaves one trace less, so there is no endless run of them. -/
theorem wellFounded_evicts (keep : String) :
    WellFounded fun after before : Recorder => Evicts keep before after := by
  refine Subrelation.wf ?_ (measure traceCount).wf
  rintro _ before ⟨-, held, -, -⟩
  have fewer := traceCount_removeTrace held
  exact Nat.lt_of_lt_of_eq (Nat.lt_succ_self _) fewer

/-- The cap is enforced by evictions, as long as there are too many traces and one may go. -/
theorem enforceCap_evictsAll (recorder : Recorder) (keep : String) :
    EvictsAll keep recorder (recorder.enforceCap keep) := by
  unfold enforceCap
  generalize counted : recorder.traceCount - recorder.maxRequests = excess
  induction excess generalizing recorder with
  | zero =>
    refine ⟨.refl, ?_⟩
    rintro next ⟨tooMany, -, -, -⟩
    exact Nat.not_lt.mpr (Nat.sub_eq_zero_iff_le.mp counted) tooMany
  | succ excess ih =>
    rw [evict]
    split
    · rename_i id log found
      obtain ⟨inside, -, -⟩ := oldest?_spec found
      have fewer := traceCount_removeTrace ((Dict.get?_eq_some_iff _ _ _).mpr inside)
      have still : (recorder.removeTrace id).traceCount - recorder.maxRequests = excess := by omega
      obtain ⟨rest, atEnd⟩ := ih (recorder.removeTrace id) still
      exact ⟨.head (evicts_of_oldest? (by omega) found) rest, atEnd⟩
    · rename_i nothing
      refine ⟨.refl, ?_⟩
      rintro next ⟨-, held, notKept, idle, -⟩
      exact not_removable_of_oldest? nothing held ⟨notKept, idle⟩

/-! What the cap comes to over any calls. -/

/-- How many traces are kept without a running request of their id. -/
def idleCount (recorder : Recorder) : Nat :=
  recorder.logs.keys.countP fun id => !recorder.isRunning id

/-- The traces are within the cap, or all but one of them are pinned. -/
def Capped (recorder : Recorder) : Prop :=
  recorder.traceCount ≤ recorder.maxRequests ∨ recorder.idleCount ≤ 1

theorem Capped.of_le {before after : Recorder} (capped : before.Capped)
    (max : after.maxRequests = before.maxRequests) (traces : after.traceCount ≤ before.traceCount)
    (idle : after.idleCount ≤ before.idleCount) : after.Capped := by
  unfold Capped at capped ⊢
  omega

theorem idleCount_le_of_running {before after : Recorder} (logs : after.logs = before.logs)
    (running : ∀ id, before.isRunning id = true → after.isRunning id = true) :
    after.idleCount ≤ before.idleCount := by
  unfold idleCount
  rw [logs]
  refine List.countP_mono_left fun id _ idle => ?_
  rw [Bool.not_eq_true'] at idle ⊢
  exact Bool.eq_false_iff.mpr fun runs => Bool.eq_false_iff.mp idle (running id runs)

theorem capped_of_not_evicts {recorder : Recorder} {keep : String}
    (atEnd : ∀ next, ¬ Evicts keep recorder next) : recorder.Capped := by
  unfold Capped
  by_cases within : recorder.traceCount ≤ recorder.maxRequests
  · exact Or.inl within
  · refine Or.inr ?_
    have nothing : recorder.oldest? keep = none := by
      cases found : recorder.oldest? keep with
      | none => rfl
      | some entry => exact absurd (evicts_of_oldest? (Nat.not_le.mp within) found) (atEnd _)
    -- Only the trace that is kept can be idle, and it is listed once.
    have onlyKept : ∀ id ∈ recorder.logs.keys, (!recorder.isRunning id) = true →
        (id == keep) = true := by
      intro id inside idle
      obtain ⟨log, held⟩ := (Dict.contains_iff _ _).mp ((Dict.mem_keys_iff _ _).mp inside)
      refine beq_iff_eq.mpr (Classical.byContradiction fun notKept => ?_)
      exact not_removable_of_oldest? nothing held ⟨notKept, by simpa using idle⟩
    calc recorder.idleCount
      _ ≤ recorder.logs.keys.count keep := List.countP_mono_left onlyKept
      _ ≤ 1 := List.nodup_iff_count.mp recorder.logs.keys_nodup keep

@[simp] theorem perform_maxRequests (recorder : Recorder) (call : Call) :
    (recorder.perform call).maxRequests = recorder.maxRequests := by
  cases call with
  | record now made =>
    rw [perform, record_eq]
    split
    · rfl
    · exact enforceCap_keeps maxRequests (fun _ _ => rfl) _ _
  | finishRequest finished => exact enforceCap_keeps maxRequests (fun _ _ => rfl) _ _
  | _ => rfl

theorem noted_contains {recorder : Recorder} {made : TraceRecord} (now : Timestamp)
    (present : recorder.logs.contains made.correlationId = true) (id : String) :
    (recorder.noted now made).logs.contains id = recorder.logs.contains id := by
  rw [noted, Dict.contains, Dict.get?_insert]
  split
  · rename_i same
    rw [← same, present]
    rfl
  · rfl

theorem Capped.perform {recorder : Recorder} (capped : recorder.Capped) (call : Call) :
    (recorder.perform call).Capped := by
  cases call with
  | beginRequest begun =>
    refine capped.of_le rfl (Nat.le_refl _) (idleCount_le_of_running rfl fun id runs => ?_)
    rw [isRunning_iff] at runs ⊢
    rw [Recorder.perform, running_beginRequest]
    split
    · exact ⟨_, rfl⟩
    · exact runs
  | record now made =>
    rw [Recorder.perform, record_eq]
    split
    · rename_i present
      have keys := Dict.keys_perm (noted_contains now present)
      refine capped.of_le rfl ?_ ?_
      · have lengths := keys.length_eq
        rw [Dict.length_keys, Dict.length_keys] at lengths
        exact Nat.le_of_eq lengths
      · exact Nat.le_of_eq (keys.countP_eq _)
    · exact capped_of_not_evicts (enforceCap_evictsAll _ _).2
  | finishRequest finished => exact capped_of_not_evicts (enforceCap_evictsAll _ _).2
  | purgeBefore cutoff =>
    have fewer := Dict.keys_filter_sublist recorder.logs fun id log =>
      decide (cutoff.millis ≤ log.lastAppend.millis) || recorder.isRunning id
    refine capped.of_le rfl ?_ fewer.countP_le
    have lengths := fewer.length_le
    rw [Dict.length_keys, Dict.length_keys] at lengths
    exact lengths
  | recordActivation | recordDecision =>
    exact capped.of_le rfl (Nat.le_refl _) (Nat.le_refl _)

theorem Removes.cases {recorder : Recorder} {call : Call} {id : String}
    (removes : recorder.Removes call id) :
    (∃ now made, call = .record now made ∧
        recorder.logs.contains made.correlationId = false) ∨
      (∃ finished, call = .finishRequest finished) ∨ ∃ cutoff, call = .purgeBefore cutoff := by
  obtain ⟨before, after⟩ := removes
  cases call with
  | record now made =>
    refine Or.inl ⟨now, made, rfl, Bool.eq_false_iff.mpr fun present => ?_⟩
    rw [perform, record_eq, if_pos present, noted_contains now present, before] at after
    cases after
  | finishRequest finished => exact Or.inr (Or.inl ⟨finished, rfl⟩)
  | purgeBefore cutoff => exact Or.inr (Or.inr ⟨cutoff, rfl⟩)
  | beginRequest | recordActivation | recordDecision =>
    have same : recorder.logs.contains id = false := after
    rw [before] at same
    cases same

/-- Whatever a recorder is called for and in whatever order, it keeps no more traces than it has
room for, or all but one of them are pinned by running requests; so it keeps to its cap when none is
running. Traces that are not purged go one by one, and only when a new trace is made or a request
ends: each time one that is neither kept nor running, and of these one appended to the longest ago,
until there are no longer too many or none may go; and that comes to an end. -/
theorem run_capped (mode : TraceMode) (retentionSecs : UInt64) (maxRequests : Nat)
    (calls : List Call) :
    let recorder := (new mode retentionSecs maxRequests).run calls
    (recorder.traceCount ≤ max maxRequests 1 ∨ recorder.idleCount ≤ 1) ∧
    ((∀ id, recorder.isRunning id = false) → recorder.traceCount ≤ max maxRequests 1) ∧
    (∀ now made, recorder.logs.contains made.correlationId = false →
      EvictsAll made.correlationId (recorder.noted now made)
        (recorder.perform (.record now made))) ∧
    (∀ id, EvictsAll id (recorder.release id) (recorder.perform (.finishRequest id))) ∧
    (∀ call id, recorder.Removes call id →
      (∃ now made, call = .record now made ∧
        recorder.logs.contains made.correlationId = false) ∨
      (∃ finished, call = .finishRequest finished) ∨ ∃ cutoff, call = .purgeBefore cutoff) ∧
    ∀ keep, WellFounded fun after before : Recorder => Evicts keep before after := by
  intro recorder
  have capped : recorder.Capped :=
    run_preserves (fun _ call capped => capped.perform call) (Or.inl (Nat.zero_le _)) calls
  have max : recorder.maxRequests = max maxRequests 1 :=
    @run_preserves (fun recorder => recorder.maxRequests = max maxRequests 1)
      (fun before call same => (before.perform_maxRequests call).trans same) _ rfl calls
  unfold Capped at capped
  rw [max] at capped
  refine ⟨capped, fun idle => ?_, fun now made fresh => ?_,
    fun id => enforceCap_evictsAll _ id, fun call id removes => removes.cases, wellFounded_evicts⟩
  · have all : recorder.idleCount = recorder.traceCount := by
      rw [idleCount, List.countP_eq_length.mpr fun id _ => by rw [idle]; rfl]
      exact Dict.length_keys _
    have room : 1 ≤ Nat.max maxRequests 1 := Nat.le_max_right _ _
    change _ ≤ Nat.max maxRequests 1
    change _ ≤ Nat.max maxRequests 1 ∨ _ at capped
    omega
  · rw [perform, record_eq, if_neg (by simp [fresh])]
    exact enforceCap_evictsAll _ _

end Switchyard.Recorder
