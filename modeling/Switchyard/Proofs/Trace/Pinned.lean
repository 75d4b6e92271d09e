import Switchyard.Execution.Effect
set_option autoImplicit false

/-! What the recorder holds under one correlation id. Operations made for other ids leave it alone
as long as a request of the id is running; records made for the id itself are appended to it. -/
namespace Switchyard

namespace Effect

def record? : Effect → Option TraceRecord
  | .recorded record => some record
  | _ => none

theorem mem_filterMap_record? {effects : List Effect} {record : TraceRecord} :
    record ∈ effects.filterMap record? ↔ .recorded record ∈ effects := by
  constructor
  · intro made
    obtain ⟨effect, done, isRecord⟩ := List.mem_filterMap.mp made
    cases effect with
    | recorded other =>
      rw [← Option.some.inj isRecord]
      exact done
    | _ => cases isRecord
  · intro done
    exact List.mem_filterMap.mpr ⟨_, done, rfl⟩

def decision? : Effect → Option (String × CapabilityDecision)
  | .decided id decision => some (id, decision)
  | _ => none

/-- Whatever the effect leaves in the recorder, it leaves under this correlation id. -/
def IsOf (id : String) : Effect → Prop
  | .recorded record => record.correlationId = id
  | .decided owner _ => owner = id
  | .activated _ activation => activation.correlationId = id
  | .warned _ | .asked _ | .calledLegacy _ => True

def Quiet : Effect → Prop
  | .recorded _ | .decided _ _ | .activated _ _ => False
  | .warned _ | .asked _ | .calledLegacy _ => True

theorem Quiet.isOf {effect : Effect} (quiet : effect.Quiet) (id : String) : effect.IsOf id := by
  cases effect <;> trivial

theorem quiet_of_mem_warnings {list : List Warning} {effect : Effect}
    (inside : effect ∈ warnings list) : effect.Quiet := by
  obtain ⟨warning, -, rfl⟩ := List.mem_map.mp inside
  trivial

theorem filterMap_of_quiet {α : Type} {read : Effect → Option α}
    (unread : ∀ effect, Quiet effect → read effect = none) {effects : List Effect}
    (quiet : ∀ effect ∈ effects, effect.Quiet) : effects.filterMap read = [] := by
  rw [List.filterMap_eq_nil_iff]
  intro effect inside
  exact unread effect (quiet effect inside)

theorem filterMap_record?_of_quiet {effects : List Effect}
    (quiet : ∀ effect ∈ effects, effect.Quiet) : effects.filterMap record? = [] :=
  filterMap_of_quiet (fun effect still => by cases effect <;> cases still <;> rfl) quiet

theorem filterMap_decision?_of_quiet {effects : List Effect}
    (quiet : ∀ effect ∈ effects, effect.Quiet) : effects.filterMap decision? = [] :=
  filterMap_of_quiet (fun effect still => by cases effect <;> cases still <;> rfl) quiet

end Effect

namespace Recorder

def appended (trace : List TraceRecord) (record : TraceRecord) : List TraceRecord :=
  trace ++ [afterLast trace record]

def latestDecision (before : Option CapabilityDecision) (effects : List Effect) :
    Option CapabilityDecision :=
  ((effects.filterMap Effect.decision?).getLast?.map (·.2)).or before

theorem afterLast_eq (trace : List TraceRecord) (record : TraceRecord) :
    ∃ time, afterLast trace record = { record with timestamp := time } := by
  unfold afterLast
  split
  · split
    · exact ⟨_, rfl⟩
    · exact ⟨record.timestamp, rfl⟩
  · exact ⟨record.timestamp, rfl⟩

/-! Only running requests are pinned, and no effect changes which requests are running. -/

theorem mem_of_foldl_older {best : Option (String × TraceLog)} {entry : String × TraceLog}
    {list : List (String × TraceLog)} (found : list.foldl older best = some entry) :
    best = some entry ∨ entry ∈ list := by
  induction list generalizing best with
  | nil => exact Or.inl found
  | cons head rest ih =>
    rw [List.foldl_cons] at found
    rcases ih found with kept | later
    · have either : best = some entry ∨ head = entry := by
        unfold older at kept
        split at kept
        · exact Or.inr (Option.some.inj kept)
        · split at kept
          · exact Or.inr (Option.some.inj kept)
          · exact Or.inl kept
      rcases either with same | rfl
      · exact Or.inl same
      · exact Or.inr List.mem_cons_self
    · exact Or.inr (List.mem_cons_of_mem head later)

theorem oldest?_spec {recorder : Recorder} {keep : String} {entry : String × TraceLog}
    (found : recorder.oldest? keep = some entry) :
    entry ∈ recorder.logs.entries ∧ entry.1 ≠ keep ∧ recorder.isRunning entry.1 = false := by
  rcases mem_of_foldl_older found with impossible | inside
  · cases impossible
  · obtain ⟨entryInside, removable⟩ := List.mem_filter.mp inside
    simp only [isRemovable, Bool.and_eq_true, bne_iff_ne, ne_eq, Bool.not_eq_true'] at removable
    exact ⟨entryInside, removable.1, removable.2⟩

/-- What no removal of a trace changes, eviction does not change. -/
theorem enforceCap_keeps {α : Type} (field : Recorder → α)
    (kept : ∀ recorder id, field (recorder.removeTrace id) = field recorder)
    (recorder : Recorder) (keep : String) : field (recorder.enforceCap keep) = field recorder := by
  unfold enforceCap
  generalize recorder.traceCount - recorder.maxRequests = excess
  induction excess generalizing recorder with
  | zero => rfl
  | succ excess ih =>
    rw [evict]
    split
    · exact (ih _).trans (kept _ _)
    · rfl

@[simp] theorem enforceCap_running (recorder : Recorder) (keep : String) :
    (recorder.enforceCap keep).running = recorder.running :=
  enforceCap_keeps running (fun _ _ => rfl) recorder keep

/-- The recorder with one more record, before the cap is enforced. -/
def noted (recorder : Recorder) (now : Timestamp) (record : TraceRecord) : Recorder :=
  { recorder with
    logs := recorder.logs.insert record.correlationId
      ⟨now, appended (recorder.traces record.correlationId) record⟩ }

theorem record_eq (recorder : Recorder) (now : Timestamp) (record : TraceRecord) :
    recorder.record now record =
      if recorder.logs.contains record.correlationId then recorder.noted now record
      else (recorder.noted now record).enforceCap record.correlationId := by
  unfold Recorder.record noted
  dsimp only
  split
  · rename_i log found
    simp [Dict.contains, traces, found, appended]
  · rename_i absent
    simp [Dict.contains, traces, absent, appended, afterLast]

@[simp] theorem record_running (recorder : Recorder) (now : Timestamp) (record : TraceRecord) :
    (recorder.record now record).running = recorder.running := by
  rw [record_eq]
  split
  · rfl
  · exact enforceCap_running _ _

@[simp] theorem apply_running (now : Timestamp) (recorder : Recorder) (effect : Effect) :
    (recorder.apply now effect).running = recorder.running := by
  cases effect with
  | recorded record => exact record_running recorder now record
  | _ => rfl

@[simp] theorem applyAll_running (now : Timestamp) (recorder : Recorder) (effects : List Effect) :
    (recorder.applyAll now effects).running = recorder.running := by
  unfold applyAll
  induction effects generalizing recorder with
  | nil => rfl
  | cons effect rest ih => rw [List.foldl_cons, ih, apply_running]

@[simp] theorem purgeBefore_running (recorder : Recorder) (cutoff : Timestamp) :
    (recorder.purgeBefore cutoff).1.running = recorder.running := rfl

/-- What the recorder holds under an id: its trace and its decision. -/
def held (recorder : Recorder) (id : String) : Option TraceLog × Option CapabilityDecision :=
  (recorder.logs.get? id, recorder.decisions.get? id)

theorem traces_of_held {left right : Recorder} {id : String} (same : left.held id = right.held id) :
    left.traces id = right.traces id := by
  have logs : left.logs.get? id = right.logs.get? id := congrArg Prod.fst same
  rw [traces, traces, logs]

theorem decision?_of_held {left right : Recorder} {id : String}
    (same : left.held id = right.held id) : left.decision? id = right.decision? id :=
  congrArg Prod.snd same

theorem removeTrace_held (recorder : Recorder) {removed id : String} (different : removed ≠ id) :
    (recorder.removeTrace removed).held id = recorder.held id := by
  simp [held, removeTrace, Dict.get?_erase, different]

theorem removeTrace_held_self (recorder : Recorder) (id : String) :
    (recorder.removeTrace id).held id = (none, none) := by
  simp [held, removeTrace, Dict.get?_erase]

theorem isRunning_of_running {left right : Recorder} (same : left.running = right.running)
    (id : String) : left.isRunning id = right.isRunning id := by
  rw [isRunning, isRunning, same]

/-- Nothing is taken from under the id: a request of it is running, or there is nothing. -/
def Spared (recorder : Recorder) (id : String) : Prop :=
  recorder.isRunning id = true ∨ recorder.held id = (none, none)

theorem Spared.of_same {left right : Recorder} {id : String} (spared : left.Spared id)
    (running : right.running = left.running) (held : right.held id = left.held id) :
    right.Spared id := by
  rcases spared with still | nothing
  · exact Or.inl ((isRunning_of_running running id).trans still)
  · exact Or.inr (held.trans nothing)

/-- Eviction leaves what is held under an id or takes all of it away, and then the id is neither kept
nor running. -/
theorem enforceCap_held_cases (recorder : Recorder) (keep id : String) :
    (recorder.enforceCap keep).held id = recorder.held id ∨
      ((recorder.enforceCap keep).held id = (none, none) ∧ id ≠ keep ∧
        recorder.isRunning id = false) := by
  unfold enforceCap
  generalize recorder.traceCount - recorder.maxRequests = excess
  induction excess generalizing recorder with
  | zero => exact Or.inl rfl
  | succ excess ih =>
    rw [evict]
    split
    · rename_i removed log found
      obtain ⟨-, notKept, idle⟩ := oldest?_spec found
      rcases ih (recorder.removeTrace removed) with same | gone
      · rw [same]
        by_cases own : removed = id
        · subst own
          exact Or.inr ⟨removeTrace_held_self recorder removed, notKept, idle⟩
        · exact Or.inl (removeTrace_held recorder own)
      · exact Or.inr gone
    · exact Or.inl rfl

theorem enforceCap_held (recorder : Recorder) {keep id : String}
    (spared : id = keep ∨ recorder.Spared id) :
    (recorder.enforceCap keep).held id = recorder.held id := by
  rcases enforceCap_held_cases recorder keep id with same | ⟨gone, notKept, idle⟩
  · exact same
  · rcases spared with kept | running | nothing
    · exact absurd kept notKept
    · rw [idle] at running
      cases running
    · exact gone.trans nothing.symm

theorem noted_held_of_ne (recorder : Recorder) (now : Timestamp) (record : TraceRecord)
    {id : String} (other : record.correlationId ≠ id) :
    (recorder.noted now record).held id = recorder.held id := by
  simp [held, noted, Dict.get?_insert, other]

theorem record_held_self (recorder : Recorder) (now : Timestamp) (record : TraceRecord) :
    (recorder.record now record).held record.correlationId =
      (recorder.noted now record).held record.correlationId := by
  rw [record_eq]
  split
  · rfl
  · exact enforceCap_held _ (Or.inl rfl)

theorem record_held_of_ne (recorder : Recorder) (now : Timestamp) (record : TraceRecord)
    {id : String} (other : record.correlationId ≠ id) (spared : recorder.Spared id) :
    (recorder.record now record).held id = recorder.held id := by
  have same := noted_held_of_ne recorder now record other
  have still : (recorder.noted now record).Spared id := spared.of_same rfl same
  rw [record_eq]
  split
  · exact same
  · exact (enforceCap_held _ (Or.inr still)).trans same

theorem traces_record (recorder : Recorder) (now : Timestamp) (record : TraceRecord) :
    (recorder.record now record).traces record.correlationId =
      appended (recorder.traces record.correlationId) record := by
  rw [traces_of_held (record_held_self recorder now record)]
  simp [noted, traces]

theorem decision?_record (recorder : Recorder) (now : Timestamp) (record : TraceRecord) :
    (recorder.record now record).decision? record.correlationId =
      recorder.decision? record.correlationId := by
  rw [decision?_of_held (record_held_self recorder now record)]
  rfl

/-! A list of effects, seen from the id they are of and from the id of another running request. -/

theorem traces_apply (now : Timestamp) (recorder : Recorder) {effect : Effect} {id : String}
    (own : effect.IsOf id) :
    (recorder.apply now effect).traces id =
      effect.record?.toList.foldl appended (recorder.traces id) := by
  cases effect with
  | recorded record =>
    obtain rfl : record.correlationId = id := own
    exact traces_record recorder now record
  | _ => rfl

theorem decision?_apply (now : Timestamp) (recorder : Recorder) {effect : Effect} {id : String}
    (own : effect.IsOf id) :
    (recorder.apply now effect).decision? id =
      (effect.decision?.map (·.2)).or (recorder.decision? id) := by
  cases effect with
  | recorded record =>
    obtain rfl : record.correlationId = id := own
    exact decision?_record recorder now record
  | decided owner decision =>
    obtain rfl : owner = id := own
    exact Dict.get?_insert_self _ _ _
  | _ => rfl

theorem held_apply_of_ne (now : Timestamp) (recorder : Recorder) {effect : Effect}
    {owner id : String} (theirs : effect.IsOf owner) (other : owner ≠ id)
    (spared : recorder.Spared id) : (recorder.apply now effect).held id = recorder.held id := by
  cases effect with
  | recorded record =>
    obtain rfl : record.correlationId = owner := theirs
    exact record_held_of_ne recorder now record other spared
  | decided _ decision =>
    obtain rfl : _ = owner := theirs
    simp [apply, recordDecision, held, Dict.get?_insert, other]
  | _ => rfl

theorem traces_applyAll (now : Timestamp) (recorder : Recorder) {effects : List Effect}
    {id : String} (own : ∀ effect ∈ effects, effect.IsOf id) :
    (recorder.applyAll now effects).traces id =
      (effects.filterMap Effect.record?).foldl appended (recorder.traces id) := by
  unfold applyAll
  induction effects generalizing recorder with
  | nil => rfl
  | cons effect rest ih =>
    obtain ⟨first, others⟩ := List.forall_mem_cons.mp own
    rw [List.foldl_cons, ih _ others, traces_apply now recorder first, List.filterMap_cons]
    cases effect.record? <;> rfl

theorem decision?_applyAll (now : Timestamp) (recorder : Recorder) {effects : List Effect}
    {id : String} (own : ∀ effect ∈ effects, effect.IsOf id) :
    (recorder.applyAll now effects).decision? id =
      latestDecision (recorder.decision? id) effects := by
  unfold applyAll
  induction effects generalizing recorder with
  | nil => rfl
  | cons effect rest ih =>
    obtain ⟨first, others⟩ := List.forall_mem_cons.mp own
    rw [List.foldl_cons, ih _ others, decision?_apply now recorder first]
    unfold latestDecision
    rw [List.filterMap_cons]
    cases effect.decision? with
    | none => rfl
    | some found =>
      cases later : rest.filterMap Effect.decision? with
      | nil => rfl
      | cons next more =>
        dsimp only
        rw [List.getLast?_cons_cons]
        rfl

theorem held_applyAll_of_ne (now : Timestamp) (recorder : Recorder) {effects : List Effect}
    {owner id : String} (theirs : ∀ effect ∈ effects, effect.IsOf owner) (other : owner ≠ id)
    (spared : recorder.Spared id) :
    (recorder.applyAll now effects).held id = recorder.held id := by
  unfold applyAll
  induction effects generalizing recorder with
  | nil => rfl
  | cons effect rest ih =>
    obtain ⟨first, others⟩ := List.forall_mem_cons.mp theirs
    have same := held_apply_of_ne now recorder first other spared
    have still := spared.of_same (apply_running now recorder effect) same
    rw [List.foldl_cons, ih _ others still, same]

theorem applyAll_of_quiet (now : Timestamp) (recorder : Recorder) {effects : List Effect}
    (quiet : ∀ effect ∈ effects, effect.Quiet) : recorder.applyAll now effects = recorder := by
  unfold applyAll
  induction effects with
  | nil => rfl
  | cons effect rest ih =>
    obtain ⟨first, others⟩ := List.forall_mem_cons.mp quiet
    have same : recorder.apply now effect = recorder := by
      cases effect with
      | recorded | decided | activated => exact first.elim
      | warned | asked | calledLegacy => rfl
    rw [List.foldl_cons, same]
    exact ih others

/-! A request that ends releases its hold and keeps its own trace. -/

theorem running_beginRequest (recorder : Recorder) (id other : String) :
    (recorder.beginRequest id).running.get? other =
      if id = other then some (recorder.runningCount id + 1) else recorder.running.get? other :=
  Dict.get?_insert recorder.running id other _

theorem running_finishRequest (recorder : Recorder) (id other : String) :
    (recorder.finishRequest id).running.get? other =
      if id = other then
        if recorder.runningCount id - 1 = 0 then none else some (recorder.runningCount id - 1)
      else recorder.running.get? other := by
  rw [finishRequest, enforceCap_running, release]
  dsimp only
  split
  · rw [Dict.get?_erase]
  · rw [Dict.get?_insert]

theorem isRunning_iff (recorder : Recorder) (id : String) :
    recorder.isRunning id = true ↔ ∃ count, recorder.running.get? id = some count :=
  Dict.contains_iff recorder.running id

theorem finishRequest_held_self (recorder : Recorder) (id : String) :
    (recorder.finishRequest id).held id = recorder.held id :=
  enforceCap_held _ (Or.inl rfl)

theorem isRunning_release_of_ne (recorder : Recorder) {ended id : String} (other : ended ≠ id) :
    (recorder.release ended).isRunning id = recorder.isRunning id := by
  rw [isRunning, isRunning, Dict.contains, Dict.contains, release]
  dsimp only
  split <;> simp [Dict.get?_erase, Dict.get?_insert, other]

theorem finishRequest_held_of_ne (recorder : Recorder) {ended id : String} (other : ended ≠ id)
    (spared : recorder.Spared id) :
    (recorder.finishRequest ended).held id = recorder.held id := by
  have still : (recorder.release ended).Spared id :=
    spared.imp_left (isRunning_release_of_ne recorder other).trans
  exact enforceCap_held _ (Or.inr still)

end Recorder

end Switchyard
