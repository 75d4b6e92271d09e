import Switchyard.Trace.Recorder
set_option autoImplicit false

/-! What a full summary keeps of values. Texts that stand directly under a key are cut; texts within
a list or an object are not. Main statements: `Recorder.sumsUp` and `Recorder.cut_cutValues`. -/
namespace Switchyard

namespace Recorder

def cutText (text : String) : String :=
  if maxSummaryChars < text.length then
    String.ofList (text.toList.take maxSummaryChars) ++ "..."
  else text

section Text

variable {text : String}

theorem cutText_of_short (short : text.length ≤ maxSummaryChars) : cutText text = text :=
  if_neg (Nat.not_lt.mpr short)

theorem cutText_of_long (long : maxSummaryChars < text.length) :
    cutText text = String.ofList (text.toList.take maxSummaryChars) ++ "..." :=
  if_pos long

theorem length_cutText_of_long (long : maxSummaryChars < text.length) :
    (cutText text).length = maxSummaryChars + 3 := by
  have marked : "...".length = 3 := by decide
  have enough : maxSummaryChars ≤ text.toList.length := by
    rw [String.length_toList]
    omega
  rw [cutText_of_long long, String.length_append, String.length_ofList, marked,
    List.length_take_of_le enough]

theorem length_cutText_le (text : String) : (cutText text).length ≤ maxSummaryChars + 3 := by
  by_cases long : maxSummaryChars < text.length
  · exact Nat.le_of_eq (length_cutText_of_long long)
  · rw [cutText_of_short (Nat.not_lt.mp long)]
    omega

theorem lt_length_cutText_iff :
    maxSummaryChars < (cutText text).length ↔ maxSummaryChars < text.length := by
  by_cases long : maxSummaryChars < text.length
  · rw [length_cutText_of_long long]
    exact iff_of_true (by omega) long
  · rw [cutText_of_short (Nat.not_lt.mp long)]

theorem cutText_cutText (text : String) : cutText (cutText text) = cutText text := by
  by_cases long : maxSummaryChars < text.length
  · have stillLong : maxSummaryChars < (cutText text).length := lt_length_cutText_iff.mpr long
    have enough : (text.toList.take maxSummaryChars).length = maxSummaryChars := by
      rw [List.length_take_of_le]
      rw [String.length_toList]
      omega
    have same : (cutText text).toList.take maxSummaryChars = text.toList.take maxSummaryChars := by
      rw [cutText_of_long long, String.toList_append, String.toList_ofList,
        List.take_left' enough]
    rw [cutText_of_long stillLong, same, cutText_of_long long]
  · rw [cutText_of_short (Nat.not_lt.mp long), cutText_of_short (Nat.not_lt.mp long)]

end Text

theorem cut_str (text : String) : cut (.str text) = .str (cutText text) := by
  rw [cut, cutText]
  split <;> rfl

theorem cut_cut (value : Json) : cut (cut value) = cut value := by
  cases value with
  | str text => rw [cut_str, cut_str, cutText_cutText]
  | _ => rfl

def cutValues (values : Dict Json) : Dict Json := values.map fun _ value => cut value

theorem summarize_full (values : Dict Json) :
    summarize .full values = Json.ofDict (cutValues values) := rfl

theorem get?_cutValues (values : Dict Json) (key : String) :
    (cutValues values).get? key = (values.get? key).map cut :=
  Dict.get?_map values _ key

end Recorder

/-! Texts at any depth. -/

namespace Json

/-- The value with all its texts cut, wherever they stand. -/
def cutThroughout : Json → Json
  | .str text => .str (Recorder.cutText text)
  | .arr items => .arr (cutItems items)
  | .obj fields => .obj (cutFields fields)
  | value => value
where
  cutItems : List Json → List Json
    | [] => []
    | item :: rest => cutThroughout item :: cutItems rest
  cutFields : List (String × Json) → List (String × Json)
    | [] => []
    | (key, value) :: rest => (key, cutThroughout value) :: cutFields rest

/-- The texts of a value at any depth; keys are not among them. -/
def textsWithin : Json → List String
  | .str text => [text]
  | .arr items => ofItems items
  | .obj fields => ofFields fields
  | _ => []
where
  ofItems : List Json → List String
    | [] => []
    | item :: rest => textsWithin item ++ ofItems rest
  ofFields : List (String × Json) → List String
    | [] => []
    | (_, value) :: rest => textsWithin value ++ ofFields rest

/-- The texts of a value that stand in a list or an object of it. -/
def nestedTexts : Json → List String
  | .str _ => []
  | value => value.textsWithin

mutual

/-- Cutting throughout leaves a value as it is exactly if it leaves every text of it as it is. -/
theorem cutThroughout_eq_self_iff (value : Json) :
    value.cutThroughout = value ↔ ∀ text ∈ value.textsWithin, Recorder.cutText text = text := by
  cases value with
  | str text => simp [cutThroughout, textsWithin]
  | arr items => rw [cutThroughout, arr.injEq, cutItems_eq_self_iff items, textsWithin]
  | obj fields => rw [cutThroughout, obj.injEq, cutFields_eq_self_iff fields, textsWithin]
  | null | bool | int | float => simp [cutThroughout, textsWithin]

theorem cutItems_eq_self_iff (items : List Json) :
    cutThroughout.cutItems items = items ↔
      ∀ text ∈ textsWithin.ofItems items, Recorder.cutText text = text := by
  cases items with
  | nil => simp [cutThroughout.cutItems, textsWithin.ofItems]
  | cons item rest =>
    rw [cutThroughout.cutItems, List.cons.injEq, cutThroughout_eq_self_iff item,
      cutItems_eq_self_iff rest, textsWithin.ofItems, List.forall_mem_append]

theorem cutFields_eq_self_iff (fields : List (String × Json)) :
    cutThroughout.cutFields fields = fields ↔
      ∀ text ∈ textsWithin.ofFields fields, Recorder.cutText text = text := by
  cases fields with
  | nil => simp [cutThroughout.cutFields, textsWithin.ofFields]
  | cons field rest =>
    obtain ⟨key, value⟩ := field
    rw [cutThroughout.cutFields, List.cons.injEq, Prod.mk.injEq, cutThroughout_eq_self_iff value,
      cutFields_eq_self_iff rest, textsWithin.ofFields, List.forall_mem_append]
    exact and_congr_left fun _ => and_iff_right rfl

end

theorem cutFields_eq_map (fields : List (String × Json)) :
    cutThroughout.cutFields fields = fields.map fun field => (field.1, field.2.cutThroughout) := by
  induction fields with
  | nil => rfl
  | cons field rest ih => rw [cutThroughout.cutFields, ih, List.map_cons]

theorem mem_textsWithin_ofDict {dict : Dict Json} {text : String} :
    text ∈ (ofDict dict).textsWithin ↔
      ∃ key value, dict.get? key = some value ∧ text ∈ value.textsWithin := by
  have collects : ∀ fields : List (String × Json),
      text ∈ textsWithin.ofFields fields ↔ ∃ field ∈ fields, text ∈ field.2.textsWithin := by
    intro fields
    induction fields with
    | nil => simp [textsWithin.ofFields]
    | cons field rest ih =>
      simp only [textsWithin.ofFields, List.mem_append, ih, List.mem_cons, exists_eq_or_imp]
  rw [ofDict, textsWithin, collects, Prod.exists]
  simp only [dict.get?_eq_some_iff]

end Json

namespace Recorder

/-- Cutting a value where it stands cuts it throughout exactly if no text in a list or an object of it
would be cut. -/
theorem cut_eq_cutThroughout_iff (value : Json) :
    cut value = value.cutThroughout ↔ ∀ text ∈ value.nestedTexts, cutText text = text := by
  cases value with
  | str text =>
    rw [cut_str]
    exact iff_of_true rfl (List.forall_mem_nil _)
  | _ => exact eq_comm.trans (Json.cutThroughout_eq_self_iff _)

/-- What a full summary keeps of values: under the same keys the same values, only that texts under a
key are cut if they are too long. That cuts all texts exactly if there is none to be cut in a list or
an object. -/
structure SumsUp (values summary : Dict Json) : Prop where
  keys : summary.keys = values.keys
  long : ∀ key text, values.get? key = some (.str text) → maxSummaryChars < text.length →
    summary.get? key = some (.str (String.ofList (text.toList.take maxSummaryChars) ++ "..."))
  kept : ∀ key value, values.get? key = some value →
    (∀ text, value = .str text → text.length ≤ maxSummaryChars) → summary.get? key = some value
  throughout : Json.ofDict summary = (Json.ofDict values).cutThroughout ↔
    ∀ key value, values.get? key = some value → ∀ text ∈ value.nestedTexts, cutText text = text

theorem sumsUp (values : Dict Json) : SumsUp values (cutValues values) := by
  refine ⟨?_, fun key text held long => ?_, fun key value held short => ?_, ?_⟩
  · change (values.entries.map fun entry => (entry.1, cut entry.2)).map (·.1) = _
    rw [List.map_map]
    rfl
  · rw [get?_cutValues, held, Option.map_some, cut_str, cutText_of_long long]
  · rw [get?_cutValues, held, Option.map_some]
    cases value with
    | str text => rw [cut_str, cutText_of_short (short text rfl)]
    | _ => rfl
  · change Json.obj (values.entries.map fun entry => (entry.1, cut entry.2)) = .obj _ ↔ _
    rw [Json.obj.injEq, Json.cutFields_eq_map, List.map_inj_left]
    simp only [Prod.mk.injEq, true_and, cut_eq_cutThroughout_iff, Prod.forall,
      ← values.get?_eq_some_iff]

/-- Summarizing once more changes nothing, and no text is longer than a cut one unless it stands in a
list or an object. -/
structure Cut (summary : Dict Json) : Prop where
  again : summarize .full summary = Json.ofDict summary
  short : ∀ text ∈ (Json.ofDict summary).textsWithin, text.length ≤ maxSummaryChars + 3 ∨
    ∃ key value, summary.get? key = some value ∧ text ∈ value.nestedTexts

theorem cut_cutValues (values : Dict Json) : Cut (cutValues values) := by
  refine ⟨?_, fun text inside => ?_⟩
  · rw [summarize_full]
    congr 1
    refine Dict.ext_get? fun key => ?_
    rw [get?_cutValues, get?_cutValues, Option.map_map]
    congr 1
    funext value
    exact cut_cut value
  · obtain ⟨key, value, held, within⟩ := Json.mem_textsWithin_ofDict.mp inside
    cases value with
    | str kept =>
      rw [get?_cutValues] at held
      obtain ⟨original, -, isCut⟩ := Option.map_eq_some_iff.mp held
      have same : text = kept := List.mem_singleton.mp within
      left
      cases original with
      | str before =>
        rw [cut_str] at isCut
        rw [same, ← Json.str.inj isCut]
        exact length_cutText_le before
      | _ => cases isCut
    | _ => exact Or.inr ⟨key, _, held, within⟩

end Recorder

end Switchyard
