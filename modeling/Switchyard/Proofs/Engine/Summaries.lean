import Switchyard.Proofs.Engine.Observation
import Switchyard.Proofs.Trace.Summaries
set_option autoImplicit false

/-! Full summaries, and those that the traces of an engine hold. Main statement:
`Engine.full_summaries_cut`. -/
namespace Switchyard.Engine

/-- A full summary holds the same keys and the same values, only that texts directly under a key are
cut to the limit and marked; it cuts every text of the values exactly if none in a list or an object
is to be cut. In full mode both summaries of every record of every trace are such that no text of
theirs is longer than a cut one unless it stands in a list or an object, and that summarizing them
once more changes nothing. -/
theorem full_summaries_cut (values : Dict Json) :
    (∃ summary : Dict Json, Recorder.summarize .full values = Json.ofDict summary ∧
      Recorder.SumsUp values summary ∧ Recorder.Cut summary) ∧
    ∀ engine : Engine, engine.controller.executor.traceMode = .full →
      ∀ (events : List (Timestamp × Event)) (id : String),
      ∀ record ∈ (engine.run engine.initial events).recorder.traces id,
      ∃ inputs outputs : Dict Json,
        record.inputsSummary = Json.ofDict inputs ∧ Recorder.Cut inputs ∧
        record.outputsSummary = Json.ofDict outputs ∧ Recorder.Cut outputs := by
  constructor
  · exact ⟨_, rfl, Recorder.sumsUp values, Recorder.cut_cutValues values⟩
  · intro engine full events id record inside
    obtain ⟨inputs, outputs, isInputs, isOutputs⟩ := traces_full full events id record inside
    exact ⟨_, _, isInputs, Recorder.cut_cutValues inputs, isOutputs,
      Recorder.cut_cutValues outputs⟩

/-- A long text directly under a key, and the traces of the sample. -/
theorem sample_summaries_cut :
    let text := String.ofList (List.replicate 300 'a')
    let recorder := ((Sample.watchedEngine .everything).run
      (Sample.watchedEngine .everything).initial (Sample.moments.map Moment.byFirst)).recorder
    (∃ summary : Dict Json,
      Recorder.summarize .full (Dict.ofList [("finalResponse", .str text)]) = Json.ofDict summary ∧
      summary.get? "finalResponse" =
        some (.str (String.ofList (List.replicate 200 'a') ++ "..."))) ∧
    (recorder.traces "only").length = 2 ∧
      ∀ record ∈ recorder.traces "only", ∃ inputs : Dict Json,
        record.inputsSummary = Json.ofDict inputs ∧ Recorder.Cut inputs := by
  intro text recorder
  obtain ⟨⟨summary, isSummary, sums, -⟩, traced⟩ :=
    full_summaries_cut (Dict.ofList [("finalResponse", .str text)])
  have long : Recorder.maxSummaryChars < text.length := by
    rw [String.length_ofList, List.length_replicate]
    decide
  refine ⟨⟨summary, isSummary, ?_⟩, rfl, fun record inside => ?_⟩
  · have kept := sums.long "finalResponse" text rfl long
    rwa [String.toList_ofList, List.take_replicate] at kept
  · obtain ⟨inputs, -, isInputs, cut, -⟩ := traced (Sample.watchedEngine .everything) rfl
      (Sample.moments.map Moment.byFirst) "only" record inside
    exact ⟨inputs, isInputs, cut⟩

/-- A text within an object is not cut, however long it is. -/
theorem nested_text_is_not_cut :
    let text := String.ofList (List.replicate 300 'a')
    let values := Dict.ofList [("previousResult", Json.obj [("finalResponse", .str text)])]
    text.length = 300 ∧ text ∈ (Recorder.summarize .full values).textsWithin ∧
      Recorder.summarize .full values ≠ (Json.ofDict values).cutThroughout := by
  intro text values
  have length : text.length = 300 := by
    rw [String.length_ofList, List.length_replicate]
  refine ⟨length, List.mem_singleton_self text, fun same => ?_⟩
  have allCut := (Recorder.sumsUp values).throughout.mp same "previousResult" _ rfl text
    (List.mem_singleton_self text)
  have shorter := Recorder.length_cutText_le text
  rw [allCut, length] at shorter
  exact absurd shorter (by decide)

end Switchyard.Engine
