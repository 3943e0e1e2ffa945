import LocaleStaging.Proofs.Agent.Handled
import LocaleStaging.Proofs.Staging.Table

namespace LocaleStaging

/-! ## Preferences that can be staged -/

def Preferences.Filled (preferences : Preferences) : Prop :=
  ∀ package ∈ preferences.entries, Document.isFilled package

theorem Preferences.Filled.erase {preferences : Preferences} (filled : preferences.Filled)
    (package : String) : Preferences.Filled (SortedMap.erase preferences package) :=
  fun entry member => filled entry (List.mem_filter.1 member).1

theorem Preferences.Filled.of_get? {preferences restored : Preferences} (filled : restored.Filled)
    (within : ∀ package tags, preferences.get? package = some tags →
      restored.get? package = some tags) : preferences.Filled :=
  fun entry member => filled entry
    (SortedMap.get?_eq_some_iff.1 (within entry.1 entry.2 (SortedMap.get?_eq_some_iff.2 member)))

theorem filled_preferencesIn (payload : Bytes) : (preferencesIn payload).Filled := by
  unfold preferencesIn
  cases decoded : Document.decode payload with
  | ok document => exact Document.filled_of_decode decoded
  | error fault => exact fun _ member => absurd member List.not_mem_nil

namespace Course

open StagedTable (InStep)

variable {table : StagedTable} {request : Request} {heard : List Heard} {deed : Deed}
  {answer : Except Panic Reply}

theorem filled {files : FileTree} {location : Location} (inStep : InStep table files location)
    (course : Course table request heard deed answer) : deed.Filled := by
  cases course with
  | restored ingests =>
      exact (filled_preferencesIn _).of_get? fun package tags waits => (of_waits ingests waits).1
  | drained found waits applies =>
      have filled : Preferences.Filled _ := (inStep.lasting _ _ found).filled
      exact filled.erase _
  | _ => trivial

end Course

namespace Agent

open StagedTable (InStep)

structure Kept {η : Type} (directory : Path) (retention : Span) (location : Location)
    (standing : Standing η FileTree) : Prop where
  store : standing.table.store = ⟨directory⟩
  retention : standing.table.retention = retention
  inStep : InStep standing.table standing.files location

section Requests
variable {η : Type} {directory : Path} {retention : Span} {location : Location}
  {before after : Standing η FileTree}

theorem Kept.with_host (kept : Kept directory retention location before) (host : η) :
    Kept directory retention location { before with host } :=
  ⟨kept.store, kept.retention, kept.inStep⟩

theorem Went.stored [Host η] {request : Request} {heard : List Heard} {deed : Deed}
    {answer : Except Panic Reply} (went : Went request before heard deed answer after)
    (sound : before.table.store.Sound before.files location) :
    after.table = deed.left before.table ∧
      after.files = deed.leftFiles before.table before.files location :=
  Work.yields_unique went.staged (deed.yields sound)

theorem Went.kept [Host η] {request : Request} {heard : List Heard} {deed : Deed}
    {answer : Except Panic Reply} (went : Went request before heard deed answer after)
    (kept : Kept directory retention location before) : Kept directory retention location after := by
  obtain ⟨table, files⟩ := went.stored kept.inStep.sound
  have filled : deed.Filled := went.course.filled kept.inStep
  refine ⟨?_, ?_, ?_⟩
  · rw [table, deed.store_left]
    exact kept.store
  · rw [table, deed.retention_left]
    exact kept.retention
  · rw [table, files]
    exact Deed.inStep_left filled kept.inStep

end Requests

def unused {η : Type} (host : η) : Agent η FileTree where
  host := host
  table := ⟨⟨Path.ofString "stage"⟩, ⟨259200, 0⟩, ∅⟩
  workspace := ⟨StageStore.emptyStage, []⟩

end Agent
end LocaleStaging
