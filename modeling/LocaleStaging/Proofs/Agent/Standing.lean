import LocaleStaging.Agent
import LocaleStaging.Proofs.Storage.Workspace

namespace LocaleStaging

structure Standing (η φ : Type) where
  host : η
  table : StagedTable
  files : φ

namespace Agent

variable {η φ α : Type}

def standing (agent : Agent η φ) : Standing η φ := ⟨agent.host, agent.table, agent.workspace.files⟩

def Gives (operation : Operation η φ α) (before : Standing η φ) (answer : Except Panic α)
    (after : Standing η φ) : Prop :=
  Yields standing operation.run before answer after

theorem Gives.note (notice : Notice) (before : Standing η φ) :
    Gives (Agent.note notice) before (.ok ()) before := by
  rintro agent rfl
  exact ⟨rfl, rfl⟩

end Agent
end LocaleStaging
