import LocaleStaging.Storage.Workspace

/-!
# Work whose answer does not depend on what was put out

Work on files also puts out notices, and what it does must not depend on those before. `Yields` says
what work gives as seen through a part of the state, whatever the rest of the state is, and `Work.Emits`
also tells what it puts out. Both are shown one step at a time (`Yields.bind`, `Work.Emits.bind`).
-/

namespace LocaleStaging

variable {σ τ α β : Type}

def Yields (view : σ → τ) (work : StateM σ α) (before : τ) (answer : α) (after : τ) : Prop :=
  ∀ state, view state = before → (work state).1 = answer ∧ view (work state).2 = after

namespace Yields

variable {view : σ → τ}

theorem pure (value : α) (before : τ) :
    Yields view (Pure.pure value) before value before :=
  fun _ shown => ⟨rfl, shown⟩

theorem bind {work : StateM σ α} {next : α → StateM σ β} {before middle after : τ} {value : α}
    {answer : β} (first : Yields view work before value middle)
    (later : Yields view (next value) middle answer after) :
    Yields view (work >>= next) before answer after := by
  intro state shown
  obtain ⟨given, left⟩ := first state shown
  have done := later (work state).2 left
  rw [← given] at done
  exact done

end Yields

/-! ## Work on files -/

namespace Work

variable {φ : Type}

theorem yields_note (notice : Notice) (files : φ) :
    Yields Workspace.files (note notice) files () files :=
  fun _ shown => ⟨rfl, shown⟩

theorem yields_look (question : φ → α) (files : φ) :
    Yields Workspace.files (look question) files (question files) files := by
  intro workspace shown
  rw [← shown]
  exact ⟨rfl, rfl⟩

theorem yields_change {work : φ → α × φ} {files after : φ} {answer : α}
    (done : work files = (answer, after)) :
    Yields Workspace.files (change work) files answer after := by
  intro workspace shown
  simp only [change, shown, done, and_self]

def Emits (work : Work φ α) (before : φ) (answer : α) (after : φ) (put : List Emission) : Prop :=
  ∀ output, work ⟨before, output⟩ = (answer, ⟨after, output ++ put⟩)

namespace Emits

theorem pure (value : α) (files : φ) : Emits (Pure.pure value) files value files [] :=
  fun output => by rw [List.append_nil]; rfl

theorem bind {work : Work φ α} {next : α → Work φ β} {before middle after : φ} {value : α} {answer : β}
    {first later : List Emission} (start : Emits work before value middle first)
    (rest : Emits (next value) middle answer after later) :
    Emits (work >>= next) before answer after (first ++ later) := by
  intro output
  have run : (work >>= next) ⟨before, output⟩ =
      next (work ⟨before, output⟩).1 (work ⟨before, output⟩).2 := rfl
  rw [run, start, rest, List.append_assoc]

theorem note (notice : Notice) (files : φ) :
    Emits (Work.note notice) files () files [.notice notice] :=
  fun _ => rfl

theorem change {work : φ → α × φ} {files after : φ} {answer : α} (done : work files = (answer, after)) :
    Emits (Work.change work) files answer after [] := by
  intro output
  rw [List.append_nil]
  simp only [Work.change, done]

theorem yields {work : Work φ α} {before after : φ} {answer : α} {put : List Emission}
    (emits : Emits work before answer after put) : Yields Workspace.files work before answer after := by
  rintro ⟨files, output⟩ rfl
  rw [emits]
  exact ⟨rfl, rfl⟩

theorem unique {work : Work φ α} {before after another : φ} {answer other : α} {put others : List Emission}
    (first : Emits work before answer after put) (second : Emits work before other another others) :
    answer = other ∧ after = another ∧ put = others := by
  obtain ⟨answers, left⟩ := Prod.mk.inj ((first []).symm.trans (second []))
  exact ⟨answers, Workspace.mk.inj left⟩

end Emits

theorem yields_unique {work : Work φ α} {files after another : φ} {answer other : α}
    (first : Yields Workspace.files work files answer after)
    (second : Yields Workspace.files work files other another) : answer = other ∧ after = another := by
  obtain ⟨answered, left⟩ := first ⟨files, []⟩ rfl
  obtain ⟨answered_again, left_again⟩ := second ⟨files, []⟩ rfl
  exact ⟨answered.symm.trans answered_again, left.symm.trans left_again⟩

end Work
end LocaleStaging
