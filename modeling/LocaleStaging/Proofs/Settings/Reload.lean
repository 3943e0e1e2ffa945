import LocaleStaging.Proofs.Settings.Expansion
import LocaleStaging.Proofs.Settings.RoundTrip

namespace LocaleStaging.Settings

theorem mapError_eq_ok {α β γ : Type} {result : Except α γ} {translate : α → β} {value : γ} :
    result.mapError translate = .ok value ↔ result = .ok value := by
  cases result with
  | error cause => exact ⟨nofun, nofun⟩
  | ok found =>
      constructor
      · rintro ⟨⟩
        rfl
      · rintro ⟨⟩
        rfl

theorem exists_text_of_expandDirectory {environment : Environment} {given settings : Settings}
    (expanded : expandDirectory environment given = .ok settings) :
    ∃ (directory : Option String) (days : UInt64) (filter : String),
      settings = ⟨directory.map .ofString, days, filter⟩ := by
  obtain ⟨_ | place, days, filter⟩ := given
  · cases expanded
    exact ⟨none, days, filter, rfl⟩
  · unfold expandDirectory at expanded
    cases found : Expansion.expand environment (Utf8.decodeLossy place.octets) with
    | error error => simp [found, Except.map] at expanded
    | ok directory =>
        simp only [found, Except.map, Except.ok.injEq] at expanded
        exact ⟨some directory, days, filter, expanded.symm⟩

theorem exists_text_of_parse {environment : Environment} {text : String} {settings : Settings}
    (parsed : parse environment text = .ok settings) :
    ∃ (directory : Option String) (days : UInt64) (filter : String),
      settings = ⟨directory.map .ofString, days, filter⟩ := by
  unfold parse at parsed
  split at parsed
  next => cases parsed
  split at parsed
  next => cases parsed
  next => exact exists_text_of_expandDirectory (mapError_eq_ok.1 parsed)

def Stable (environment : Environment) (settings : Settings) : Prop :=
  ∀ directory, settings.stagingDirectory = some (.ofString directory) →
    Expansion.expand environment directory = .ok directory

theorem expandDirectory_eq_self_iff (environment : Environment) (directory : Option String) (days : UInt64)
    (filter : String) :
    expandDirectory environment ⟨directory.map .ofString, days, filter⟩ =
        .ok ⟨directory.map .ofString, days, filter⟩ ↔
      Stable environment ⟨directory.map .ofString, days, filter⟩ := by
  cases directory with
  | none => simp [expandDirectory, Stable]
  | some directory =>
      simp only [Option.map_some, expandDirectory_ofString, Stable, Option.some.injEq,
        Path.ofString_inj, forall_eq']
      cases Expansion.expand environment directory <;> simp [Except.map, Path.ofString_inj]

theorem stable_of_settled (environment : Environment) {settings : Settings}
    (settled : ∀ directory, settings.stagingDirectory = some (.ofString directory) →
      Expansion.Settled directory) : Stable environment settings :=
  fun directory named => Expansion.expand_of_settled environment (settled directory named)

/-- Settings that a text gives can be written, and what is written gives them with their directory
expanded once more. So it gives them again just if expansion leaves the directory as it is, as it does
where nothing is left to expand. -/
theorem reload_same_iff {environment : Environment} {text : String} {settings : Settings}
    (parsed : parse environment text = .ok settings) :
    ∃ written, write? settings = some written ∧
      parse environment written = (expandDirectory environment settings).mapError .expansion ∧
      (parse environment written = .ok settings ↔ Stable environment settings) ∧
      ((∀ directory, settings.stagingDirectory = some (.ofString directory) →
        Expansion.Settled directory) → parse environment written = .ok settings) := by
  obtain ⟨directory, days, filter, rfl⟩ := exists_text_of_parse parsed
  have reread := parse_document environment directory days filter
  have same : parse environment (String.ofList (document directory days filter)) =
      .ok ⟨directory.map .ofString, days, filter⟩ ↔
        Stable environment ⟨directory.map .ofString, days, filter⟩ := by
    rw [reread, mapError_eq_ok, expandDirectory_eq_self_iff]
  exact ⟨_, write?_ofString directory days filter, reread, same,
    fun settled => same.2 (stable_of_settled environment settled)⟩

def dataEnvironment : Environment := .ofBlock (Utf8.encode "DATA=/data\x00")

def namingData : String :=
  "[staging]\ndir = \"$DATA/app\"\nretention_days = 3\n\n[logging]\nfilter = \"info\"\n"

theorem write?_data : write? ⟨some (.ofString "$DATA/app"), 3, "info"⟩ = some namingData := by
  decide +kernel

theorem expand_data : Expansion.expand dataEnvironment "$DATA/app" = .ok "/data/app" := by
  have taken : Expansion.takePart ['D', 'A', 'T', 'A', '/', 'a', 'p', 'p'] =
      (.named ['D', 'A', 'T', 'A'] none, ['/', 'a', 'p', 'p']) := by
    decide +kernel
  have value : dataEnvironment.text "DATA" = .ok "/data" := rfl
  simp [Expansion.expand, Expansion.parts, taken, Expansion.expandParts, Expansion.Part.expand, value,
    Except.map, Expansion.expandTilde]

theorem reload_same_iff_data :
    parse dataEnvironment namingData = .ok ⟨some (.ofString "/data/app"), 3, "info"⟩ ∧
      ∃ written, write? ⟨some (.ofString "/data/app"), 3, "info"⟩ = some written ∧
        parse dataEnvironment written = .ok ⟨some (.ofString "/data/app"), 3, "info"⟩ := by
  have parsed := parse_of_write_directory write?_data expand_data
  obtain ⟨written, writes, -, -, same⟩ := reload_same_iff parsed
  refine ⟨parsed, written, writes, same fun directory named => ?_⟩
  obtain rfl := Path.ofString_inj.1 (Option.some.inj named)
  exact ⟨by decide, by simp [Expansion.BeginsAtHome]⟩

/-- Behind two dollar signs a name is not looked up, but one of them is left, so it is the next time. -/
theorem reload_escaped_changes :
    parse dataEnvironment
        "[staging]\ndir = \"$$DATA/app\"\nretention_days = 3\n\n[logging]\nfilter = \"info\"\n" =
        .ok ⟨some (.ofString "$DATA/app"), 3, "info"⟩ ∧
      write? ⟨some (.ofString "$DATA/app"), 3, "info"⟩ = some namingData ∧
      parse dataEnvironment namingData ≠ .ok ⟨some (.ofString "$DATA/app"), 3, "info"⟩ := by
  have escaped : Expansion.expand dataEnvironment "$$DATA/app" = .ok "$DATA/app" := by
    simp [Expansion.expand, Expansion.parts, Expansion.takePart, Expansion.expandParts,
      Expansion.Part.expand, Except.map, Expansion.expandTilde]
  refine ⟨parse_of_write_directory (by decide +kernel) escaped, write?_data, ?_⟩
  rw [parse_of_write_directory write?_data expand_data]
  intro same
  have read := Path.ofString_inj.1 (Option.some.inj (congrArg stagingDirectory (Except.ok.inj same)))
  exact absurd read (by decide)

end LocaleStaging.Settings
