import LocaleStaging.Proofs.Text.Octet
import LocaleStaging.Proofs.Toml.Statement
import LocaleStaging.Settings.Reader
import LocaleStaging.Settings.Writer

namespace LocaleStaging

theorem Utf8.decode?_encode (text : String) : decode? (encode text) = some text :=
  decode?_eq_some_iff.2 rfl

theorem Utf8.decodeLossy_encode (text : String) : decodeLossy (encode text) = text := by
  simp [decodeLossy, encode, pieces_encodeChars, Function.comp_def]

theorem Path.ofString_inj {first second : String} : ofString first = ofString second ↔ first = second :=
  ⟨fun same => Utf8.encode_injective (congrArg octets same), congrArg ofString⟩

namespace Settings

open Toml

/-! ## Lines -/

theorem reads_writeSection {name : String} (bare : IsBare name) {pairs : List (List Char)}
    {rest : List Char} {statements : List Statement}
    (reads : Reads (pairs.flatten ++ rest) statements) :
    Reads (writeSection name pairs ++ rest) (.header [name] :: statements) := by
  simpa [writeSection] using reads.header bare

theorem reads_writePair {key : String} (bare : IsBare key) {written : List Char} {value : Value}
    (read : ValueRead written value) {rest : List Char} {statements : List Statement}
    (reads : Reads rest statements) :
    Reads (writePair key written ++ rest) (.pair [key] value :: statements) := by
  simpa [writePair] using reads.pair bare read

/-! ## The document -/

def stagingPairs (directory : Option String) (days : UInt64) : List (String × Value) :=
  match directory with
  | none => [("retention_days", .integer days.toNat)]
  | some text => [("dir", .text text), ("retention_days", .integer days.toNat)]

def statementsOf (pairs : List (String × Value)) : List Statement :=
  pairs.map fun pair => .pair [pair.1] pair.2

def document (directory : Option String) (days : UInt64) (filter : String) : List Char :=
  let lines := (directory.map fun text => writePair "dir" (writeText text)).toList
  let days := writePair "retention_days" (toString days.toNat).toList
  let filter := writePair "filter" (writeText filter)
  writeSection "staging" (lines ++ [days]) ++ '\n' :: writeSection "logging" [filter]

theorem reads_document (directory : Option String) (days : UInt64) (filter : String) :
    Reads (document directory days filter)
      (.header ["staging"] :: statementsOf (stagingPairs directory days) ++
        [.header ["logging"], .pair ["filter"] (.text filter)]) := by
  have line : Reads ([writePair "filter" (writeText filter)].flatten ++ [])
      [.pair ["filter"] (.text filter)] := by
    simpa using reads_writePair (by decide) (valueRead_writeText filter) Reads.nil
  have logging : Reads ('\n' :: writeSection "logging" [writePair "filter" (writeText filter)])
      [.header ["logging"], .pair ["filter"] (.text filter)] := by
    simpa using (reads_writeSection (by decide) line).blank
  have number : ValueRead (toString days.toNat).toList (.integer days.toNat) := by
    have digits : (toString days.toNat).toList = Nat.toDigits 10 days.toNat := by simp
    exact digits ▸ valueRead_toDigits days.toNat
  have bare_days : IsBare "retention_days" := by decide
  have bare_dir : IsBare "dir" := by decide
  have waiting := reads_writePair bare_days number logging
  refine reads_writeSection (by decide) ?_
  cases directory with
  | none => simpa [statementsOf, stagingPairs] using waiting
  | some text =>
      have place := reads_writePair bare_dir (valueRead_writeText text) waiting
      simpa [statementsOf, stagingPairs] using place

theorem read_document (directory : Option String) (days : UInt64) (filter : String) :
    Toml.read (String.ofList (document directory days filter)) =
      .ok [("staging", .table .header (stagingPairs directory days)),
        ("logging", .table .header [("filter", .text filter)])] := by
  rw [read_of_reads (reads_document directory days filter) (by simp [document, writeSection])]
  cases directory with
  | none => rfl
  | some text => rfl

/-! ## Settings -/

theorem daysOf_toNat (days : UInt64) : daysOf (.integer days.toNat) = .ok days := by
  have small : (days.toNat : Int) < UInt64.size := Int.ofNat_lt.2 days.toNat_lt_size
  simp only [daysOf, Int.natCast_nonneg, small, and_self, if_true, Int.toNat_natCast, UInt64.ofNat_toNat]

section Sections
variable (settings : Settings)

theorem setEntry_staging (pairs : List (String × Value)) :
    setEntry settings ("staging", .table .header pairs) =
      pairs.foldlM (fun settings pair => setStaging settings pair.1 pair.2) settings := rfl

theorem setEntry_logging (pairs : List (String × Value)) :
    setEntry settings ("logging", .table .header pairs) =
      pairs.foldlM (fun settings pair => setLogging settings pair.1 pair.2) settings := rfl

theorem setStaging_dir (text : String) :
    setStaging settings "dir" (.text text) =
      .ok { settings with stagingDirectory := some (.ofString text) } := rfl

theorem setStaging_retentionDays (days : UInt64) :
    setStaging settings "retention_days" (.integer days.toNat) =
      .ok { settings with retentionDays := days } := by
  rw [setStaging, if_neg (by decide), if_pos rfl, daysOf_toNat, Except.map]

theorem setLogging_filter (text : String) :
    setLogging settings "filter" (.text text) = .ok { settings with filter := text } := rfl

end Sections

theorem ofEntries_document (directory : Option String) (days : UInt64) (filter : String) :
    ofEntries [("staging", .table .header (stagingPairs directory days)),
        ("logging", .table .header [("filter", .text filter)])] =
      .ok ⟨directory.map .ofString, days, filter⟩ := by
  simp only [ofEntries, List.foldlM_cons, List.foldlM_nil, setEntry_staging, setEntry_logging,
    setLogging_filter]
  cases directory <;>
    simp only [stagingPairs, List.foldlM_cons, List.foldlM_nil, setStaging_dir,
      setStaging_retentionDays] <;>
    rfl

theorem write?_ofString (directory : Option String) (days : UInt64) (filter : String) :
    write? ⟨directory.map .ofString, days, filter⟩ =
      some (String.ofList (document directory days filter)) := by
  cases directory with
  | none => rfl
  | some text => simp [write?, writeDirectory, document, Path.ofString, Utf8.decode?_encode]

theorem exists_text_of_write {settings : Settings} {text : String} (written : write? settings = some text) :
    ∃ (directory : Option String) (days : UInt64) (filter : String),
      settings = ⟨directory.map .ofString, days, filter⟩ := by
  obtain ⟨_ | place, days, filter⟩ := settings
  · exact ⟨none, days, filter, rfl⟩
  · obtain ⟨lines, found, -⟩ := Option.map_eq_some_iff.1 written
    obtain ⟨name, decoded, -⟩ := Option.map_eq_some_iff.1 found
    refine ⟨some name, days, filter, ?_⟩
    rw [Option.map_some, Path.ofString, ← Utf8.decode?_eq_some_iff.1 decoded]

theorem parse_document (environment : Environment) (directory : Option String) (days : UInt64)
    (filter : String) :
    parse environment (String.ofList (document directory days filter)) =
      (expandDirectory environment ⟨directory.map .ofString, days, filter⟩).mapError .expansion := by
  simp only [parse, read_document, ofEntries_document]

theorem parse_of_write {settings : Settings} {text : String} (written : write? settings = some text)
    (environment : Environment) :
    parse environment text = (expandDirectory environment settings).mapError .expansion := by
  obtain ⟨directory, days, filter, rfl⟩ := exists_text_of_write written
  rw [write?_ofString] at written
  cases written
  exact parse_document environment directory days filter

theorem expandDirectory_ofString (environment : Environment) (directory : String) (days : UInt64)
    (filter : String) :
    expandDirectory environment ⟨some (.ofString directory), days, filter⟩ =
      (Expansion.expand environment directory).map fun expanded =>
        ⟨some (.ofString expanded), days, filter⟩ := by
  have lossless : Utf8.decodeLossy (Path.ofString directory).octets = directory :=
    Utf8.decodeLossy_encode directory
  simp only [expandDirectory, lossless]

theorem parse_of_write_directory {environment : Environment} {directory expanded : String} {days : UInt64}
    {filter text : String} (written : write? ⟨some (.ofString directory), days, filter⟩ = some text)
    (expands : Expansion.expand environment directory = .ok expanded) :
    parse environment text = .ok ⟨some (.ofString expanded), days, filter⟩ := by
  rw [parse_of_write written, expandDirectory_ofString, expands]
  rfl

/-- Settings are written whatever their days, their filter and the text that is their staging directory.
They are read back as they are, but for the directory, which is expanded, and reading fails just if its
expansion does. -/
theorem write_roundTrip (environment : Environment) (directory : Option String) (days : UInt64)
    (filter : String) :
    ∃ text, write? ⟨directory.map .ofString, days, filter⟩ = some text ∧
      parse environment text =
        match directory with
        | none => .ok ⟨none, days, filter⟩
        | some directory =>
          match Expansion.expand environment directory with
          | .ok expanded => .ok ⟨some (.ofString expanded), days, filter⟩
          | .error error => .error (.expansion error) := by
  refine ⟨_, write?_ofString directory days filter, ?_⟩
  rw [parse_document]
  cases directory with
  | none => rfl
  | some directory =>
      simp only [Option.map_some, expandDirectory_ofString]
      cases Expansion.expand environment directory <;> rfl

end Settings
end LocaleStaging
