import SqlFootprint.Proofs.Schema.NameMap
import SqlFootprint.Proofs.Wire.Footprint
import SqlFootprint.Wire.Report

/-!
# Reading back reports

A report is read back from its text. All that is asked of it is what holds of every report in
memory: its numbers fit into their words, and its maps are in the order of their keys.
-/

namespace SqlFootprint

/-! ## Schemas -/

theorem NameMap.ofJson?_toJson {α : Type} {write : α → Json} {read : Json → Option α}
    {m : NameMap α} (inOrder : m.InOrder) (back : ∀ e ∈ m, read (write e.2) = some e.2) :
    ofJson? read (m.toJson write) = some m := by
  rw [toJson, ofJson?, Json.mapM_map_of_reads (f := id) fun e he ↦ by simp [back e he],
    Option.bind_eq_bind, Option.bind_some, List.map_id, inOrder.ofList_eq]
  rfl

theorem NameMap.exact_toJson {α : Type} {write : α → Json} {m : NameMap α}
    (exact : ∀ e ∈ m, (write e.2).Exact) : (m.toJson write).Exact := by
  rw [toJson, Json.exact_object, List.forall_mem_map]
  exact exact

theorem SchemaColumn.ofJson?_toJson (c : SchemaColumn) : ofJson? c.toJson = some c := by
  simp [ofJson?, toJson]

theorem SchemaColumn.exact_toJson (c : SchemaColumn) : c.toJson.Exact := by
  simp [toJson]

theorem SchemaTable.ofJson?_toJson (t : SchemaTable) : ofJson? t.toJson = some t := by
  have columns := Json.toList?_array fun c (_ : c ∈ t.columns) ↦ c.ofJson?_toJson
  simp [ofJson?, toJson, columns]

theorem SchemaTable.exact_toJson (t : SchemaTable) : t.toJson.Exact := by
  simp [toJson, SchemaColumn.exact_toJson]

/-- The maps of a schema are in the order of their keys. -/
structure Schema.InOrder (s : Schema) : Prop where
  tables : NameMap.InOrder s.tables
  columns : ∀ e ∈ s.tables, NameMap.InOrder e.2

theorem Schema.InOrder.ofJson?_toJson {s : Schema} (h : s.InOrder) :
    Schema.ofJson? s.toJson = some s := by
  have tables : NameMap.ofJson? (NameMap.ofJson? Json.toString?)
      (s.tables.toJson (·.toJson .string)) = some s.tables :=
    NameMap.ofJson?_toJson h.tables fun e he ↦
      NameMap.ofJson?_toJson (h.columns e he) fun _ _ ↦ rfl
  have details := Json.toList?_array fun t (_ : t ∈ s.details) ↦ t.ofJson?_toJson
  simp [Schema.ofJson?, Schema.toJson, tables, details]

theorem Schema.exact_toJson (s : Schema) : s.toJson.Exact := by
  have tables : (s.tables.toJson (·.toJson .string)).Exact :=
    NameMap.exact_toJson fun e _ ↦ NameMap.exact_toJson fun _ _ ↦ Json.exact_string _
  simp [toJson, tables, SchemaTable.exact_toJson]

/-! ## Diagnostics -/

theorem DiagnosticCode.ofJson?_render (c : DiagnosticCode) :
    ofJson? (.string c.render) = some c := by
  cases c <;> rfl

theorem Severity.ofJson?_render (s : Severity) : ofJson? (.string s.render) = some s := by
  cases s <;> rfl

/-- Line and column fit into words. -/
structure Location.Fits (l : Location) : Prop where
  line : ∀ n ∈ l.line, n < UInt64.size
  column : ∀ n ∈ l.column, n < UInt64.size

theorem Record.optionalOf_natural {value : Option Nat} (h : ∀ n ∈ value, n < UInt64.size) :
    optionalOf Json.toWord? (value.map .natural) = some value :=
  optionalOf_map _ fun n hn ↦ ⟨nofun, Json.toWord?_natural (h n hn)⟩

theorem Location.Fits.ofJson?_toJson {l : Location} (h : l.Fits) :
    Location.ofJson? l.toJson = some l := by
  simp [Location.ofJson?, Location.toJson, Record.optionalOf_natural h.line,
    Record.optionalOf_natural h.column]

theorem Location.exact_toJson (l : Location) : l.toJson.Exact := by
  simp [toJson]

theorem Diagnostic.ofJson?_toJson {d : Diagnostic} (h : ∀ l ∈ d.location, l.Fits) :
    ofJson? d.toJson = some d := by
  have location : Record.optionalOf Location.ofJson? (d.location.map Location.toJson) =
      some d.location := Record.optionalOf_map _ fun l hl ↦ ⟨nofun, (h l hl).ofJson?_toJson⟩
  simp [ofJson?, toJson, DiagnosticCode.ofJson?_render, Severity.ofJson?_render, location]

theorem Diagnostic.exact_toJson (d : Diagnostic) : d.toJson.Exact := by
  simp [toJson, Location.exact_toJson]

/-! ## Reports -/

structure ReportVersion.Fits (v : ReportVersion) : Prop where
  major : v.major < UInt32.size
  minor : v.minor < UInt32.size

theorem ReportVersion.Fits.ofJson?_toJson {v : ReportVersion} (h : v.Fits) :
    ReportVersion.ofJson? v.toJson = some v := by
  simp [ReportVersion.ofJson?, ReportVersion.toJson, Json.toHalfWord?_natural h.major,
    Json.toHalfWord?_natural h.minor]

structure ReportSummary.Fits (s : ReportSummary) : Prop where
  statements : s.statements < UInt64.size
  schemaTables : s.schemaTables < UInt64.size
  total : s.total < UInt64.size
  errors : s.errors < UInt64.size
  warnings : s.warnings < UInt64.size
  infos : s.infos < UInt64.size

theorem ReportSummary.Fits.ofJson?_toJson {s : ReportSummary} (h : s.Fits) :
    ReportSummary.ofJson? s.toJson = some s := by
  simp [ReportSummary.ofJson?, ReportSummary.toJson, Json.toWord?_natural h.statements,
    Json.toWord?_natural h.schemaTables, Json.toWord?_natural h.total,
    Json.toWord?_natural h.errors, Json.toWord?_natural h.warnings, Json.toWord?_natural h.infos]

/-- What holds of every report that is held in memory. -/
structure Report.Fits (r : Report) : Prop where
  version : r.version.Fits
  summary : r.summary.Fits
  schema : ∀ s ∈ r.schema, s.InOrder
  diagnostics : ∀ d ∈ r.diagnostics, ∀ l ∈ d.location, l.Fits

namespace Report

theorem Fits.ofJson?_toJson {r : Report} (h : r.Fits) : Report.ofJson? r.toJson = some r := by
  have statements := Json.toList?_array fun f (_ : f ∈ r.statements) ↦ f.ofJson?_toJson
  have schema : Record.optionalOf Schema.ofJson? (r.schema.map Schema.toJson) = some r.schema :=
    Record.optionalOf_map _ fun s hs ↦ ⟨nofun, (h.schema s hs).ofJson?_toJson⟩
  have diagnostics := Json.toList?_array fun d (hd : d ∈ r.diagnostics) ↦
    Diagnostic.ofJson?_toJson (h.diagnostics d hd)
  simp [Report.ofJson?, Report.toJson, h.version.ofJson?_toJson, h.summary.ofJson?_toJson,
    statements, schema, diagnostics]

theorem exact_toJson (r : Report) : r.toJson.Exact := by
  simp [toJson, ReportVersion.toJson, ReportSummary.toJson, Footprint.exact_toJson,
    Schema.exact_toJson, Diagnostic.exact_toJson]

/-- Reading the text of a report yields the report. -/
theorem parse?_toText {r : Report} (h : r.Fits) :
    (Json.parse? r.toText).bind ofJson? = some r := by
  rw [toText, Json.parse?_pretty r.exact_toJson]
  exact h.ofJson?_toJson

/-- A report with what is seldom in one: quotes, control characters, characters that take two code
units, nested footprints, empty texts, and the largest word. -/
def rare : Report where
  version := ⟨4294967295, 0⟩
  timestamp := "\u0000\"\\/\x7f\u2028𝄞"
  summary := { total := 18446744073709551615 }
  statements := [
    { Footprint.empty .select "" with
      tables := [⟨"t", some "", some "é\n"⟩]
      columns := [⟨"*", none, some "\r\t", ⟨true, false, true, false⟩, some false, none⟩,
        ⟨"", some "t", none, {}, some true, some "INT"⟩]
      joins := [⟨.full, "a", "", "b", "", none⟩, ⟨.cross, "", "", "", "", some "\u001f"⟩]
      conditions := ["", "a = '\"'"]
      ctes := [{ Footprint.empty .cte "c" with subqueries := [.empty .delete "d"] }]
      notices := [⟨.depthLimitExceeded, "\\"⟩] }]
  schema := some ⟨[("a", []), ("t", [("", "INT"), ("b", "")])], [⟨"T", some "", [⟨"\"", "", true,
    false, true⟩]⟩]⟩
  diagnostics := [⟨.sqlDepthLimit, .warn, "", some ⟨"", some 0, some 18446744073709551615⟩, none⟩,
    ⟨.info, .info, "\u0008", none, some "s"⟩]

theorem parse?_toText_rare : (Json.parse? rare.toText).bind ofJson? = some rare := by
  refine parse?_toText ⟨⟨by decide, by decide⟩,
    ⟨by decide, by decide, by decide, by decide, by decide, by decide⟩, ?_, ?_⟩
  · rintro _ ⟨⟩
    exact ⟨by unfold NameMap.InOrder; decide +kernel, by unfold NameMap.InOrder; decide +kernel⟩
  · intro d hd l hl
    simp only [rare, List.mem_cons, List.not_mem_nil, or_false] at hd
    obtain rfl | rfl := hd
    · cases hl
      exact ⟨by decide +kernel, by decide +kernel⟩
    · cases hl

end Report

end SqlFootprint
