import SqlFootprint.Proofs.Wire.Record
import SqlFootprint.Wire.Footprint

/-!
# Reading back footprints

A footprint is read back as it was written, with all that it contains. The fuel of the reader is
the height of what was written, which every nested footprint is below.
-/

namespace SqlFootprint

/-! ## Words -/

theorem StatementKind.ofJson?_render (k : StatementKind) : ofJson? (.string k.render) = some k := by
  cases k <;> rfl

theorem JoinKind.ofJson?_render (k : JoinKind) : ofJson? (.string k.render) = some k := by
  cases k <;> rfl

theorem NoticeKind.ofJson?_code (k : NoticeKind) : ofJson? (.string k.code) = some k := by
  cases k <;> rfl

/-! ## Flat records -/

theorem TableUse.ofJson?_toJson (t : TableUse) : ofJson? t.toJson = some t := by
  simp [ofJson?, toJson]

theorem TableUse.exact_toJson (t : TableUse) : t.toJson.Exact := by
  simp [toJson]

theorem ColumnUse.ofJson?_toJson (c : ColumnUse) : ofJson? c.toJson = some c := by
  simp [ofJson?, toJson]

theorem ColumnUse.exact_toJson (c : ColumnUse) : c.toJson.Exact := by
  simp [toJson, or_imp, forall_and]

theorem JoinEdge.ofJson?_toJson (e : JoinEdge) : ofJson? e.toJson = some e := by
  simp [ofJson?, toJson, JoinKind.ofJson?_render]

theorem JoinEdge.exact_toJson (e : JoinEdge) : e.toJson.Exact := by
  simp [toJson]

theorem Notice.ofJson?_toJson (n : Notice) : ofJson? n.toJson = some n := by
  simp [ofJson?, toJson, NoticeKind.ofJson?_code]

theorem Notice.exact_toJson (n : Notice) : n.toJson.Exact := by
  simp [toJson]

/-! ## Nested records -/

namespace Json

theorem height_le_heightOfMembers {members : List (String × Json)} {key : String} {j : Json}
    (h : (key, j) ∈ members) : j.height ≤ heightOfMembers members := by
  induction members with
  | nil => cases h
  | cons k ks ih =>
    rw [heightOfMembers]
    obtain rfl | later := List.mem_cons.1 h
    · exact Nat.le_max_left ..
    · exact Nat.le_trans (ih later) (Nat.le_max_right ..)

/-- The items of a list that is a member are two levels further in. -/
theorem heightOfItems_lt_height {members : List (String × Json)} {items : List Json} (key : String)
    (h : (key, array items) ∈ members) : heightOfItems items + 1 < (object members).height := by
  have inner : (array items).height ≤ heightOfMembers members := height_le_heightOfMembers h
  simp only [height] at inner ⊢
  omega

end Json

namespace Footprint

theorem toJsons_eq_map (fs : List Footprint) : toJsons fs = fs.map toJson := by
  induction fs with
  | nil => rfl
  | cons f fs ih => rw [toJsons, ih, List.map_cons]

/-- The members of a record are read where the nested footprints are. -/
theorem ofJsonWithin?_succ_toJson {f : Footprint} {n : Nat}
    (ctes : ∀ g ∈ f.ctes, ofJsonWithin? n g.toJson = some g)
    (subqueries : ∀ g ∈ f.subqueries, ofJsonWithin? n g.toJson = some g) :
    ofJsonWithin? (n + 1) f.toJson = some f := by
  obtain ⟨kind, tables, columns, joins, conditions, cs, ss, text, notices⟩ := f
  have readTables := Json.toList?_array fun t (_ : t ∈ tables) ↦ t.ofJson?_toJson
  have readColumns := Json.toList?_array fun c (_ : c ∈ columns) ↦ c.ofJson?_toJson
  have readJoins := Json.toList?_array fun e (_ : e ∈ joins) ↦ e.ofJson?_toJson
  have readConditions := Json.toList?_array fun s (_ : s ∈ conditions) ↦ Json.toString?_string s
  have readCtes := Json.toList?_array ctes
  have readSubqueries := Json.toList?_array subqueries
  have readNotices := Json.toList?_array fun n (_ : n ∈ notices) ↦ n.ofJson?_toJson
  -- An empty list of notices is left out.
  cases notices with
  | nil =>
    simp [ofJsonWithin?, toJson, toJsons_eq_map, StatementKind.ofJson?_render, readTables,
      readColumns, readJoins, readConditions, readCtes, readSubqueries]
  | cons n ns =>
    rw [List.map_cons] at readNotices
    simp [ofJsonWithin?, toJson, toJsons_eq_map, StatementKind.ofJson?_render, readTables,
      readColumns, readJoins, readConditions, readCtes, readSubqueries, readNotices]

theorem heightOfItems_ctes_lt (f : Footprint) :
    Json.heightOfItems (toJsons f.ctes) + 1 < f.toJson.height := by
  obtain ⟨⟩ := f
  rw [toJson]
  exact Json.heightOfItems_lt_height "ctes" (by simp)

theorem heightOfItems_subqueries_lt (f : Footprint) :
    Json.heightOfItems (toJsons f.subqueries) + 1 < f.toJson.height := by
  obtain ⟨⟩ := f
  rw [toJson]
  exact Json.heightOfItems_lt_height "subqueries" (by simp)

mutual

theorem ofJsonWithin?_toJson : (f : Footprint) → (n : Nat) → f.toJson.height ≤ n →
    ofJsonWithin? n f.toJson = some f
  | ⟨kind, tables, columns, joins, conditions, ctes, subqueries, text, notices⟩, n, enough => by
    have hc := heightOfItems_ctes_lt
      ⟨kind, tables, columns, joins, conditions, ctes, subqueries, text, notices⟩
    have hs := heightOfItems_subqueries_lt
      ⟨kind, tables, columns, joins, conditions, ctes, subqueries, text, notices⟩
    cases n with
    | zero => omega
    | succ n =>
      refine ofJsonWithin?_succ_toJson ?_ ?_
      · exact ofJsonWithin?_toJsons ctes n (by simp only at hc; omega)
      · exact ofJsonWithin?_toJsons subqueries n (by simp only at hs; omega)

theorem ofJsonWithin?_toJsons : (fs : List Footprint) → (n : Nat) →
    Json.heightOfItems (toJsons fs) ≤ n → ∀ f ∈ fs, ofJsonWithin? n f.toJson = some f
  | [], _, _ => nofun
  | f :: fs, n, enough => by
    rw [toJsons, Json.heightOfItems] at enough
    exact List.forall_mem_cons.2 ⟨ofJsonWithin?_toJson f n (by omega),
      ofJsonWithin?_toJsons fs n (by omega)⟩

end

theorem ofJson?_toJson (f : Footprint) : ofJson? f.toJson = some f :=
  ofJsonWithin?_toJson f _ (Nat.le_refl _)

mutual

theorem exact_toJson : (f : Footprint) → f.toJson.Exact
  | ⟨kind, tables, columns, joins, conditions, ctes, subqueries, text, notices⟩ => by
    have nested : (∀ j ∈ toJsons ctes, j.Exact) ∧ ∀ j ∈ toJsons subqueries, j.Exact :=
      ⟨exact_toJsons ctes, exact_toJsons subqueries⟩
    rw [toJson]
    split_ifs
    · simpa [TableUse.exact_toJson, ColumnUse.exact_toJson, JoinEdge.exact_toJson] using nested
    · simpa [TableUse.exact_toJson, ColumnUse.exact_toJson, JoinEdge.exact_toJson,
        Notice.exact_toJson] using nested

theorem exact_toJsons : (fs : List Footprint) → ∀ j ∈ toJsons fs, j.Exact
  | [] => nofun
  | f :: fs => by
    rw [toJsons]
    exact List.forall_mem_cons.2 ⟨exact_toJson f, exact_toJsons fs⟩

end

end Footprint

end SqlFootprint
