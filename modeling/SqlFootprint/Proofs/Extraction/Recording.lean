import SqlFootprint.Proofs.Extraction.Exposure
import SqlFootprint.Proofs.Sql.References

/-!
# The columns of an expression are recorded

An expression whose walk gives no notice has left nothing out: every column that it refers to,
outside nested queries, is recorded under the table that its qualifier means. `Reading` says what
the walks of expressions are made of, and accounts for the references in them.

A notice is given once only, so that a walk which gives one again does not change the notices of the
footprint. Whether a walk gives any is therefore seen where there were none before.
-/

namespace SqlFootprint

namespace Scope

/-- The key of the column that a reference means: its table, if there is one, and its name. -/
def keyOf (s : Scope) (outer : List TableUse) (c : ColumnRef) : String × String :=
  (Text.foldAscii ((c.qualifier.map (s.resolve outer)).getD ""), Text.foldAscii c.column)

/-- The same scope with other notices. -/
def withNotices (s : Scope) (ns : List Notice) : Scope :=
  s.edit fun f ↦ { f with notices := ns }

theorem keyOf_congr {s t : Scope} (h : t.visible = s.visible) : t.keyOf = s.keyOf := by
  funext outer c
  unfold keyOf resolve ownTable?
  rw [h]

end Scope

namespace Footprint

/-- What the walk of an expression leaves as it is, in one value. -/
def settled (f : Footprint) : StatementKind × List JoinEdge × List Footprint × String :=
  (f.kind, f.joins, f.ctes, f.text)

theorem notices_note_ne_nil (f : Footprint) (n : Notice) : (f.note n).notices ≠ [] :=
  List.ne_nil_of_mem (f.mem_notices_note n)

end Footprint

namespace Walk

/-- `Reading cs w`: the walk `w` is one of an expression, and the columns that it records under
their tables, or leaves out with a notice, are `cs`, in this order. -/
inductive Reading : List ColumnRef → Walk → Prop
  | skip : Reading [] .skip
  | andThen {bs cs v w} : Reading bs v → Reading cs w → Reading (bs ++ cs) (v.andThen w)
  | condition (text : String) : Reading [] (.edit (·.addCondition text))
  | /-- Whatever is passed over with a notice may have any references. -/
    unsupported (cs : List ColumnRef) (message : String) : Reading cs (.unsupported message)
  | recordRef (c : ColumnRef) (role : Role) : Reading [c] (.recordRef c role none)
  | deeper {cs w} (what : String) : Reading cs w → Reading cs (.deeper what w)
  | /-- Nested queries refer to columns on their own account. -/
    query (q : Sql.Query) : Reading [] (.nested .select q.render q.walk .addSubquery)
  | negated {cs w} : Reading cs w → Reading cs w.negated

namespace Reading

variable {bs cs : List ColumnRef} {v w : Walk}

/-! ## Sequences -/

theorem cons {ws : List Walk} (h : Reading bs w) (k : Reading cs (.all ws)) :
    Reading (bs ++ cs) (.all (w :: ws)) :=
  h.andThen k

/-- A walk without references adds none to a sequence. -/
theorem cons_nil {ws : List Walk} (h : Reading [] w) (k : Reading cs (.all ws)) :
    Reading cs (.all (w :: ws)) :=
  h.andThen k

theorem single (h : Reading cs w) : Reading cs (.all [w]) := by
  have k := h.andThen .skip
  rw [List.append_nil] at k
  exact k

theorem pair (h : Reading bs v) (k : Reading cs w) : Reading (bs ++ cs) (.all [v, w]) :=
  h.cons k.single

/-! ## What such walks do -/

theorem composed (h : Reading cs w) : ∃ ts, Composed (fun _ ↦ True) ts w := by
  induction h with
  | skip => exact ⟨_, .skip⟩
  | andThen _ _ ihv ihw =>
    obtain ⟨ts, hv⟩ := ihv
    obtain ⟨us, hw⟩ := ihw
    exact ⟨_, hv.andThen hw⟩
  | condition text => exact ⟨_, .condition text⟩
  | unsupported _ message => exact ⟨[], .unsupported [] message⟩
  | recordRef c role => exact ⟨_, .recordRef c none trivial⟩
  | deeper what _ ih =>
    obtain ⟨ts, hw⟩ := ih
    exact ⟨_, hw.deeper what⟩
  | query q => exact ⟨_, q.walk_composed.nested .elsewhere⟩
  | negated _ ih =>
    obtain ⟨ts, hw⟩ := ih
    exact ⟨_, hw.negated⟩

/-- An expression enters no relations, and it leaves alone what only other walks change. -/
theorem visible_and_settled (h : Reading cs w) (r : Reach) (s : Scope) :
    (w r s).visible = s.visible ∧ (w r s).footprint.settled = s.footprint.settled := by
  induction h generalizing r s with
  | skip => exact ⟨rfl, rfl⟩
  | andThen _ _ ihv ihw =>
    obtain ⟨visible, settled⟩ := ihv r s
    exact (ihw r _).imp (·.trans visible) (·.trans settled)
  | condition text => exact ⟨rfl, rfl⟩
  | unsupported _ message => exact ⟨rfl, rfl⟩
  | recordRef c role => exact ⟨rfl, rfl⟩
  | deeper what _ ih =>
    rcases Nat.lt_or_ge r.depth r.limit with hd | hd
    · rw [deeper_of_lt hd]
      exact ih _ s
    · rw [deeper_of_le hd]
      exact ⟨rfl, rfl⟩
  | query q =>
    unfold nested
    split
    · exact ⟨rfl, rfl⟩
    · exact ⟨rfl, rfl⟩
  | negated _ ih => exact ih r s

theorem visible (h : Reading cs w) (r : Reach) (s : Scope) : (w r s).visible = s.visible :=
  (h.visible_and_settled r s).1

theorem settled (h : Reading cs w) (r : Reach) (s : Scope) :
    (w r s).footprint.settled = s.footprint.settled :=
  (h.visible_and_settled r s).2

/-- Without a notice, before or after, all references are recorded. -/
theorem plays (h : Reading cs w) (r : Reach) (s : Scope) (silent : (w r s).footprint.notices = []) :
    ∀ c ∈ cs, (w r s).footprint.Plays .mentioned (s.keyOf r.outer c) := by
  induction h generalizing r s with
  | skip => exact List.forall_mem_nil _
  | @andThen bs cs v w hv hw ihv ihw =>
    obtain ⟨ts, composed⟩ := hw.composed
    have between : (v r s).footprint.notices = [] :=
      List.prefix_nil.1 (silent ▸ (composed.extends r (v r s)).notices)
    rw [List.forall_mem_append]
    constructor
    · intro c hc
      have kept := (composed.effect effect_isExposed r (v r s)).1
      exact kept.columns _ _ (ihv r s between c hc)
    · intro c hc
      have recorded := ihw r (v r s) silent c hc
      rwa [Scope.keyOf_congr (hv.visible r s)] at recorded
  | condition text => exact List.forall_mem_nil _
  | unsupported _ message => exact absurd silent (Footprint.notices_note_ne_nil _ _)
  | recordRef c role =>
    refine List.forall_mem_singleton.2 (Footprint.plays_record.2 (.inr ⟨rfl, ?_⟩))
    exact Roles.has_ofRole.2 (.inr rfl)
  | deeper what _ ih =>
    rcases Nat.lt_or_ge r.depth r.limit with hd | hd
    · rw [deeper_of_lt hd] at silent ⊢
      exact ih _ s silent
    · rw [deeper_of_le hd] at silent
      exact absurd silent (Footprint.notices_note_ne_nil _ _)
  | query q => exact List.forall_mem_nil _
  | @negated cs w _ ih =>
    obtain ⟨added, hn⟩ := exists_negated_eq w r s
    rw [hn] at silent ⊢
    exact ih r s silent

end Reading

/-- What a walk does, apart from giving notices, does not depend on the notices given before. -/
theorem Composed.exists_withNotices_eq {roles : Role → Prop} {ts : List TableUse} {w : Walk}
    (h : Composed roles ts w) (r : Reach) (s : Scope) (ns : List Notice) :
    ∃ given, w r (s.withNotices ns) = (w r s).withNotices given := by
  induction h generalizing r s ns with
  | skip => exact ⟨ns, rfl⟩
  | @andThen roles ts us v w _ _ ihv ihw =>
    obtain ⟨given, hv⟩ := ihv r s ns
    obtain ⟨given', hw⟩ := ihw r (v r s) given
    exact ⟨given', by rw [Walk.andThen, hv, hw]; rfl⟩
  | condition text => exact ⟨ns, rfl⟩
  | unsupported _ message => exact ⟨_, rfl⟩
  | register t => exact ⟨ns, rfl⟩
  | use => exact ⟨ns, rfl⟩
  | @join roles ts w kind left right on _ _ ih =>
    have edge : Sql.joinEdge? (s.withNotices ns) kind ((s.withNotices ns).known? left)
        ((s.withNotices ns).known? right) on =
          Sql.joinEdge? s kind (s.known? left) (s.known? right) on := rfl
    unfold Walk.join Sql.joinOn
    rw [edge]
    split
    · exact ⟨ns, rfl⟩
    · obtain ⟨given, hw⟩ := ih r (s.unsupported (Sql.noEdgeMessage on))
        ((s.withNotices ns).unsupported (Sql.noEdgeMessage on)).footprint.notices
      exact ⟨given, hw⟩
  | deeper what _ ih =>
    rcases Nat.lt_or_ge r.depth r.limit with hd | hd
    · rw [deeper_of_lt hd, deeper_of_lt hd]
      exact ih _ s ns
    · rw [deeper_of_le hd, deeper_of_le hd]
      exact ⟨_, rfl⟩
  | query place q _ _ _ =>
    rcases Nat.lt_or_ge r.depth r.limit with hd | hd
    · rw [query_of_lt hd, query_of_lt hd]
      cases place with
      | withClause => exact ⟨ns, rfl⟩
      | elsewhere => exact ⟨ns, rfl⟩
    · rw [query_of_le hd, query_of_le hd]
      exact ⟨_, rfl⟩
  | @branch roles ts w _ ih =>
    obtain ⟨given, hw⟩ := ih r s ns
    exact ⟨given, by rw [Walk.branch, hw]; rfl⟩
  | @negated roles ts w _ ih =>
    obtain ⟨given, hw⟩ := ih r s ns
    exact ⟨given, by rw [Walk.negated, hw]; rfl⟩

end Walk

theorem Mode.leaf_reading (m : Mode) (e : Sql.Expr) : Walk.Reading [] (m.leaf e) := by
  unfold leaf
  split
  · cases e.condition? with
    | none => exact .skip
    | some text => exact .condition text
  · exact .skip

namespace Sql

open Walk (Reading)

mutual

theorem Expr.walk_reading (m : Mode) : ∀ e : Expr, Reading e.references (e.walk m)
  | .binary left .and right => .pair (left.walk_reading m) (right.walk_reading m)
  | .binary left .or right => .pair (left.walk_reading m) (right.walk_reading m)
  | .column _ _ => .deeper _ (.recordRef _ m.role)
  | .constant _ => .deeper _ .skip
  | .binary left (.compare _) right =>
    .deeper _ (.cons_nil (m.leaf_reading _)
      (.pair (left.walk_reading m.operand) (right.walk_reading m.operand)))
  | .binary left (.other _) right =>
    .deeper _ (.pair (left.walk_reading m.operand) (right.walk_reading m.operand))
  | .unary .not operand => by
    refine .deeper _ ?_
    split
    · exact (operand.walk_reading m).negated
    · exact operand.walk_reading m
  | .unary (.before _) operand => .deeper _ (operand.walk_reading m)
  | .unary (.after _) operand => .deeper _ (operand.walk_reading m)
  | .nested inner => .deeper _ (inner.walk_reading m)
  | .cast _ operand _ _ => .deeper _ (operand.walk_reading m)
  | .nullTest operand _ =>
    .deeper _ (.cons_nil (m.leaf_reading _) (operand.walk_reading m.operand).single)
  | .distinctTest left _ right =>
    .deeper _ (.cons_nil (m.leaf_reading _)
      (.pair (left.walk_reading m.operand) (right.walk_reading m.operand)))
  | .quantified left _ _ right =>
    .deeper _ (.cons_nil (m.leaf_reading _)
      (.pair (left.walk_reading m.operand) (right.walk_reading m.operand)))
  | .between operand _ low high =>
    .deeper _ (.cons_nil (m.leaf_reading _) (.cons (operand.walk_reading m.operand)
      (.pair (low.walk_reading .mention) (high.walk_reading .mention))))
  | .inList operand _ items =>
    .deeper _ (.cons_nil (m.leaf_reading _) (.pair (operand.walk_reading m.operand)
      (walkExprs_reading .mention items)))
  | .inQuery operand _ query => by
    have walked := (operand.walk_reading m.operand).pair (.query query)
    rw [List.append_nil] at walked
    exact .deeper _ walked
  | .pattern kind operand _ _ against _ => by
    refine .deeper _ (.cons_nil (m.leaf_reading _) (.cons_nil ?_
      (.pair (operand.walk_reading m.operand) (against.walk_reading .mention))))
    split
    · exact .unsupported [] _
    · exact .skip
  | .existsQuery _ query => .deeper _ (.query query)
  | .subquery query => .deeper _ (.query query)
  | .call _ _ arguments _ filter _ window =>
    .deeper _ (.cons (arguments.walk_reading m.operand)
      (.pair (walkOption_reading m.operand filter) (window.walk_reading m.operand)))
  | .braced call => call.walk_reading m
  | .cases operand conditions results otherwise =>
    .deeper _ (.cons (walkOption_reading m.operand operand)
      (.cons (walkExprs_reading m.operand conditions)
        (.pair (walkExprs_reading m.operand results) (walkOption_reading m.operand otherwise))))
  | .trim _ what operand characters =>
    .deeper _ (.cons (operand.walk_reading m.operand)
      (.pair (walkOption_reading m.operand what) (walkExprs_reading m.operand characters)))
  | .groupingSets parts =>
    .deeper _ (.cons_nil (.unsupported [] _) (walkPieces_reading m.operand parts).single)
  | .template parts => .deeper _ (walkPieces_reading m.operand parts)
  | .raw _ => .deeper _ .skip

theorem walkExprs_reading (m : Mode) : ∀ es : List Expr,
    Reading (referencesOfExprs es) (walkExprs m es)
  | [] => .skip
  | e :: es => .pair (e.walk_reading m) (walkExprs_reading m es)

theorem walkOption_reading (m : Mode) : ∀ e : Option Expr,
    Reading (referencesOfOption e) (walkOption m e)
  | none => .skip
  | some e => e.walk_reading m

theorem walkPieces_reading (m : Mode) : ∀ ps : List Piece,
    Reading (referencesOfPieces ps) (walkPieces m ps)
  | [] => .skip
  | .expr e :: ps => .pair (e.walk_reading m) (walkPieces_reading m ps)
  | .text _ :: ps => walkPieces_reading m ps
  | .query _ :: ps => walkPieces_reading m ps
  | .table _ :: ps => walkPieces_reading m ps

theorem Args.walk_reading (m : Mode) : ∀ as : Args, Reading as.references (as.walk m)
  | .none => .skip
  | .query q => .query q
  | .list _ items _ => walkArgs_reading m items

theorem walkArgs_reading (m : Mode) : ∀ as : List Arg,
    Reading (referencesOfArgs as) (walkArgs m as)
  | [] => .skip
  | a :: as => .pair (a.walk_reading m) (walkArgs_reading m as)

theorem Arg.walk_reading (m : Mode) : ∀ a : Arg, Reading a.references (a.walk m)
  | .value e => e.walk_reading m
  | .wildcard _ => .skip
  | .named _ _ (.value e) => e.walk_reading m
  | .named _ _ (.wildcard _) => .skip
  | .named _ _ (.named _ _ _) => .skip
  | .named _ _ (.keyed _ _ _) => .skip
  | .keyed _ _ _ => .skip

theorem Window.walk_reading (m : Mode) : ∀ w : Window, Reading w.references (w.walk m)
  | .none => .skip
  | .named _ => .skip
  | .spec _ partition order frame => by
    have frames : Reading (referencesOfPieces frame) (if frame.isEmpty then .skip
        else .unsupported "window frames (ROWS / RANGE) are outside the supported grammar") := by
      cases frame with
      | nil => exact .skip
      | cons p ps => exact .unsupported _ _
    rw [Window.references, Window.walk]
    exact .cons (walkExprs_reading m partition) ((walkKeys_reading m order).pair frames)

theorem walkKeys_reading (m : Mode) : ∀ ks : List OrderKey,
    Reading (referencesOfKeys ks) (walkKeys m ks)
  | [] => .skip
  | k :: ks => .pair (k.walk_reading m) (walkKeys_reading m ks)

theorem OrderKey.walk_reading (m : Mode) : ∀ k : OrderKey, Reading k.references (k.walk m)
  | .mk expr _ => expr.walk_reading m

end

/-- If the walk of an expression gives no notice, not even one that was given before, then every
column that the expression refers to has an entry, under its table and its name. -/
theorem Expr.references_recorded {e : Expr} {m : Mode} {r : Reach} {s : Scope}
    (silent : (e.walk m r (s.withNotices [])).footprint.notices = []) {c : ColumnRef}
    (hc : c ∈ e.references) :
    ∃ d ∈ (e.walk m r s).footprint.columns,
      d.hasKey ((c.qualifier.map (s.resolve r.outer)).getD "") c.column := by
  have reading := e.walk_reading m
  obtain ⟨ts, composed⟩ := reading.composed
  obtain ⟨given, same⟩ := composed.exists_withNotices_eq r s []
  have plays := reading.plays r (s.withNotices []) silent c hc
  rw [same] at plays
  obtain ⟨d, hd, key, -⟩ := plays
  exact ⟨d, hd, ColumnUse.hasKey_eq_true_iff.2 key⟩

/-- In reach of `users u`, the comparison `lower(u.name) = x` records `users.name`. -/
theorem Expr.references_recorded_sample :
    let name : Expr := .column [⟨"u", none⟩] ⟨"name", none⟩
    let lower : Expr := .call [⟨"lower", none⟩] .none (.list "" [.value name] []) [] none "" .none
    let e : Expr := .binary lower (.compare .eq) (.column [] ⟨"x", none⟩)
    let r : Reach := ⟨[], 0, 9⟩
    let s := (Scope.start .select "").register ⟨"users", some "u", none⟩
    (e.walk .predicate r (s.withNotices [])).footprint.notices = [] ∧
      ⟨some "u", "name"⟩ ∈ e.references ∧ s.resolve [] "u" = "users" ∧
      ∃ d ∈ (e.walk .predicate r s).footprint.columns, d.hasKey (s.resolve [] "u") "name" := by
  intro name lower e r s
  have silent : (e.walk .predicate r (s.withNotices [])).footprint.notices = [] := by
    decide +kernel
  have listed : ⟨some "u", "name"⟩ ∈ e.references := by decide +kernel
  exact ⟨silent, listed, by decide +kernel, references_recorded silent listed⟩

/-- The column `a` is lost without a notice in `{k: a}`, in `f(x ORDER BY a)` and in
`f(x) WITHIN GROUP (ORDER BY a)`, and without a new one where one like it has been given before. In
another spelling it has no entry of its own. -/
theorem Expr.not_all_references_recorded :
    let a : Expr := .column [] ⟨"a", none⟩
    let x : Expr := .column [] ⟨"x", none⟩
    let dictionary : Expr := .raw [.text "\x7bk: ", .expr a, .text "\x7d"]
    let ordered : Expr := .call [⟨"f", none⟩] .none
      (.list "" [.value x] [.text " ORDER BY ", .expr a]) [] none "" .none
    let within : Expr := .call [⟨"f", none⟩] .none (.list "" [.value x] []) [.mk a []] none "" .none
    let spelled : Expr := .binary (.column [] ⟨"A", none⟩) (.other "+") a
    let s := Scope.start .select ""
    (∀ e ∈ [dictionary, ordered, within, spelled],
      (e.walk .mention ⟨[], 0, 9⟩ s).footprint.notices = s.footprint.notices ∧
      "a" ∉ (e.walk .mention ⟨[], 0, 9⟩ s).footprint.columns.map ColumnUse.name) ∧
    let t := s.tooDeep "expression" 9
    (a.walk .mention ⟨[], 9, 9⟩ t).footprint.notices = t.footprint.notices ∧
      "a" ∉ (a.walk .mention ⟨[], 9, 9⟩ t).footprint.columns.map ColumnUse.name := by
  decide +kernel

end Sql

end SqlFootprint
