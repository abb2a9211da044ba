import Tenancy.Proofs.Recording
import Tenancy.Proofs.Stamps

/-!
# Updates one after another

What is left of updates that run alone, one after another, and succeed. An account is at the stage
of its last update, and a stage with a column has the instant of the last update that moved the
account there, or else the one that it had at first. So an account depends on its own updates only,
whatever became of others in between.
-/

namespace Tenancy.Proofs

open Function Table Tracker

/-- Two stores have the same columns and rows and have counted as many of them. -/
structure SameRows (m n : ProgressMemory) : Prop where
  rows : n.rows = m.rows
  schema : n.schema = m.schema
  mutations : n.mutations = m.mutations

lemma SameRows.trans {m n o : ProgressMemory} (h : SameRows m n) (h' : SameRows n o) :
    SameRows m o :=
  ⟨h'.rows.trans h.rows, h'.schema.trans h.schema, h'.mutations.trans h.mutations⟩

section Solo

variable {l l' : Ledger ProgressMemory} {f : Standing Update (Except Error StatusChange)}
  {u u' u'' : Update} {i now : Nat} {v : UpdateTurn ProgressMemory} {c : StatusChange}

lemma Undisturbed.sameRows (h : Undisturbed l l') : SameRows l.store l'.store :=
  ⟨h.rows, h.schema, h.mutations⟩

lemma Underway.step (h : Underway l f) (hi : f i = some (.running u))
    (hv : Tracker.step now l u = some v) :
    Underway v.shared (update f i (some (Stand.after now u v.next))) := by
  have hnone : Explained (calm l)
      (([] : List (Nat × Update × Except Error StatusChange)).filterMap succeeded?) l.store :=
    ⟨⟨calm l, rfl, ⟨rfl, rfl, rfl, rfl⟩, rfl, rfl⟩, rfl, by simp⟩
  exact ((underway_kept (calm l)).step ⟨h, hnone⟩ hi hv trivial).1

lemma Course.sameRows (h : Course l u l' (.running u')) : SameRows l.store l'.store := by
  cases h with
  | proceeds hl _ _ => exact hl.sameRows
  | begins limit _ => exact ⟨rfl, rfl, rfl⟩

/-- Only one update is under way. -/
def lone (u : Update) : Standing Update (Except Error StatusChange) :=
  update (fun _ => none) 0 (some (.running u))

/-- What is known of an update that runs alone, until it ends. -/
structure Solo (l : Ledger ProgressMemory) (u : Update) (l' : Ledger ProgressMemory)
    (u' : Update) : Prop where
  same : { u' with phase := .arriving } = u
  clock : l'.world.clock = l.world.clock
  store : SameRows l.store l'.store
  stamped : ∀ t c x, u'.phase = .committing t c x → x = u.instant.getD l.world.clock.now
  underway : Underway l' (lone u')

lemma solo_start (hq : Manned l.locks fun _ : Nat => none) (hu : u.phase = .arriving) :
    Solo l u l u := by
  have hlone : ∀ {i w}, lone u i = some (.running w) → w = u := by
    intro i w hi
    by_cases h0 : i = 0
    · rw [h0, lone, update_self] at hi
      cases hi
      rfl
    · rw [lone, update_of_ne h0] at hi
      cases hi
  have hnumbers : numbers (lone u) = fun _ => none := by
    rw [lone, numbers_update, numberOf, hu]
    exact update_eq_self_iff.mpr rfl
  refine ⟨by rw [← hu], rfl, ⟨rfl, rfl, rfl⟩, by simp [hu], ?_, ?_, ?_⟩
  · exact Planned.update (fun _ _ hi => by cases hi) 0 (by simp)
  · rwa [hnumbers]
  · intro i w hi
    rw [hlone hi, Ready, hu]
    trivial

lemma Solo.turn (h : Solo l u l' u') (hv : Tracker.step now l' u' = some v)
    (hn : v.next = .running u'') : Solo l u v.shared u'' := by
  have hready : Ready l' u' := h.underway.ready 0 u' (update_self 0 _ _)
  have hcourse := course_of_step hready hv
  have hstamp := stampTurn_of_step hv
  have hunderway := h.underway.step (update_self 0 _ _) hv
  rw [hn] at hcourse hstamp hunderway
  have hsame : { u'' with phase := .arriving } = u := (turn_arriving (.inl hv) hn).trans h.same
  refine ⟨hsame, hstamp.clock.trans h.clock, h.store.trans hcourse.sameRows, ?_, ?_⟩
  · intro t c x hp
    obtain ⟨-, -, hx, -⟩ := hstamp.written hp
    rw [hx, h.clock, ← hsame]
  · rwa [lone, update_idem] at hunderway

/-- What an update leaves that succeeds: it answers with the change that its row calls for, and it
has moved the row with the instant that it was given or that the clock showed. -/
structure Records (l : Ledger ProgressMemory) (u : Update) (c : StatusChange)
    (l' : Ledger ProgressMemory) : Prop where
  change : c = changeOf (l.store.rows.get? u.account) u.stage
  rows : l'.store.rows = (effect l.store u (u.instant.getD l.world.clock.now)).rows
  schema : l'.store.schema = l.store.schema
  mutations : l'.store.mutations = l.store.mutations + if c = .unchanged then 0 else 1
  quiet : Manned l'.locks fun _ : Nat => none

lemma Course.succeeds {s : Ledger ProgressMemory} (hr : Ready l' u')
    (h : Course l' u' s (.ended (.ok c))) {i : Instant}
    (hi : ∀ t c x, u'.phase = .committing t c x → x = i) :
    c = changeOf (l'.store.rows.get? u'.account) u'.stage ∧
      s.store.rows = (effect l'.store u' i).rows ∧ s.store.schema = l'.store.schema ∧
      s.store.mutations = l'.store.mutations + if c = .unchanged then 0 else 1 := by
  cases h with
  | keeps hp =>
    have hc : changeOf (l'.store.rows.get? u'.account) u'.stage = .unchanged := by
      rw [Ready, hp] at hr
      exact hr.2
    rw [effect, if_pos hc, drop_store, hc]
    exact ⟨rfl, rfl, rfl, rfl⟩
  | @commits t c x hp =>
    obtain ⟨hstore, hc, hne, -, hcount, -, -, -⟩ := commit_cases hr hp
    rw [hi t c x hp] at hstore
    rw [hcount, if_neg hne, hstore]
    exact ⟨hc, rfl, effect_schema _ _ _, rfl⟩

lemma Solo.records (h : Solo l u l' u') (hv : Tracker.step now l' u' = some v)
    (hn : v.next = .ended (.ok c)) : Records l u c v.shared := by
  have hready : Ready l' u' := h.underway.ready 0 u' (update_self 0 _ _)
  have hcourse := course_of_step hready hv
  have hunderway := h.underway.step (update_self 0 _ _) hv
  rw [hn] at hcourse hunderway
  obtain ⟨hc, hrows, hschema, hcount⟩ := hcourse.succeeds hready h.stamped
  have hquiet : numbers (update (lone u') 0 (some (Stand.after now u' (.ended (.ok c))))) =
      fun _ => none := by
    rw [lone, update_idem, numbers_update]
    exact update_eq_self_iff.mpr rfl
  have heffect := effect_rows h.store.rows h.store.schema u' (u.instant.getD l.world.clock.now)
  obtain rfl := h.same
  refine ⟨?_, hrows.trans heffect, hschema.trans h.store.schema, ?_, ?_⟩
  · rwa [h.store.rows] at hc
  · rwa [h.store.mutations] at hcount
  · have hmanned := hunderway.manned
    rwa [hquiet] at hmanned

/-- An update that runs alone and succeeds records its visit, however long its transaction takes to
begin. -/
lemma alone_records {e : Finished (Ledger ProgressMemory) (Except Error StatusChange)}
    (hq : Manned l.locks fun _ : Nat => none) (hu : u.phase = .arriving)
    (h : Tracker.machine.alone now l u = some e) (he : e.result = .ok c) :
    Records l u c e.shared := by
  have hturn : ∀ now l' u' v u'', Solo l u l' u' →
      Tracker.machine.step now l' u' = some v ∨ Tracker.machine.expire now l' u' = some v →
      v.next = .running u'' → Solo l u v.shared u'' := by
    intro now l' u' v u'' hsolo hv hn
    rcases hv with hv | hv
    · exact hsolo.turn hv hn
    · obtain ⟨error, hend, -⟩ := expire_eq hv
      rw [hn] at hend
      cases hend
  obtain ⟨now, l', u', v, hsolo, hv, hshared, hn⟩ := aloneFrom_last hturn h (solo_start hq hu)
  rw [he] at hn
  rw [← hshared]
  rcases hv with hv | hv
  · exact hsolo.records hv hn
  · obtain ⟨error, hend, -⟩ := expire_eq hv
    rw [hn] at hend
    cases hend

end Solo

/-- An update that has succeeded: the visit of its account, and what it has answered. -/
structure Success where
  account : AccountId
  visit : StageVisit
  change : StatusChange
  deriving DecidableEq

section Left

variable {schema : ProgressSchema} {a : AccountId} {before row : Option ProgressRecord}
  {es : List Success} {e : Success} {s : Stage} {v : StageVisit}

/-- The change of an account that was at a stage, or new. -/
def changeFrom (previous : Option Stage) (stage : Stage) : StatusChange :=
  match previous with
  | none => .created
  | some s => if s = stage then .unchanged else .updated s

/-- The stage at which the updates of an account leave it. -/
def stageAfter (before : Option ProgressRecord) (es : List Success) : Option Stage :=
  (es.getLast?.map fun e => e.visit.stage).or (before.map ProgressRecord.status)

/-- The instant of the last update that moved its account to a stage. -/
def lastMove (s : Stage) (es : List Success) : Option Instant :=
  (es.filter fun e => e.change ≠ .unchanged ∧ e.visit.stage = s).getLast?.map fun e =>
    e.visit.instant

/-- The instants that the updates of an account leave. -/
def entriesAfter (schema : ProgressSchema) (before : Option ProgressRecord) (es : List Success) :
    StageMap Instant :=
  fun s =>
    if (schema.column? s).isSome then (lastMove s es).or (before.bind fun r => r.entered s)
    else none

/-- The row that the updates of an account leave. -/
def rowAfter (schema : ProgressSchema) (a : AccountId) (before : Option ProgressRecord)
    (es : List Success) : Option ProgressRecord :=
  (stageAfter before es).map fun stage => ⟨a, entriesAfter schema before es, stage⟩

lemma changeOf_eq (row : Option ProgressRecord) (stage : Stage) :
    changeOf row stage = changeFrom (row.map ProgressRecord.status) stage := by
  cases row <;> rfl

lemma visit_of_changed (h : changeOf row v.stage ≠ .unchanged) :
    visit schema a row v = .move schema a row v.stage v.instant := by
  cases row with
  | none => rfl
  | some r =>
    have hs : r.status ≠ v.stage := by
      intro hs
      exact h (if_pos hs)
    exact if_neg hs

lemma visit_of_unchanged (schema : ProgressSchema) (a : AccountId)
    (h : changeOf row v.stage = .unchanged) :
    some (visit schema a row v) = row ∧ row.map ProgressRecord.status = some v.stage := by
  cases row with
  | none => cases h
  | some r =>
    have hs : r.status = v.stage := by
      by_contra hs
      rw [changeOf, if_neg hs] at h
      cases h
    exact ⟨congrArg some (if_pos hs), congrArg some hs⟩

lemma status_rowAfter :
    (rowAfter schema a before es).map ProgressRecord.status = stageAfter before es := by
  unfold rowAfter
  cases stageAfter before es <;> rfl

lemma stageAfter_concat (before : Option ProgressRecord) (es : List Success) (e : Success) :
    stageAfter before (es ++ [e]) = some e.visit.stage := by
  rw [stageAfter, List.getLast?_concat]
  rfl

lemma lastMove_concat (s : Stage) (es : List Success) (e : Success) :
    lastMove s (es ++ [e]) =
      if e.change ≠ .unchanged ∧ e.visit.stage = s then some e.visit.instant
      else lastMove s es := by
  unfold lastMove
  by_cases h : e.change ≠ .unchanged ∧ e.visit.stage = s
  · rw [if_pos h, List.filter_append, List.filter_cons_of_pos (by simpa using h), List.filter_nil,
      List.getLast?_concat]
    rfl
  · rw [if_neg h, List.filter_append, List.filter_cons_of_neg (by simpa using h), List.filter_nil,
      List.append_nil]

lemma entriesAfter_concat (s : Stage) :
    entriesAfter schema before (es ++ [e]) s =
      if e.change ≠ .unchanged ∧ s = e.visit.stage ∧ (schema.column? s).isSome then
        some e.visit.instant
      else entriesAfter schema before es s := by
  rw [entriesAfter, entriesAfter, lastMove_concat]
  by_cases hcolumn : (schema.column? s).isSome
  · simp only [hcolumn, if_true, and_true, eq_comm (a := s)]
    split <;> rfl
  · simp only [hcolumn, Bool.false_eq_true, if_false, and_false]

/-- The instants of the row that updates leave, also where there is none. -/
lemma bind_rowAfter (s : Stage) :
    ((rowAfter schema a before es).bind fun r => r.entered s) =
      entriesAfter schema before es s := by
  unfold rowAfter
  cases hstage : stageAfter before es with
  | some stage => rfl
  | none =>
    obtain ⟨hnone, hbefore⟩ := Option.or_eq_none_iff.mp hstage
    rw [Option.map_eq_none_iff] at hnone hbefore
    rw [List.getLast?_eq_none_iff.mp hnone, hbefore, entriesAfter]
    exact (ite_self none).symm

lemma rowAfter_nil (h : ∀ r ∈ before, Fitting schema a r) :
    rowAfter schema a before [] = before := by
  cases before with
  | none => rfl
  | some r =>
    have hr := h r rfl
    have hentered : entriesAfter schema (some r) [] = r.entered := by
      funext s
      rw [entriesAfter]
      split
      · rfl
      · rename_i hc
        by_contra hne
        exact hc (hr.entered s (Option.isSome_iff_ne_none.mpr (Ne.symm hne)))
    rw [rowAfter, hentered, ← hr.account]
    rfl

/-- What one more update of an account leaves, if it answers with the change that it makes. -/
lemma rowAfter_concat
    (he : e.change = changeOf (rowAfter schema a before es) e.visit.stage) :
    rowAfter schema a before (es ++ [e]) =
      some (visit schema a (rowAfter schema a before es) e.visit) := by
  by_cases hc : e.change = .unchanged
  · obtain ⟨hsame, hstatus⟩ := visit_of_unchanged schema a (he ▸ hc)
    rw [status_rowAfter] at hstatus
    have hentries : entriesAfter schema before (es ++ [e]) = entriesAfter schema before es := by
      funext s
      rw [entriesAfter_concat, if_neg fun h => h.1 hc]
    rw [hsame, rowAfter, rowAfter, stageAfter_concat, hstatus, hentries]
  · have hown : ∀ r ∈ rowAfter schema a before es, r.account = a := by
      intro r hr
      obtain ⟨stage, -, rfl⟩ := Option.map_eq_some_iff.mp hr
      rfl
    rw [visit_of_changed (he ▸ hc), move_eq hown, rowAfter, stageAfter_concat, Option.map_some]
    congr 2
    funext s
    rw [bind_rowAfter, entriesAfter_concat]
    by_cases hs : s = e.visit.stage
    · subst hs
      simp only [ne_eq, hc, not_false_eq_true, true_and]
    · simp only [hs, false_and, and_false]

end Left

/-- The updates of one account. -/
def callsOf (a : AccountId) (es : List Success) : List Success :=
  es.filter fun e => e.account = a

/-- Updates that run alone, one after another, and succeed. Between them the clock moves, and the
store may be told to begin its transactions faster or slower. -/
inductive Successive (l : Ledger ProgressMemory) :
    List Success → Ledger ProgressMemory → Prop where
  | nil : Successive l [] l
  | between {es l' l''} : Successive l es l' → Undisturbed l' l'' → Successive l es l''
  | update {es l' e c} (now : Nat) (u : Update) : Successive l es l' → u.phase = .arriving →
      Tracker.machine.alone now l' u = some e → e.result = .ok c →
      Successive l (es ++ [⟨u.account, ⟨u.stage, u.instant.getD l'.world.clock.now⟩, c⟩]) e.shared

section Sequences

variable {m : ProgressMemory} {l l' l'' : Ledger ProgressMemory} {u : Update} {i : Instant}
  {c : StatusChange} {es fs : List Success} {a : AccountId}

lemma callsOf_concat_self (es : List Success) (e : Success) :
    callsOf e.account (es ++ [e]) = callsOf e.account es ++ [e] := by
  simp [callsOf, List.filter_append]

lemma callsOf_concat_of_ne {e : Success} (h : e.account ≠ a) (es : List Success) :
    callsOf a (es ++ [e]) = callsOf a es := by
  simp [callsOf, List.filter_append, h]

lemma get?_effect (m : ProgressMemory) (u : Update) (i : Instant) (a : AccountId) :
    (effect m u i).rows.get? a = if a = u.account then
      some (visit m.schema u.account (m.rows.get? u.account) ⟨u.stage, i⟩)
    else m.rows.get? a := by
  by_cases hc : changeOf (m.rows.get? u.account) u.stage = .unchanged
  · rw [effect, if_pos hc, (visit_of_unchanged (v := ⟨u.stage, i⟩) m.schema u.account hc).1]
    split
    · rename_i ha
      rw [ha]
    · rfl
  · rw [effect, if_neg hc, visit_of_changed (v := ⟨u.stage, i⟩) hc]
    exact get?_insert _ _ _ _

lemma stocked_effect (h : Stocked (Fitting m.schema) m.rows) :
    Stocked (Fitting m.schema) (effect m u i).rows := by
  unfold effect
  split
  · exact h
  · exact h.insert (fitting_move fun r hr => h.fits u.account r (mem_of_get? hr))

/-- What updates that succeeded one after another have left, and what they have answered. -/
structure Accounted (l : Ledger ProgressMemory) (es : List Success)
    (l' : Ledger ProgressMemory) : Prop where
  /-- The row of an account depends on its first row and on its own updates. -/
  row : ∀ a, l'.store.rows.get? a =
    rowAfter l.store.schema a (l.store.rows.get? a) (callsOf a es)
  /-- An update answers with the change from the stage at which the earlier updates of its account
  have left it. -/
  change : ∀ before e after, es = before ++ e :: after → e.change =
    changeFrom (stageAfter (l.store.rows.get? e.account) (callsOf e.account before)) e.visit.stage
  mutations : l'.store.mutations = l.store.mutations + es.countP fun e => e.change ≠ .unchanged

/-- What holds between updates. -/
structure Passed (l : Ledger ProgressMemory) (es : List Success) (l' : Ledger ProgressMemory) : Prop
    extends Accounted l es l' where
  quiet : Manned l'.locks fun _ : Nat => none
  schema : l'.store.schema = l.store.schema
  stocked : Stocked (Fitting l.store.schema) l'.store.rows
  attended : ∀ a, l'.store.rows.get? a =
    attend l.store.schema a (l.store.rows.get? a) ((callsOf a es).map Success.visit)

lemma passed_nil (hfree : l.locks.lines = [])
    (hrows : Stocked (Fitting l.store.schema) l.store.rows) : Passed l [] l where
  row a := (rowAfter_nil fun r hr => hrows.fits a r (mem_of_get? hr)).symm
  change before e after h := by simp at h
  mutations := rfl
  quiet := manned_of_lines_nil hfree fun _ => rfl
  schema := rfl
  stocked := hrows
  attended a := rfl

lemma Passed.between (h : Passed l es l') (hl : Undisturbed l' l'') : Passed l es l'' where
  row := by
    rw [hl.rows]
    exact h.row
  change := h.change
  mutations := hl.mutations.trans h.mutations
  quiet := by
    rw [hl.locks]
    exact h.quiet
  schema := hl.schema.trans h.schema
  stocked := by
    rw [hl.rows]
    exact h.stocked
  attended := by
    rw [hl.rows]
    exact h.attended

lemma Passed.update (h : Passed l es l') (hu : Records l' u c l'') :
    Passed l (es ++ [⟨u.account, ⟨u.stage, u.instant.getD l'.world.clock.now⟩, c⟩]) l'' := by
  let e : Success := ⟨u.account, ⟨u.stage, u.instant.getD l'.world.clock.now⟩, c⟩
  have hget : ∀ a, l''.store.rows.get? a = if a = u.account then
      some (visit l.store.schema u.account (l'.store.rows.get? u.account) e.visit)
      else l'.store.rows.get? a := by
    intro a
    rw [hu.rows, get?_effect, h.schema]
  have hchange : e.change = changeOf (l'.store.rows.get? u.account) u.stage := hu.change
  refine ⟨⟨?_, ?_, ?_⟩, hu.quiet, hu.schema.trans h.schema, ?_, ?_⟩
  · intro a
    rw [hget]
    split
    · rename_i ha
      subst ha
      rw [h.row] at hchange ⊢
      rw [callsOf_concat_self es e]
      exact (rowAfter_concat hchange).symm
    · rename_i ha
      rw [callsOf_concat_of_ne (Ne.symm ha), h.row]
  · intro before e' after hsplit
    rcases List.eq_nil_or_concat after with rfl | ⟨after, last, rfl⟩
    · obtain ⟨rfl, hlast⟩ := List.append_inj' hsplit rfl
      obtain rfl : e = e' := (List.cons.inj hlast).1
      rw [hchange, h.row, changeOf_eq, status_rowAfter]
    · rw [List.concat_eq_append, ← List.cons_append, ← List.append_assoc] at hsplit
      exact h.change before e' after (List.append_inj' hsplit rfl).1
  · rw [hu.mutations, h.mutations, List.countP_append, Nat.add_assoc]
    congr 2
    by_cases hc : c = .unchanged
    · simp [hc]
    · simp [hc]
  · rw [hu.rows, ← h.schema]
    exact stocked_effect (h.schema ▸ h.stocked)
  · intro a
    rw [hget]
    split
    · rename_i ha
      subst ha
      rw [callsOf_concat_self es e, h.attended, List.map_append, attend, attend, List.foldl_append]
      rfl
    · rename_i ha
      rw [callsOf_concat_of_ne (Ne.symm ha), h.attended]

lemma Successive.passed (h : Successive l es l') (hfree : l.locks.lines = [])
    (hrows : Stocked (Fitting l.store.schema) l.store.rows) : Passed l es l' := by
  induction h with
  | nil => exact passed_nil hfree hrows
  | between _ hl ih => exact ih.between hl
  | update now u _ hu halone hend ih => exact ih.update (alone_records ih.quiet hu halone hend)

/-- Updates that succeed one after another leave each account as its own updates leave it, and
answer and count accordingly. So what updates leave that bring each account to the same stages at
the same instants is the same, in whatever order the accounts take turns. -/
theorem rows_after_updates (h : Successive l es l') (hfree : l.locks.lines = [])
    (hrows : Stocked (Fitting l.store.schema) l.store.rows) :
    Accounted l es l' ∧ ∀ fs l'', Successive l fs l'' →
      (∀ a, (callsOf a fs).map Success.visit = (callsOf a es).map Success.visit) →
      RowStore.row l''.store = RowStore.row l'.store ∧
        RowStore.rows l''.store = RowStore.rows l'.store := by
  have hpassed := h.passed hfree hrows
  refine ⟨hpassed.toAccounted, ?_⟩
  intro fs l'' hfs hsame
  have hother := hfs.passed hfree hrows
  have hget : ∀ a, l''.store.rows.get? a = l'.store.rows.get? a := by
    intro a
    rw [hother.attended, hsame, ← hpassed.attended]
  have hrow : rowsOf l''.store.rows = rowsOf l'.store.rows := by
    funext a
    rw [rowsOf, rowsOf, overlay, overlay, hget]
  refine ⟨?_, ?_⟩
  · rw [row_progressMemory, row_progressMemory, hrow]
  · have hlist := listing_rowsOf hother.stocked
    rw [hrow] at hlist
    exact congrArg Except.ok (hlist.unique (listing_rowsOf hpassed.stocked))

/-- Updates one after another on a ledger on which nothing disturbs them. -/
def settleAll (l : Ledger ProgressMemory) : List Update → List Success × Ledger ProgressMemory
  | [] => ([], l)
  | u :: us =>
    let (es, l') := settleAll (settled l u) us
    (⟨u.account, ⟨u.stage, u.instant.getD l.world.clock.now⟩,
      changeOf (l.store.rows.get? u.account) u.stage⟩ :: es, l')

lemma Successive.settleAll (h : Successive l es l') (hq : Quiet l') {us : List Update}
    (hus : ∀ u ∈ us, u.phase = .arriving) :
    Successive l (es ++ (settleAll l' us).1) (settleAll l' us).2 := by
  induction us generalizing es l' with
  | nil => rwa [Proofs.settleAll, List.append_nil]
  | cons u us ih =>
    have hu := hus u List.mem_cons_self
    obtain ⟨said, halone⟩ := alone_quiet hq hu 0
    have hrest := ih (h.update 0 u hu halone rfl) (hq.settled u)
      fun w hw => hus w (List.mem_cons_of_mem u hw)
    rwa [List.append_assoc] at hrest

end Sequences

/-- An account leaves a stage, comes back to it, stays there and goes on to a stage without a
column. -/
def returning : List Success :=
  [⟨⟨7⟩, ⟨.fetchStarted, .epoch⟩, .created⟩,
    ⟨⟨7⟩, ⟨.fetchCompleted, leapSecond⟩, .updated .fetchStarted⟩,
    ⟨⟨7⟩, ⟨.fetchStarted, .last⟩, .updated .fetchCompleted⟩,
    ⟨⟨7⟩, ⟨.fetchStarted, .epoch⟩, .unchanged⟩,
    ⟨⟨7⟩, ⟨.precomputeStarted, .epoch⟩, .updated .fetchStarted⟩]

/-- Another account begins. -/
def beginning : Success :=
  ⟨⟨9⟩, ⟨.fetchStarted, .last⟩, .created⟩

/-- The update of a visit whose instant is given unless the clock shows it. -/
def given (e : Success) : Update :=
  .new .plain e.account e.visit.stage
    (if e.visit.instant = .epoch then none else some e.visit.instant)

lemma successive_returning {es : List Success}
    (h : es = beginning :: returning ∨ es = returning ++ [beginning]) :
    ∃ l', Successive (emptyLedger .current ⟨.epoch⟩) es l' := by
  have hquiet : Quiet (emptyLedger .current ⟨.epoch⟩) := ⟨rfl, rfl, rfl, rfl⟩
  have hsettled : Successive (emptyLedger .current ⟨.epoch⟩)
      (settleAll (emptyLedger .current ⟨.epoch⟩) (es.map given)).1 _ :=
    Successive.nil.settleAll hquiet (by simp [given, Update.new])
  have hes : (settleAll (emptyLedger .current ⟨.epoch⟩) (es.map given)).1 = es := by
    rcases h with rfl | rfl
    · decide +kernel
    · decide +kernel
  rw [hes] at hsettled
  exact ⟨_, hsettled⟩

theorem rows_after_updates_returning :
    ∃ l' l'' r, Successive (emptyLedger .current ⟨.epoch⟩) (beginning :: returning) l' ∧
      Successive (emptyLedger .current ⟨.epoch⟩) (returning ++ [beginning]) l'' ∧
      l'.store.rows.get? ⟨7⟩ = some r ∧ r.status = .precomputeStarted ∧
      r.entered .fetchStarted = some .last ∧ r.entered .fetchCompleted = some leapSecond ∧
      r.entered .precomputeStarted = none ∧ l'.store.mutations = 5 ∧
      RowStore.rows l''.store = RowStore.rows l'.store := by
  obtain ⟨l', hfirst⟩ := successive_returning (.inl rfl)
  obtain ⟨l'', hlast⟩ := successive_returning (.inr rfl)
  obtain ⟨haccounted, hsame⟩ := rows_after_updates hfirst rfl stocked_nil
  have hvisits : ∀ a, (callsOf a (returning ++ [beginning])).map Success.visit =
      (callsOf a (beginning :: returning)).map Success.visit := by
    intro a
    by_cases ha : beginning.account = a
    · subst ha
      rfl
    · have hcons : callsOf a (beginning :: returning) = callsOf a returning :=
        List.filter_cons_of_neg (by simpa using ha)
      rw [callsOf_concat_of_ne ha, hcons]
  exact ⟨l', l'', _, hfirst, hlast, haccounted.row ⟨7⟩, rfl, rfl, rfl, rfl, haccounted.mutations,
    (hsame _ _ hlast hvisits).2⟩

end Tenancy.Proofs
