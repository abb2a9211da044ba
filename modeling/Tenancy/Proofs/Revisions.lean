import Tenancy.Proofs.Agreement
import Tenancy.Proofs.Columns

/-!
# Columns that are revised

A row that was written under one set of columns is read under another one: each instant comes back
for the stage that has its column there. Or it is moved under the other one and then read as before.
The instants in columns that both sets have are kept then. Those in columns that the other set does
not have are lost with the first write, since a row is written from what was read of it.
-/

namespace Tenancy.Proofs

open Table

variable {schema schema' : ProgressSchema} {a : AccountId} {q r : ProgressRecord} {s t : Stage}
  {i : Instant} {column : String}

/-- What is read of the row of a record under other columns than those with which it was written.
The instant in a column now belongs to the stage that has this column now. -/
structure Reread (schema schema' : ProgressSchema) (a : AccountId) (r q : ProgressRecord) :
    Prop where
  account : q.account = a
  status : q.status = r.status
  shared : ∀ s t column, schema.column? s = some column → schema'.column? t = some column →
    q.entered t = r.entered s
  absent : ∀ t, (∀ s column, schema'.column? t = some column → schema.column? s ≠ some column) →
    q.entered t = none

lemma reread_rereadUnder (hd : Distinct schema) (a : AccountId) (r : ProgressRecord) :
    Reread schema schema' a r (rereadUnder schema schema' a r) := by
  refine ⟨rfl, rfl, ?_, ?_⟩
  · intro s t column hs ht
    change (schema'.column? t).bind _ = _
    rw [ht, Option.bind_some, stageOf?_of_column? hd.nodup hs, Option.bind_some]
  · intro t habsent
    change (schema'.column? t).bind _ = _
    cases ht : schema'.column? t with
    | none => rfl
    | some column =>
      have hstage : schema.stageOf? column = none := by
        by_contra hne
        obtain ⟨s, hs⟩ := Option.ne_none_iff_exists'.mp hne
        exact habsent s column ht (column?_of_stageOf? hs)
      rw [Option.bind_some, hstage, Option.bind_none]

/-- Every row is read under all other columns, whatever stages have instants and whatever columns
were renamed, exchanged, added or dropped. Its instants are those that are written, which are the
same ones if all leap seconds end minutes, and only then. -/
theorem read_under_revision (hd : Distinct schema) (hd' : Distinct schema') (a : AccountId)
    (r : ProgressRecord) :
    (∃ q, ProgressRecord.ofRowBytes schema' a (r.rowBytes schema) = .ok q ∧
      Reread schema schema' a r.written q) ∧
    (r.written = r ↔ r.Regular) := by
  have hread := ofRowBytes_rowBytes_under (a := a) hd.nodup hd'.nodup (hd.status_notMem r)
  exact ⟨⟨_, hread, reread_rereadUnder hd a r.written⟩, ProgressRecord.written_eq_self⟩

/-- Columns of fetching, and one that gets another stage in `exchanged`. -/
def filed : ProgressSchema :=
  .ofList [(.fetchStarted, "a"), (.fetchCompleted, "b"), (.consistencyStarted, "checked"),
    (.precomputeStarted, "dropped")]

/-- The columns of fetching are exchanged, one has another stage, one is dropped and one added. -/
def exchanged : ProgressSchema :=
  .ofList [(.fetchStarted, "b"), (.fetchCompleted, "a"), (.consistencyCompleted, "checked"),
    (.precomputeCompleted, "added")]

/-- The end of the last minute of 1969, with a leap second. -/
def leapSecond : Instant :=
  (Instant.ofParts? (-1) 86399 1500000000).get rfl

theorem read_under_revision_exchanged :
    let r : ProgressRecord := ⟨⟨9⟩, StageMap.ofList [(.fetchStarted, .last),
      (.fetchCompleted, leapSecond), (.precomputeStarted, .epoch), (.precomputeCompleted, .epoch)],
      .precomputeCompleted⟩
    ∃ q, ProgressRecord.ofRowBytes exchanged ⟨7⟩ (r.rowBytes filed) = .ok q ∧
      q.account = ⟨7⟩ ∧ q.status = .precomputeCompleted ∧
      q.entered .fetchStarted = some leapSecond ∧ q.entered .fetchCompleted = some .last ∧
      q.entered .consistencyCompleted = none ∧ q.entered .precomputeCompleted = none := by
  intro r
  have hfiled : Distinct filed := ⟨by decide, by decide⟩
  have hexchanged : Distinct exchanged := ⟨by decide, by decide⟩
  have hregular : r.Regular := fun s => by cases s <;> decide
  obtain ⟨⟨q, hq, h⟩, hself⟩ := read_under_revision hfiled hexchanged ⟨7⟩ r
  rw [hself.mpr hregular] at h
  refine ⟨q, hq, h.account, h.status, ?_, ?_, ?_, ?_⟩
  · exact h.shared .fetchCompleted .fetchStarted "b" rfl rfl
  · exact h.shared .fetchStarted .fetchCompleted "a" rfl rfl
  · exact h.shared .consistencyStarted .consistencyCompleted "checked" rfl rfl
  · apply h.absent
    intro s column hadded
    obtain rfl : "added" = column := Option.some.inj hadded
    cases s <;> decide

/-- A leap second within a minute is not read back under any columns that have its own. -/
theorem not_read_under_revision :
    ¬ ∀ (schema schema' : ProgressSchema) (a : AccountId) (r : ProgressRecord),
      Distinct schema → Distinct schema' →
      ∃ q, ProgressRecord.ofRowBytes schema' a (r.rowBytes schema) = .ok q ∧
        Reread schema schema' a r q := by
  intro hall
  let r : ProgressRecord := ⟨⟨7⟩, StageMap.ofList [(.fetchStarted, midMinute)], .fetchStarted⟩
  have hlegacy : Distinct .legacy := ⟨by decide, by decide⟩
  have hcurrent : Distinct .current := ⟨by decide, by decide⟩
  obtain ⟨q, hq, h⟩ := hall .legacy .current ⟨7⟩ r hlegacy hcurrent
  rw [ofRowBytes_rowBytes_under hlegacy.nodup hcurrent.nodup (hlegacy.status_notMem r)] at hq
  have hshared := h.shared .fetchStarted .fetchStarted "fetch_started" rfl rfl
  rw [← Except.ok.inj hq] at hshared
  exact absurd hshared (by decide)

lemma entered_move_self (h : (schema.column? s).isSome) (before : Option ProgressRecord) :
    (ProgressRecord.move schema a before s i).entered s = some i := by
  simp [ProgressRecord.move, h, StageMap.insert]

lemma entered_move_of_ne (h : t ≠ s) :
    (ProgressRecord.move schema a (some r) s i).entered t = r.entered t := by
  unfold ProgressRecord.move
  simp only [Option.getD_some]
  split
  · exact if_neg h
  · rfl

lemma status_move (before : Option ProgressRecord) :
    (ProgressRecord.move schema a before s i).status = s := by
  unfold ProgressRecord.move
  simp only
  split <;> rfl

/-- What is read of a row after it was moved to a stage under other columns. -/
def reviseRow (schema schema' : ProgressSchema) (a : AccountId) (q : ProgressRecord) (s : Stage)
    (i : Instant) : ProgressRecord :=
  rereadUnder schema' schema a
    (.move schema' a (some (rereadUnder schema schema' a q)) s i)

lemma written_move (before : Option ProgressRecord) :
    (ProgressRecord.move schema a before s i).written =
      .move schema a (before.map ProgressRecord.written) s i.written := by
  have hbefore : (before.getD (.new a s)).written =
      (before.map ProgressRecord.written).getD (.new a s) := by
    cases before <;> rfl
  unfold ProgressRecord.move
  rw [← hbefore]
  cases (schema.column? s).isSome with
  | false => rfl
  | true =>
    change ProgressRecord.mk _ _ _ = ProgressRecord.mk _ _ _
    congr 1
    funext t
    change (StageMap.insert _ s i t).map Instant.written = StageMap.insert _ s i.written t
    unfold StageMap.insert
    by_cases hts : t = s
    · rw [if_pos hts, if_pos hts, Option.map_some]
    · rw [if_neg hts, if_neg hts]
      rfl

lemma written_rereadUnder (q : ProgressRecord) :
    (rereadUnder schema schema' a q).written = rereadUnder schema schema' a q.written := by
  unfold rereadUnder ProgressRecord.written
  congr 1
  funext t
  rw [Option.map_bind]
  congr 1
  funext column
  exact Option.map_bind

/-- How a record of some columns differs from what it was before it was moved under others. -/
structure Revised (schema schema' : ProgressSchema) (s : Stage) (i : Instant)
    (q r : ProgressRecord) : Prop where
  account : r.account = q.account
  status : r.status = s
  moved : ∀ t column, schema.column? t = some column → schema'.column? s = some column →
    r.entered t = some i
  kept : ∀ t u column, schema.column? t = some column → schema'.column? u = some column →
    schema'.column? s ≠ some column → r.entered t = q.entered t
  lost : ∀ t column, schema.column? t = some column → (∀ u, schema'.column? u ≠ some column) →
    r.entered t = none
  bare : ∀ t, schema.column? t = none → r.entered t = none

lemma revised_reviseRow (hd : Distinct schema) (hd' : Distinct schema') (hq : Fitting schema a q)
    (s : Stage) (i : Instant) :
    Revised schema schema' s i q (reviseRow schema schema' a q s i) := by
  have hentered : ∀ t column, schema.column? t = some column →
      (reviseRow schema schema' a q s i).entered t = (schema'.stageOf? column).bind
        (ProgressRecord.move schema' a (some (rereadUnder schema schema' a q)) s i).entered := by
    intro t column ht
    change (schema.column? t).bind _ = _
    rw [ht, Option.bind_some]
  refine ⟨hq.account.symm, status_move _, ?_, ?_, ?_, ?_⟩
  · intro t column ht hs
    rw [hentered t column ht, stageOf?_of_column? hd'.nodup hs, Option.bind_some]
    exact entered_move_self (by rw [hs]; rfl) _
  · intro t u column ht hu hs
    have hne : u ≠ s := by
      rintro rfl
      exact hs hu
    rw [hentered t column ht, stageOf?_of_column? hd'.nodup hu, Option.bind_some,
      entered_move_of_ne hne]
    change (schema'.column? u).bind _ = _
    rw [hu, Option.bind_some, stageOf?_of_column? hd.nodup ht, Option.bind_some]
  · intro t column ht hnone
    have hstage : schema'.stageOf? column = none := by
      by_contra hne
      obtain ⟨u, hu⟩ := Option.ne_none_iff_exists'.mp hne
      exact hnone u (column?_of_stageOf? hu)
    rw [hentered t column ht, hstage, Option.bind_none]
  · intro t ht
    change (schema.column? t).bind _ = _
    rw [ht, Option.bind_none]

section Sessions

variable {y : Session} {service : Service Database} {d : Directory}

lemma row_of_stored (hd : Distinct schema) (hd' : Distinct schema')
    (h : get? d.progress a.bytes = some (q.rowBytes schema)) :
    RowStore.row (⟨d, schema'⟩ : Database) a = .ok (rereadUnder schema schema' a q.written) := by
  change Database.row ⟨d, schema'⟩ a = _
  unfold Database.row
  simp only [h]
  exact ofRowBytes_rowBytes_under hd.nodup hd'.nodup (hd.status_notMem q)

lemma onSession_reopen (hy : y.service = some service)
    (hf : service.world.store.directory.further = []) (now : Nat) (schema : ProgressSchema) :
    onSession y (now, .reopen schema) = some (.done,
      ⟨schema, y.start, service.world.store.directory,
        some (.new ⟨service.world.store.directory, schema⟩ y.start .standard)⟩) := by
  simp only [onSession, reopen_open hy hf schema]
  rfl

/-- The database of a session is open, and what it holds for an account is what its columns make of
a record. -/
structure Holds (schema : ProgressSchema) (a : AccountId) (q : ProgressRecord) (y : Session) :
    Prop where
  fits : Fitting schema a q
  stored : ∃ service, y.service = some service ∧ service.world.store.directory.further = [] ∧
    get? service.world.store.directory.progress a.bytes = some (q.rowBytes schema)

/-- The database is opened with other columns, an account is moved, and its row is read when the
database has its first columns again. -/
def revision (now : Nat → Nat) (schema schema' : ProgressSchema) (request : Request)
    (a : AccountId) (s : Stage) (instant : Option Instant) : List (Nat × Operation) :=
  [(now 0, .reopen schema'), (now 1, .ask (.update request a s instant)), (now 2, .reopen schema),
    (now 3, .ask (.row a))]

lemma run_moved (hd : Distinct schema) (hd' : Distinct schema')
    (h : get? d.progress a.bytes = some (q.rowBytes schema)) (hs : q.status ≠ s) (start : Instant)
    (now : Nat) (request : Request) (instant : Option Instant) :
    let r := ProgressRecord.move schema' a (some (rereadUnder schema schema' a q.written)) s
      (instant.getD start)
    ∃ moved : Service Database,
      (Question.update request a s instant).run now
        (.new (⟨d, schema'⟩ : Database) start .standard) =
          some (.change (.updated q.status), moved) ∧
      moved.world.store = ⟨Database.storeRows schema' d [(a, r)], schema'⟩ := by
  intro r
  let opened : Service Database := .new ⟨d, schema'⟩ start .standard
  have hrow : RowStore.row opened.world.store a = .ok (rereadUnder schema schema' a q.written) :=
    row_of_stored hd hd' h
  have hamend : amend schema' (RowStore.row opened.world.store) a s (instant.getD start) =
      (.ok (.updated q.status), some (a, r)) := by
    have hstatus : (rereadUnder schema schema' a q.written).status ≠ s := hs
    unfold amend
    rw [hrow]
    exact if_neg hstatus
  have hrun := run_update (s := opened) (a := a) ⟨⟨rfl, rfl⟩, rfl⟩ rfl request s instant now
  rw [show RowStore.schema opened.world.store = schema' from rfl,
    show opened.world.clock.now = start from rfl, hamend] at hrun
  exact ⟨_, hrun, rfl⟩

lemma replies_revision (hd : Distinct schema) (hd' : Distinct schema') (h : Holds schema a q y)
    (hs : q.status ≠ s) (now : Nat → Nat) (request : Request) (instant : Option Instant) :
    replies onSession y (revision now schema schema' request a s instant) =
      some [.done, .change (.updated q.status), .done,
        .row (reviseRow schema schema' a q.written s (instant.getD y.start).written)] := by
  obtain ⟨service, hy, hf, hstored⟩ := h.stored
  let d := service.world.store.directory
  let r := ProgressRecord.move schema' a (some (rereadUnder schema schema' a q.written)) s
    (instant.getD y.start)
  let d' := Database.storeRows schema' d [(a, r)]
  have hopen := onSession_reopen hy hf (now 0) schema'
  obtain ⟨moved, hrun, hstore⟩ := run_moved hd hd' hstored hs y.start (now 1) request instant
  have hmove := onSession_ask
    (y := ⟨schema', y.start, d, some (.new ⟨d, schema'⟩ y.start .standard)⟩) rfl hrun
  have hback := onSession_reopen (y := ⟨schema', y.start, d, some moved⟩) rfl
    (by rw [hstore]; exact hf) (now 2) schema
  rw [hstore] at hback
  have hone : (keys [(a, r)]).Nodup := List.nodup_singleton a
  have hstored' : get? d'.progress a.bytes = some (r.rowBytes schema') := by
    rw [get?_storeRows schema' a hone, get?_cons, if_pos rfl]
    rfl
  have hread : RowStore.row (⟨d', schema⟩ : Database) a =
      .ok (reviseRow schema schema' a q.written s (instant.getD y.start).written) := by
    have hmoved : r.written = .move schema' a (some (rereadUnder schema schema' a q.written)) s
        (instant.getD y.start).written := by
      rw [written_move, Option.map_some, written_rereadUnder, ProgressRecord.written_written]
    rw [row_of_stored hd' hd hstored', hmoved]
    rfl
  have hask : (Question.row a).run (now 3) (.new (⟨d', schema⟩ : Database) y.start .standard) =
      some (.row (reviseRow schema schema' a q.written s (instant.getD y.start).written),
        .new ⟨d', schema⟩ y.start .standard) := by
    change some (Answer.ofExcept Answer.row (RowStore.row (⟨d', schema⟩ : Database) a), _) = _
    rw [hread]
    rfl
  have hlast := onSession_ask
    (y := ⟨schema, y.start, d', some (.new ⟨d', schema⟩ y.start .standard)⟩) rfl hask
  rw [revision, replies, hopen, Option.bind_some, replies, hmove, Option.bind_some, replies, hback,
    Option.bind_some, replies, hlast]
  rfl

/-- When an account was moved under other columns, its row is read again under its own. The instants
are kept in columns that the others have too, but for that of the stage to which it was moved, and
lost in all columns that the others do not have. Before and after, instants are as they are
written. -/
theorem kept_under_revision (hd : Distinct schema) (hd' : Distinct schema') (h : Holds schema a q y)
    (hs : q.status ≠ s) (now : Nat → Nat) (request : Request) (instant : Option Instant) :
    ∃ r, replies onSession y (revision now schema schema' request a s instant) =
        some [.done, .change (.updated q.status), .done, .row r] ∧
      Revised schema schema' s (instant.getD y.start).written q.written r := by
  have hreplies := replies_revision hd hd' h hs now request instant
  have hrevised := revised_reviseRow hd hd' h.fits.written s (instant.getD y.start).written
  exact ⟨_, hreplies, hrevised⟩

end Sessions

/-- A session with a database that has stored one row. -/
def storedSession (schema : ProgressSchema) (r : ProgressRecord) : Session :=
  ⟨schema, .epoch, .empty, some (.new
    ⟨Database.storeRows schema .empty [(r.account, r)], schema⟩ .epoch .standard)⟩

lemma holds_storedSession (hr : Fitting schema r.account r) :
    Holds schema r.account r (storedSession schema r) where
  fits := hr
  stored := by
    have hone : (keys [(r.account, r)]).Nodup := List.nodup_singleton r.account
    refine ⟨_, rfl, rfl, ?_⟩
    change get? (Database.storeRows schema .empty [(r.account, r)]).progress _ = _
    rw [get?_storeRows schema r.account hone, get?_cons, if_pos rfl]
    rfl

/-- A record of the earlier columns, one of which the current ones have too. -/
def ahead : ProgressRecord :=
  ⟨⟨7⟩, StageMap.ofList [(.fetchStarted, .epoch), (.precomputeStarted, .epoch)], .precomputeStarted⟩

lemma fitting_ahead : Fitting .legacy ahead.account ahead :=
  ⟨rfl, fun s => by cases s <;> decide⟩

theorem kept_under_revision_ahead :
    ∃ r, replies onSession (storedSession .legacy ahead)
          (revision id .legacy .current .plain ⟨7⟩ .fetchCompleted none) =
        some [.done, .change (.updated .precomputeStarted), .done, .row r] ∧
      r.entered .fetchStarted = some .epoch ∧ r.entered .fetchCompleted = some .epoch ∧
      r.entered .precomputeStarted = none := by
  have hlegacy : Distinct .legacy := ⟨by decide, by decide⟩
  have hcurrent : Distinct .current := ⟨by decide, by decide⟩
  obtain ⟨r, hreplies, hr⟩ := kept_under_revision (s := .fetchCompleted) hlegacy hcurrent
    (holds_storedSession fitting_ahead) (by decide) id .plain none
  refine ⟨r, hreplies, ?_, ?_, ?_⟩
  · exact hr.kept .fetchStarted .fetchStarted "fetch_started" rfl rfl (by decide)
  · exact hr.moved .fetchCompleted "fetch_completed" rfl rfl
  · exact hr.lost .precomputeStarted "precompute_started" rfl fun u => by cases u <;> decide

/-- An update under other columns does not leave all other instants as they were. -/
theorem not_kept_under_revision :
    ¬ ∀ (schema schema' : ProgressSchema) (y : Session) (a : AccountId) (q : ProgressRecord)
      (s : Stage) (instant : Option Instant),
      schema.validate = .ok () → schema'.validate = .ok () →
      (∀ t, schema.column? t ≠ some ProgressRecord.statusColumn) →
      (∀ t, schema'.column? t ≠ some ProgressRecord.statusColumn) →
      Holds schema a q y → q.status ≠ s →
      ∃ r, replies onSession y (revision id schema schema' .plain a s instant) =
          some [.done, .change (.updated q.status), .done, .row r] ∧
        ∀ t column, schema.column? t = some column → schema'.column? s ≠ some column →
          r.entered t = q.entered t := by
  intro hall
  have hlegacy : ProgressSchema.legacy.validate = .ok () := by decide
  have hcurrent : ProgressSchema.current.validate = .ok () := by decide
  have hstatus : ∀ t, ProgressSchema.legacy.column? t ≠ some ProgressRecord.statusColumn :=
    fun t => by cases t <;> decide
  have hstatus' : ∀ t, ProgressSchema.current.column? t ≠ some ProgressRecord.statusColumn :=
    fun t => by cases t <;> decide
  have hd := distinct_of_validate hlegacy hstatus
  have hd' := distinct_of_validate hcurrent hstatus'
  have hholds := holds_storedSession fitting_ahead
  obtain ⟨r, hreplies, hkept⟩ := hall .legacy .current (storedSession .legacy ahead) ahead.account
    ahead .fetchCompleted none hlegacy hcurrent hstatus hstatus' hholds (by decide)
  rw [replies_revision hd hd' hholds (by decide)] at hreplies
  let start := (storedSession .legacy ahead).start.written
  obtain rfl : reviseRow .legacy .current ahead.account ahead.written .fetchCompleted start = r := by
    simpa using hreplies
  have hrevised := revised_reviseRow hd hd' fitting_ahead.written .fetchCompleted start
  have hlost := hrevised.lost .precomputeStarted "precompute_started" rfl
    fun u => by cases u <;> decide
  have hkeep := hkept .precomputeStarted "precompute_started" rfl (by decide)
  rw [hlost] at hkeep
  cases hkeep

end Tenancy.Proofs
