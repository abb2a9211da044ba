import Tenancy.CommandLine.Program
import Tenancy.Proofs.Recording

/-!
# Reports on files of events

The program replays a file of events in memory and prints a table: a line for each account of an
event that can be read, with the stage of its last event and, for each stage with a column, the
instant at which its last run of events of this stage began. Lines that cannot be read, and events
of other accounts, leave no trace in it.
-/

namespace Tenancy.Proofs

open Table Text CommandLine

section Tables

variable {bs bs' : List UInt8}

/-- Bytes that are those of some characters. -/
def Legible (bs : List UInt8) : Prop :=
  ∃ cs, utf8 cs = bs

lemma legible_bytesOf (s : String) : Legible (bytesOf s) :=
  ⟨s.toList, rfl⟩

lemma Legible.append (h : Legible bs) (h' : Legible bs') : Legible (bs ++ bs') := by
  obtain ⟨cs, rfl⟩ := h
  obtain ⟨ds, rfl⟩ := h'
  exact ⟨cs ++ ds, utf8_append cs ds⟩

lemma legible_flatMap {α : Type} {f : α → List UInt8} {l : List α} (h : ∀ x ∈ l, Legible (f x)) :
    Legible (l.flatMap f) := by
  induction l with
  | nil => exact ⟨[], rfl⟩
  | cons x l ih =>
    rw [List.flatMap_cons]
    exact (h x List.mem_cons_self).append (ih fun y hy => h y (List.mem_cons_of_mem x hy))

/-- Quotes that are written twice are written as characters. -/
lemma legible_doubled (cs : List Char) :
    Legible ((utf8 cs).flatMap fun b => if b = Csv.quote then [Csv.quote, Csv.quote] else [b]) := by
  unfold utf8
  rw [List.flatMap_assoc]
  refine legible_flatMap fun c _ => ?_
  have hc : Legible (String.utf8EncodeChar c) := ⟨[c], List.flatMap_singleton ..⟩
  by_cases h : Csv.quote ∈ String.utf8EncodeChar c
  · have hle : c.toNat ≤ 0x7F := by
      by_contra hgt
      have hbyte := le_of_mem_utf8EncodeChar (Nat.lt_of_not_le hgt) h
      exact absurd hbyte (by decide)
    rw [utf8EncodeChar_of_le hle, List.mem_singleton] at h
    rw [utf8EncodeChar_of_le hle, List.flatMap_singleton, if_pos h.symm]
    exact ⟨['"', '"'], rfl⟩
  · have hsame : ∀ b ∈ String.utf8EncodeChar c,
        (if b = Csv.quote then [Csv.quote, Csv.quote] else [b]) = [b] := by
      intro b hb
      refine if_neg ?_
      rintro rfl
      exact h hb
    rwa [List.flatMap_congr hsame, List.flatMap_singleton']

lemma legible_quoteField (h : Legible bs) : Legible (Csv.quoteField bs) := by
  obtain ⟨cs, rfl⟩ := h
  have hquote : Legible [Csv.quote] := ⟨['"'], rfl⟩
  exact (hquote.append (legible_doubled cs)).append hquote

lemma legible_writeField (h : Legible bs) : Legible (Csv.writeField bs) := by
  unfold Csv.writeField
  split
  · exact legible_quoteField h
  · exact h

lemma legible_intercalate {sep : List UInt8} (hs : Legible sep) {l : List (List UInt8)}
    (h : ∀ bs ∈ l, Legible bs) : Legible (List.intercalate sep l) := by
  induction l with
  | nil => exact ⟨[], rfl⟩
  | cons bs l ih =>
    have hbs := h bs List.mem_cons_self
    cases l with
    | nil => simpa using hbs
    | cons bs' l =>
      rw [List.intercalate_cons_cons]
      exact (hbs.append hs).append (ih fun x hx => h x (List.mem_cons_of_mem bs hx))

lemma legible_writeRecord {fields : List Csv.Field} (h : ∀ f ∈ fields, Legible f) :
    Legible (Csv.writeRecord fields) := by
  have hend : Legible [0x0A] := ⟨['\n'], rfl⟩
  have hcomma : Legible [Csv.comma] := ⟨[','], rfl⟩
  unfold Csv.writeRecord
  split
  · exact (legible_quoteField ⟨[], rfl⟩).append hend
  · refine (legible_intercalate hcomma fun bs hbs => ?_).append hend
    obtain ⟨f, hf, rfl⟩ := List.mem_map.mp hbs
    exact legible_writeField (h f hf)

lemma legible_writeTable {rows : List (List Csv.Field)} (h : ∀ l ∈ rows, ∀ f ∈ l, Legible f) :
    Legible (Csv.writeTable rows) :=
  legible_flatMap fun l hl => legible_writeRecord (h l hl)

lemma bytesOf_reportText (schema : ProgressSchema) (rows : List ProgressRecord) :
    bytesOf (Report.text schema rows) = Report.write schema rows := by
  have hlegible : Legible (Report.write schema rows) := by
    refine legible_writeTable fun l hl f hf => ?_
    obtain ⟨texts, -, rfl⟩ := List.mem_map.mp hl
    obtain ⟨text, -, rfl⟩ := List.mem_map.mp hf
    exact legible_bytesOf text
  obtain ⟨cs, hcs⟩ := hlegible
  rw [Report.text, ← hcs, ofUtf8?_utf8, Option.getD_some, bytesOf, String.toList_ofList]

end Tables

/-- A stream of events, among them lines that cannot be read. -/
abbrev Items := List (Except Csv.Error StageEvent)

/-- The visit of an event that can be read and tells when it happened. -/
def visitOf? : Except Csv.Error StageEvent → Option (AccountId × StageVisit)
  | .ok e => e.timestamp.map fun i => (e.account, ⟨e.stage, i⟩)
  | .error _ => none

/-- The visits of a stream, in its order. -/
def visitsIn (items : Items) : List (AccountId × StageVisit) :=
  items.filterMap visitOf?

/-- Every event that can be read tells when it happened. -/
def Stamped (items : Items) : Prop :=
  ∀ e, .ok e ∈ items → e.timestamp.isSome

lemma mem_accounts_visitsIn {items : Items} (h : Stamped items) {a : AccountId} :
    a ∈ (visitsIn items).map Prod.fst ↔ ∃ e, .ok e ∈ items ∧ e.account = a := by
  rw [List.mem_map]
  constructor
  · rintro ⟨x, hx, rfl⟩
    obtain ⟨item, hitem, hvisit⟩ := List.mem_filterMap.mp hx
    cases item with
    | error e => cases hvisit
    | ok e =>
      obtain ⟨i, -, rfl⟩ := Option.map_eq_some_iff.mp hvisit
      exact ⟨e, hitem, rfl⟩
  · rintro ⟨e, he, rfl⟩
    obtain ⟨i, hi⟩ := Option.isSome_iff_exists.mp (h e he)
    refine ⟨(e.account, ⟨e.stage, i⟩), List.mem_filterMap.mpr ⟨.ok e, he, ?_⟩, rfl⟩
    rw [visitOf?, hi, Option.map_some]

/-- How far visits were replayed: they were recorded, and their accounts are kept. -/
structure Replays (schema : ProgressSchema) (es : List (AccountId × StageVisit))
    (r : Replay ProgressMemory) : Prop where
  ledger : Holding schema (es.foldl (Book.visit schema) fun _ => none) r.ledger
  accounts : r.items.filterMap Replayed.account? = es.map Prod.fst

section Replays

variable {schema : ProgressSchema} {es : List (AccountId × StageVisit)} {r : Replay ProgressMemory}
  {items : Items}

lemma replays_start (schema : ProgressSchema) (clock : Clock) :
    Replays schema [] (.start (emptyLedger schema clock)) :=
  ⟨holding_empty schema clock, rfl⟩

lemma Replays.pause (h : Replays schema es r) (d : Duration) : Replays schema es (r.pause d) where
  ledger := ⟨h.ledger.quiet, h.ledger.swift, h.ledger.columns, h.ledger.stocked, h.ledger.rows⟩
  accounts := h.accounts

lemma Replays.next (h : Replays schema es r) {item : Except Csv.Error StageEvent}
    (hitem : ∀ e, item = .ok e → e.timestamp.isSome) :
    Replays schema (es ++ (visitOf? item).toList) (r.next item) := by
  cases item with
  | error e =>
    rw [visitOf?, Option.toList_none, List.append_nil]
    refine ⟨h.ledger, ?_⟩
    simp [Replay.next, h.accounts, Replayed.account?]
  | ok e =>
    obtain ⟨i, hi⟩ := Option.isSome_iff_exists.mp (hitem e rfl)
    obtain ⟨l', hrecord, hl⟩ := h.ledger.record (.new .plain e.account e.stage e.timestamp)
    rw [Replay.next, hrecord, visitOf?, hi, Option.map_some, Option.toList_some]
    constructor
    case ledger =>
      rw [hi] at hl
      rw [List.foldl_append]
      exact hl
    case accounts => simp [h.accounts, Replayed.account?]

lemma Replays.run (h : Replays schema es r) (hs : Stamped items) (d : Duration) :
    Replays schema (es ++ visitsIn items) (items.foldl (fun r i => (r.next i).pause d) r) := by
  induction items generalizing es r with
  | nil => simpa [visitsIn] using h
  | cons item items ih =>
    have hnext := (h.next fun e he => hs e (he ▸ List.mem_cons_self)).pause d
    have hvisits : visitsIn (item :: items) = (visitOf? item).toList ++ visitsIn items := by
      rw [visitsIn, List.filterMap_cons]
      cases visitOf? item <;> rfl
    rw [hvisits, ← List.append_assoc]
    exact ih hnext fun e he => hs e (List.mem_cons_of_mem item he)

lemma nodup_eraseDups {α : Type} [DecidableEq α] : (l : List α) → l.eraseDups.Nodup
  | [] => List.nodup_nil
  | x :: l => by
    rw [List.eraseDups_cons, List.nodup_cons]
    refine ⟨?_, nodup_eraseDups _⟩
    rw [List.mem_eraseDups, List.mem_filter]
    simp
termination_by l => l.length
decreasing_by
  exact Nat.lt_succ_of_le (List.length_filter_le _ _)

lemma ascending_accounts {S : Type} (r : Replay S) :
    r.accounts.Pairwise fun a b => a.value < b.value := by
  refine ascending_mergeSort id ?_
  rw [List.map_id]
  exact nodup_eraseDups _

lemma Replays.mem_accounts (h : Replays schema es r) {a : AccountId} :
    a ∈ r.accounts ↔ a ∈ es.map Prod.fst := by
  rw [Replay.accounts, List.mem_mergeSort, List.mem_eraseDups, h.accounts]

lemma mapM_of_ok {ε α β : Type} {f : α → Except ε β} {g : α → β} (h : ∀ a, f a = .ok (g a))
    (l : List α) : l.mapM f = .ok (l.map g) := by
  rw [show f = fun a => pure (g a) from funext h, List.mapM_pure]
  rfl

lemma Replays.rows (h : Replays schema es r) :
    r.rows = .ok (r.accounts.filterMap fun a => recordOf schema a (visitsOf a es)) := by
  unfold Replay.rows
  rw [mapM_of_ok (g := fun a => recordOf schema a (visitsOf a es))]
  · change Except.ok _ = _
    rw [List.filterMap_map]
    rfl
  · intro a
    rw [h.ledger.rows, Book.rows, foldl_visit_empty]
    cases recordOf schema a (visitsOf a es) <;> rfl

end Replays

/-- What the line of an account tells of its visits. -/
def lineOf (schema : ProgressSchema) (es : List (AccountId × StageVisit)) (a : AccountId) :
    List String :=
  let vs := visitsOf a es
  a.text :: (vs.getLast?.elim "" fun v => v.stage.name) ::
    schema.entries.map fun e => (lastEntry e.1 vs).elim "" Rfc3339.secondsText

lemma line_recordOf {schema : ProgressSchema} {es : List (AccountId × StageVisit)} {a : AccountId}
    (h : a ∈ es.map Prod.fst) :
    (recordOf schema a (visitsOf a es)).map (Report.line schema) = some (lineOf schema es a) := by
  obtain ⟨v, hv⟩ : ∃ v, (visitsOf a es).getLast? = some v := by
    obtain ⟨⟨b, v⟩, he, rfl⟩ := List.mem_map.mp h
    have hmem : v ∈ visitsOf b es := by
      refine List.mem_map.mpr ⟨(b, v), List.mem_filter.mpr ⟨he, by simp⟩, rfl⟩
    exact ⟨_, List.getLast?_eq_some_getLast (List.ne_nil_of_mem hmem)⟩
  have hcell : ∀ e ∈ schema.entries,
      Report.cell ⟨a, lastEntries schema (visitsOf a es), v.stage⟩ e.1 =
        (lastEntry e.1 (visitsOf a es)).elim "" Rfc3339.secondsText := by
    rintro ⟨s, column⟩ he
    have hcolumn : (schema.column? s).isSome := by
      rw [mem_entries.mp he]
      rfl
    have hentered : lastEntries schema (visitsOf a es) s = lastEntry s (visitsOf a es) :=
      if_pos hcolumn
    unfold Report.cell
    simp only [hentered]
    cases lastEntry s (visitsOf a es) <;> rfl
  unfold recordOf lineOf
  simp only [hv, Option.map_some, Option.elim_some, Report.line]
  rw [List.map_congr_left hcell]

lemma Replays.lines {schema : ProgressSchema} {es : List (AccountId × StageVisit)}
    {r : Replay ProgressMemory} (h : Replays schema es r) :
    (r.accounts.filterMap fun a => recordOf schema a (visitsOf a es)).map (Report.line schema) =
      r.accounts.map (lineOf schema es) := by
  rw [List.map_filterMap, List.filterMap_congr fun a ha => line_recordOf (h.mem_accounts.mp ha)]
  exact congrFun List.filterMap_eq_map r.accounts

section Program

variable {databases : Bool} {files : Files} {args : List String} {o : Options}
  {settings : Settings} {table : List UInt8}

lemma run_inMemory (now : Instant) (hargs : Invocation.ofArguments args = some (.replay o))
    (hmemory : o.database = none ∨ databases = false)
    (hsettings : o.settings files = .ok settings) :
    CommandLine.run databases files now args =
      (o.runInMemory files now settings.progress, files) := by
  unfold CommandLine.run
  rw [hargs]
  unfold Options.run
  simp only [hsettings]
  rcases hmemory with hnone | rfl
  · rw [hnone]
  · cases o.database <;> rfl

lemma runInMemory_of_rows {now : Instant} {schema : ProgressSchema} {rows : List ProgressRecord}
    (htable : files.events? o.input = some table)
    (hrows : (Replay.run (.ofSecs 0) (emptyLedger schema ⟨now⟩) (StageEvent.readAll table)).rows =
      .ok rows) :
    (o.runInMemory files now schema).code = 0 ∧
      (o.runInMemory files now schema).output = Report.text schema rows := by
  unfold Options.runInMemory replayFile
  rw [htable]
  unfold emptyLedger at hrows
  unfold replay
  simp only [hrows, and_self]

/-- The program exits with 0 and leaves the files as they are. It prints the header and, in
ascending order, one line for each account of an event that can be read: the stage of its last
event and, for each stage with a column, when its last run of events of this stage began. -/
theorem report_of_events (now : Instant) (hargs : Invocation.ofArguments args = some (.replay o))
    (hmemory : o.database = none ∨ databases = false) (hsettings : o.settings files = .ok settings)
    (htable : files.events? o.input = some table) (hstamped : Stamped (StageEvent.readAll table)) :
    ∃ accounts : List AccountId, accounts.Pairwise (fun a b => a.value < b.value) ∧
      (∀ a, a ∈ accounts ↔ ∃ e, .ok e ∈ StageEvent.readAll table ∧ e.account = a) ∧
      (CommandLine.run databases files now args).1.code = 0 ∧
      (CommandLine.run databases files now args).2 = files ∧
      bytesOf (CommandLine.run databases files now args).1.output =
        Csv.writeTable ((Report.header settings.progress :: accounts.map
          (lineOf settings.progress (visitsIn (StageEvent.readAll table)))).map
            fun l => l.map bytesOf) := by
  let items := StageEvent.readAll table
  let schema := settings.progress
  let r := Replay.run (.ofSecs 0) (emptyLedger schema ⟨now⟩) items
  have hr : Replays schema (visitsIn items) r := (replays_start schema ⟨now⟩).run hstamped _
  obtain ⟨hcode, houtput⟩ := runInMemory_of_rows htable hr.rows
  refine ⟨r.accounts, ascending_accounts r, fun a => ?_, ?_⟩
  · rw [hr.mem_accounts, mem_accounts_visitsIn hstamped]
  · rw [run_inMemory now hargs hmemory hsettings]
    refine ⟨hcode, rfl, ?_⟩
    rw [houtput, bytesOf_reportText, Report.write, Report.cells, hr.lines]

end Program

/-- Events of two accounts, one of which comes back to a stage, and a line that cannot be read. -/
def diary : List UInt8 :=
  bytesOf ("account,stage,timestamp\n" ++ "7,fetch_started,1970-01-01T00:00:00Z\n" ++
    "-3,account_created,1970-01-01T00:00:00Z\n" ++ "7\n" ++
    "7,fetch_completed,1970-01-02T00:00:00Z\n" ++ "7,fetch_started,1970-01-02T00:00:00Z\n")

/-- The beginning of the second day of 1970. -/
def nextDay : Instant :=
  Instant.epoch.advance (.ofSecs 86400)

theorem report_of_events_diary :
    bytesOf (CommandLine.run false [("diary.csv", .file diary)] .epoch ["diary.csv"]).1.output =
      bytesOf ("account,current_status,fetch_started,fetch_completed," ++
        "consistency_started,consistency_completed\n" ++ "-3,account_created,,,,\n" ++
        "7,fetch_started,1970-01-02T00:00:00Z,1970-01-02T00:00:00Z,,\n") := by
  have hargs : Invocation.ofArguments ["diary.csv"] = some (.replay ⟨"diary.csv", none, none⟩) := by
    decide +kernel
  have hread : ((StageEvent.readAll diary).all fun item =>
        item.toOption.all fun e => e.timestamp.isSome) = true ∧
      visitsIn (StageEvent.readAll diary) = [(⟨7⟩, ⟨.fetchStarted, .epoch⟩),
        (⟨-3⟩, ⟨.accountCreated, .epoch⟩), (⟨7⟩, ⟨.fetchCompleted, nextDay⟩),
        (⟨7⟩, ⟨.fetchStarted, nextDay⟩)] := by
    decide +kernel
  obtain ⟨hall, hvisits⟩ := hread
  have hstamped : Stamped (StageEvent.readAll diary) := fun e he => List.all_eq_true.mp hall _ he
  obtain ⟨accounts, hascending, hmem, -, -, houtput⟩ := report_of_events .epoch hargs
    (.inr rfl) (show Options.settings _ [("diary.csv", .file diary)] = .ok .standard from rfl)
    rfl hstamped
  have haccounts : accounts = [⟨-3⟩, ⟨7⟩] := by
    refine eq_of_ascending id hascending (by decide) fun a => ?_
    rw [hmem, ← mem_accounts_visitsIn hstamped, hvisits]
    simp only [List.map_cons, List.map_nil, List.mem_cons, List.not_mem_nil, or_false]
    tauto
  rw [houtput, haccounts, hvisits]
  decide +kernel

end Tenancy.Proofs
