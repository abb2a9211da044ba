import Tenancy.Proofs.Sheets
import Tenancy.Storage.Session

/-!
# Stores that agree

A store in memory and a database give the same answers, whatever is asked of them one thing after
another, and however often the database is closed and opened again.
-/

namespace Tenancy.Proofs

open Table

/-- What is done with a store of progress. -/
inductive Operation where
  | ask (q : Question)
  /-- A database is closed and opened with columns; a store in memory stays as it is. -/
  | reopen (schema : ProgressSchema)

/-- An operation, with the instant at which it comes, on a service with a store in memory. -/
def onMemory (s : Service Memory) (e : Nat × Operation) :
    Option (Answer Empty × Service Memory) :=
  match e.2 with
  | .ask q => q.run e.1 s
  | .reopen _ => some (.done, s)

/-- An operation on a session with a database, which must be open if something is asked of it. -/
def onSession (y : Session) (e : Nat × Operation) : Option (Answer Empty × Session) :=
  match e.2 with
  | .ask q =>
    y.service.bind fun s => (q.run e.1 s).map fun r => (r.1, { y with service := some r.2 })
  | .reopen schema =>
    let (answer, y) := y.reopen schema
    some (.ofExcept (fun _ => .done) answer, y)

/-- The answers of operations one after another, unless one of them waits forever. -/
def replies {σ α β : Type} (f : σ → α → Option (β × σ)) (s : σ) : List α → Option (List β)
  | [] => some []
  | e :: es => (f s e).bind fun one => (replies f one.2 es).map (one.1 :: ·)

/-- One transaction is open at a time, updates come only while none is, and so does the reopening of
the database, which keeps its columns. `o` is the name of the transaction that is open at first. -/
def Serial (schema : ProgressSchema) : Option String → List Operation → Prop
  | _, [] => True
  | o, .ask q :: ops => (q.exclusive = true → o = none) ∧ Serial schema (q.opened o) ops
  | o, .reopen schema' :: ops => schema' = schema ∧ o = none ∧ Serial schema o ops

/-- The instant that is given with an operation. -/
def Operation.given? : Operation → Option Instant
  | .ask q => q.given?
  | .reopen _ => none

variable {schema : ProgressSchema} {start : Instant} {x : Sheet}

lemma shows_new {S : Type} [RowStore S] {sound : S → Prop} {store : S} (hs : sound store)
    (hc : RowStore.schema store = schema) (hr : RowStore.row store = x.rows) (hx : x.opened = none)
    (config : ResolverConfig) :
    Shows sound schema start (Service.new store start config).desk x where
  sound := hs
  columns := hc
  clock := rfl
  rows := hr
  manned := manned_of_lines_nil rfl fun _ => rfl
  opened name := (pendingOf_eq_none hx name).symm
  stocked name p hp := by
    rw [hx] at hp
    cases hp

/-- The database of a session is open and followed on a sheet. -/
structure Sits (schema : ProgressSchema) (start : Instant) (y : Session) (x : Sheet) : Prop where
  starts : y.start = start
  service : ∃ s, y.service = some s ∧ Shows SoundDatabase schema start s.desk x

variable {y : Session}

lemma onSession_ask {s s' : Service Database} (hs : y.service = some s) {q : Question} {now : Nat}
    {answer : Answer Empty} (hrun : q.run now s = some (answer, s')) :
    onSession y (now, .ask q) = some (answer, { y with service := some s' }) := by
  change (y.service.bind fun s => (q.run now s).map fun r => _) = _
  rw [hs, Option.bind_some, hrun]
  rfl

lemma reopen_open {s : Service Database} (hs : y.service = some s)
    (hf : s.world.store.directory.further = []) (schema : ProgressSchema) :
    y.reopen schema = (.ok (), ⟨schema, y.start, s.world.store.directory,
      some (.new ⟨s.world.store.directory, schema⟩ y.start .standard)⟩) := by
  have hclose : { y.close with schema } =
      (⟨schema, y.start, s.world.store.directory, none⟩ : Session) := by
    unfold Session.close
    rw [hs]
  unfold Session.reopen Session.openClosed
  rw [hclose, Database.ofDirectory, hf]
  rfl

lemma Sits.reopen (h : Sits schema start y x) (hx : x.opened = none) :
    (y.reopen schema).1 = .ok () ∧ Sits schema start (y.reopen schema).2 x := by
  obtain ⟨s, hs, hshows⟩ := h.service
  have hstore : (⟨s.world.store.directory, schema⟩ : Database) = s.world.store := by
    rw [← show s.world.store.schema = schema from hshows.columns]
  rw [reopen_open hs hshows.sound.further schema, hstore, h.starts]
  exact ⟨rfl, rfl, _, rfl, shows_new hshows.sound hshows.columns hshows.rows hx _⟩

lemma Sits.question (h : Sits schema start y x) {q : Question}
    (hq : q.exclusive = true → x.opened = none) (hstart : start.Regular)
    (hi : ∀ i ∈ q.given?, i.Regular) (now : Nat) :
    ∃ answer y', onSession y (now, .ask q) = some (answer, y') ∧ x.Answers schema start q answer ∧
      Sits schema start y' (x.after schema start q) := by
  obtain ⟨s, hs, hshows⟩ := h.service
  obtain ⟨answer, s', hrun, hanswer, hshows'⟩ := hshows.question faithful_database hq hstart hi now
  exact ⟨answer, _, onSession_ask hs hrun, hanswer, h.starts, s', rfl, hshows'⟩

/-- Stores that are followed on one sheet give the same answers. -/
theorem agree_of_shows {s : Service Memory} (hs : Shows SoundMemory schema start s.desk x)
    (hy : Sits schema start y x) {ops : List (Nat × Operation)}
    (hops : Serial schema (x.opened.map Prod.fst) (ops.map Prod.snd)) (hstart : start.Regular)
    (hgiven : ∀ e ∈ ops, ∀ i ∈ e.2.given?, i.Regular) :
    ∃ answers, replies onMemory s ops = some answers ∧ replies onSession y ops = some answers := by
  -- On the operations: each leaves both stores to be followed on one sheet again, and a sheet
  -- allows one answer only.
  induction ops generalizing s y x with
  | nil => exact ⟨[], rfl, rfl⟩
  | cons e ops ih =>
    have hlater : ∀ e ∈ ops, ∀ i ∈ e.2.given?, i.Regular :=
      fun e he => hgiven e (List.mem_cons_of_mem _ he)
    have hfirst := hgiven e List.mem_cons_self
    obtain ⟨now, op⟩ := e
    cases op with
    | ask q =>
      obtain ⟨hq, hops⟩ := hops
      rw [Option.map_eq_none_iff] at hq
      obtain ⟨answer, s', hmemory, hanswer, hs'⟩ := hs.question faithful_memory hq hstart hfirst now
      obtain ⟨answer', y', hsession, hanswer', hy'⟩ := hy.question hq hstart hfirst now
      obtain rfl := answers_unique hanswer hanswer'
      rw [← opened_after schema start] at hops
      obtain ⟨answers, hm, hd⟩ := ih hs' hy' hops hlater
      have hone : onMemory s (now, .ask q) = some (answer, s') := hmemory
      refine ⟨answer :: answers, ?_, ?_⟩
      · rw [replies, hone, Option.bind_some, hm]
        rfl
      · rw [replies, hsession, Option.bind_some, hd]
        rfl
    | reopen schema' =>
      obtain ⟨rfl, hx, hops⟩ := hops
      rw [Option.map_eq_none_iff] at hx
      obtain ⟨hok, hy'⟩ := hy.reopen hx
      obtain ⟨answers, hm, hd⟩ := ih hs hy' hops hlater
      refine ⟨.done :: answers, ?_, ?_⟩
      · rw [replies, onMemory, Option.bind_some, hm]
        rfl
      · simp only [replies, onSession, hok]
        rw [Option.bind_some, hd]
        rfl

/-- The row that is the last answer. -/
def lastRow? (answers : Option (List (Answer Empty))) : Option ProgressRecord :=
  match answers.bind List.getLast? with
  | some (.row r) => some r
  | _ => none

/-- A transaction writes two rows and another one is rolled back; a row is moved after the database
was opened again, and read after that was done once more. -/
def visits : List (Nat × Operation) :=
  [.ask (.task .plain "a" .begin), .ask (.task .plain "a" (.write ⟨-3⟩ .fetchStarted .epoch)),
    .ask (.row ⟨-3⟩), .ask (.task .plain "a" (.write ⟨8⟩ .fetchStarted .epoch)),
    .ask (.task .plain "a" .commit), .reopen .current, .ask .rows,
    .ask (.update .plain ⟨-3⟩ .fetchCompleted none), .ask (.task .plain "b" .begin),
    .ask (.task .plain "b" (.write ⟨-3⟩ .accountCreated .epoch)),
    .ask (.task .plain "b" .rollback), .reopen .current, .ask (.row ⟨-3⟩)].zipIdx.map Prod.swap

/-- The first update of an account in a database is given back as it is written. -/
lemma replies_first (hd : Distinct schema) (start : Instant) (a : AccountId) (stage : Stage)
    (i : Instant) :
    replies onSession (Session.new schema start).openClosed.2
        [(0, .ask (.update .plain a stage (some i))), (0, .ask (.row a))] =
      some [.change .created, .row (ProgressRecord.move schema a none stage i).written] := by
  let s : Service Database := .new ⟨.empty, schema⟩ start .standard
  let r := ProgressRecord.move schema a none stage i
  have hswift : Swift s.world.store := ⟨⟨rfl, rfl⟩, rfl⟩
  have hupdate := run_update hswift (a := a) rfl .plain stage (some i) 0
  have hfirst := onSession_ask (y := (Session.new schema start).openClosed.2) rfl hupdate
  have hone : (keys [(a, r)]).Nodup := List.nodup_singleton a
  have hfits : ∀ b q, (b, q) ∈ [(a, r)] → Fitting schema b q := by
    intro b q hm
    obtain ⟨rfl, rfl⟩ := Prod.mk.inj (List.mem_singleton.mp hm)
    exact fitting_move (by simp)
  have hrow : RowStore.row (RowStore.commit s.world.store [(a, r)]) a = .ok r.written := by
    rw [RowKeeper.row_commit s.world.store _ hd hone hfits, givenBack, overlay, get?_cons,
      if_pos rfl]
    rfl
  rw [replies, hfirst, Option.bind_some]
  change some [_, Answer.ofExcept .row
    (RowStore.row (RowStore.commit s.world.store [(a, r)]) a)] = _
  rw [hrow]
  rfl

end Tenancy.Proofs
