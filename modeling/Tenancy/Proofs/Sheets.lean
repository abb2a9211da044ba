import Tenancy.Proofs.Faithful

/-!
# Sheets

What is asked of a faithful store, one thing after another, is followed on a sheet that has nothing
but the rows and what the one transaction that is open has kept back. So the answers tell nothing of
how the store keeps its rows.
-/

namespace Tenancy.Proofs

open Table Function Desk

/-- The rows of a store, and the name of the transaction that is open with what it keeps back. -/
structure Sheet where
  rows : Rows
  opened : Option (String × Table AccountId ProgressRecord)

namespace Sheet

/-- What the transaction of a name keeps back, if it is open. -/
def pendingOf (x : Sheet) (name : String) : Option (Table AccountId ProgressRecord) :=
  (x.opened.filter fun o => o.1 = name).map Prod.snd

/-- A task of the transaction of a name, with its answer and the sheet after it. -/
def handle (schema : ProgressSchema) (x : Sheet) (name : String) (task : Task) :
    Desk.Answer × Sheet :=
  match task, x.pendingOf name with
  | .begin, _ => (.done, { x with opened := some (name, []) })
  | _, none => (.unknown, x)
  | .commit, some p => (.done, ⟨overlay x.rows p, none⟩)
  | .rollback, some _ => (.done, { x with opened := none })
  | .drop, some _ => (.done, { x with opened := none })
  | task, some p =>
    let b := buffer schema x.rows p task
    (b.1, { x with opened := some (name, b.2) })

end Sheet

/-- The instant that is given with a task. -/
def given? : Task → Option Instant
  | .write _ _ instant => some instant
  | _ => none

variable {x : Sheet} {name n : String} {p : Table AccountId ProgressRecord}

lemma pendingOf_eq_some : x.pendingOf name = some p ↔ x.opened = some (name, p) := by
  unfold Sheet.pendingOf
  cases x.opened with
  | none => simp
  | some o =>
    obtain ⟨n, q⟩ := o
    by_cases hn : n = name <;> simp [Option.filter, hn]

lemma pendingOf_eq_none (h : x.opened = none) (name : String) : x.pendingOf name = none := by
  rw [Sheet.pendingOf, h]
  rfl

lemma pendingOf_some (rows : Rows) :
    Sheet.pendingOf ⟨rows, some (name, p)⟩ n = if n = name then some p else none := by
  by_cases hn : n = name
  · rw [if_pos hn, pendingOf_eq_some, hn]
  · rw [if_neg hn, Sheet.pendingOf]
    simp [Option.filter, Ne.symm hn]

section Handle

variable {schema : ProgressSchema} {task : Task}

lemma handle_unknown (hb : task ≠ .begin) (hx : x.opened.map Prod.fst ≠ some name) :
    x.handle schema name task = (.unknown, x) := by
  have hnone : x.pendingOf name = none := by
    rw [Option.eq_none_iff_forall_not_mem]
    intro p hp
    rw [pendingOf_eq_some.mp hp] at hx
    exact hx rfl
  unfold Sheet.handle
  rw [hnone]
  cases task with
  | begin => exact absurd rfl hb
  | _ => rfl

lemma handle_work {a : AccountId} (ha : account? task = some a) (hx : x.opened = some (name, p)) :
    x.handle schema name task = ((buffer schema x.rows p task).1,
      { x with opened := some (name, (buffer schema x.rows p task).2) }) := by
  unfold Sheet.handle
  rw [pendingOf_eq_some.mpr hx]
  cases task with
  | read b => rfl
  | write b stage instant => rfl
  | _ => cases ha

lemma handle_commit (hx : x.opened = some (name, p)) :
    x.handle schema name .commit = (.done, ⟨overlay x.rows p, none⟩) := by
  unfold Sheet.handle
  rw [pendingOf_eq_some.mpr hx]

lemma handle_close (hc : task = .rollback ∨ task = .drop) (hx : x.opened = some (name, p)) :
    x.handle schema name task = (.done, { x with opened := none }) := by
  unfold Sheet.handle
  rw [pendingOf_eq_some.mpr hx]
  rcases hc with rfl | rfl <;> rfl

end Handle

section Desks

variable {S : Type} [RowStore S] {sound : S → Prop} {schema : ProgressSchema} {start : Instant}
  {d d' : Desk S} {c : Desk.Call} {t : Transaction} {answer : Desk.Answer}

/-- What a sheet has is what the store of a desk holds and what its only transaction keeps back. -/
structure Shows (sound : S → Prop) (schema : ProgressSchema) (start : Instant) (d : Desk S)
    (x : Sheet) : Prop where
  sound : sound d.ledger.store
  columns : RowStore.schema d.ledger.store = schema
  clock : d.ledger.world.clock.now = start
  rows : RowStore.row d.ledger.store = x.rows
  manned : Manned d.ledger.locks (owners d)
  opened : ∀ name, (get? d.transactions name).map Transaction.pending = x.pendingOf name
  stocked : ∀ name p, x.opened = some (name, p) → Stocked (Lasting schema) p

lemma Shows.opened_eq (h : Shows sound schema start d x) (ht : get? d.transactions name = some t) :
    x.opened = some (name, t.pending) := by
  rw [← pendingOf_eq_some, ← h.opened, ht, Option.map_some]

lemma Shows.free (h : Shows sound schema start d x) (hx : x.opened = none) (name : String) :
    get? d.transactions name = none := by
  have ho := h.opened name
  rwa [pendingOf_eq_none hx, Option.map_eq_none_iff] at ho

/-- Only one transaction is open. -/
lemma Shows.one (h : Shows sound schema start d x) {o o' : Nat} (ho : owners d name = some o)
    (ho' : owners d n = some o') : name = n := by
  obtain ⟨t, ht, -⟩ := Option.map_eq_some_iff.mp ho
  obtain ⟨t', ht', -⟩ := Option.map_eq_some_iff.mp ho'
  have hx := (h.opened_eq ht).symm.trans (h.opened_eq ht')
  exact (Prod.mk.inj (Option.some.inj hx)).1

lemma Shows.others (h : Shows sound schema start d x) (ht : get? d.transactions name = some t)
    (hn : n ≠ name) : get? d.transactions n = none := by
  by_contra hne
  obtain ⟨t', ht'⟩ := Option.ne_none_iff_exists'.mp hne
  exact hn (h.one (owners_of ht') (owners_of ht))

lemma Shows.fits (hf : Faithful sound) (h : Shows sound schema start d x) (a : AccountId)
    (r : ProgressRecord) (hr : x.rows a = .ok r) : Lasting schema a r := by
  rw [← h.rows] at hr
  have hfits := hf.fits _ a r h.sound hr
  rwa [h.columns] at hfits

lemma Shows.join (h : Shows sound schema start d x) (ht : get? d.transactions name = some t)
    (a : AccountId) : Shows sound schema start (d.withLedger (d.ledger.join t a)) x where
  sound := h.sound
  columns := h.columns
  clock := h.clock
  rows := h.rows
  manned := h.manned.join (owners_of ht) a
  opened := h.opened
  stocked := h.stocked

lemma Shows.begin (h : Shows sound schema start d x) (hx : x.opened = none) (name : String) :
    Shows sound schema start (d.assign name) { x with opened := some (name, []) } := by
  have hfree : get? d.transactions name = none := h.free hx name
  have hledger : (d.assign name).ledger = { d.ledger with locks := d.ledger.locks.enroll } := by
    simp only [assign, hfree]
    rfl
  have hget : ∀ n, get? (d.assign name).transactions n =
      if n = name then some d.ledger.begin.1 else get? d.transactions n :=
    fun n => get?_insert _ _ _ _
  have howner : owners d name = none := by rw [owners, hfree, Option.map_none]
  refine ⟨?_, ?_, ?_, ?_, ?_, ?_, ?_⟩
  · rw [hledger]
    exact h.sound
  · rw [hledger]
    exact h.columns
  · rw [hledger]
    exact h.clock
  · rw [hledger]
    exact h.rows
  · rw [hledger, owners_assign]
    exact h.manned.enroll howner
  · intro n
    rw [hget, pendingOf_some]
    by_cases hn : n = name
    · rw [if_pos hn, if_pos hn]
      rfl
    · rw [if_neg hn, if_neg hn, h.free hx, Option.map_none]
  · intro n p hp
    obtain ⟨-, rfl⟩ := Prod.mk.inj (Option.some.inj hp)
    exact stocked_nil

lemma Shows.erase (h : Shows sound schema start d x) (ht : get? d.transactions name = some t)
    (n : String) : get? (d.transactions.erase name) n = none := by
  rw [get?_erase]
  split
  · rfl
  · rename_i hn
    exact h.others ht hn

lemma Shows.close (h : Shows sound schema start d x) (ht : get? d.transactions name = some t) :
    Shows sound schema start (d.close name t) { x with opened := none } where
  sound := h.sound
  columns := h.columns
  clock := h.clock
  rows := h.rows
  manned := by
    rw [owners_erase (d.close name t) rfl]
    exact h.manned.release (owners_of ht)
  opened n := by
    have hgone := h.erase ht n
    change (get? (d.transactions.erase name) n).map _ = none
    rw [hgone, Option.map_none]
  stocked _ _ hp := nomatch hp

lemma Shows.commit (hf : Faithful sound) (h : Shows sound schema start d x)
    (ht : get? d.transactions name = some t) :
    Shows sound schema start ⟨d.ledger.commit t, d.transactions.erase name⟩
      ⟨overlay x.rows t.pending, none⟩ := by
  have hp : Stocked (Lasting (RowStore.schema d.ledger.store)) t.pending := by
    rw [h.columns]
    exact h.stocked name t.pending (h.opened_eq ht)
  have hclose := h.close ht
  refine ⟨hf.commit _ _ h.sound hp, ?_, h.clock, ?_, hclose.manned, hclose.opened, hclose.stocked⟩
  · exact (hf.schema_commit _ t.pending h.sound).trans h.columns
  · rw [← h.rows]
    exact hf.row_commit _ _ h.sound hp

lemma Shows.work (hf : Faithful sound) (h : Shows sound schema start d x)
    (ht : get? d.transactions name = some t) {task : Task} {transactions : Table String Transaction}
    (hget : ∀ n, get? transactions n =
      if n = name then some { t with pending := (buffer schema x.rows t.pending task).2 }
      else get? d.transactions n)
    (hi : ∀ i ∈ given? task, i.Regular) :
    Shows sound schema start { d with transactions }
      { x with opened := some (name, (buffer schema x.rows t.pending task).2) } where
  sound := h.sound
  columns := h.columns
  clock := h.clock
  rows := h.rows
  manned := by
    rw [owners_pending ht hget]
    exact h.manned
  opened n := by
    change (get? transactions n).map Transaction.pending = _
    rw [hget, pendingOf_some]
    by_cases hn : n = name
    · rw [if_pos hn, if_pos hn]
      rfl
    · rw [if_neg hn, if_neg hn, h.others ht hn, Option.map_none]
  stocked n p hp := by
    obtain ⟨-, rfl⟩ := Prod.mk.inj (Option.some.inj hp)
    have hpending := h.stocked name t.pending (h.opened_eq ht)
    refine hpending.buffer (h.fits hf) ?_
    rintro a before stage instant rfl hbefore
    exact lasting_move hbefore (hi instant rfl)

lemma Shows.move (hf : Faithful sound) (h : Shows sound schema start d x)
    (hm : Move d c d' (.ended answer)) (hb : c.task = .begin → x.opened = none)
    (hi : ∀ i ∈ given? c.task, i.Regular) :
    answer = (x.handle schema c.name c.task).1 ∧
      Shows sound schema start d' (x.handle schema c.name c.task).2 := by
  cases hm with
  | begin hc =>
    rw [hc]
    exact ⟨rfl, h.begin (hb hc) c.name⟩
  | unknown hc ht =>
    have hx : x.opened.map Prod.fst ≠ some c.name := by
      intro hx
      obtain ⟨⟨n, p⟩, ho, rfl⟩ := Option.map_eq_some_iff.mp hx
      have hp := h.opened c.name
      rw [ht, pendingOf_eq_some.mpr ho] at hp
      cases hp
    rw [handle_unknown hc hx]
    exact ⟨rfl, h⟩
  | work transactions ht ha _ hget =>
    rw [h.columns, h.rows] at hget ⊢
    rw [handle_work ha (h.opened_eq ht)]
    exact ⟨rfl, h.work hf ht hget hi⟩
  | commit ht hc =>
    rw [hc, handle_commit (h.opened_eq ht)]
    exact ⟨rfl, h.commit hf ht⟩
  | close ht hc =>
    rw [handle_close hc (h.opened_eq ht)]
    exact ⟨rfl, h.close ht⟩

/-- A task that runs alone is followed on the sheet. -/
theorem Shows.task (hf : Faithful sound) (h : Shows sound schema start d x)
    (hb : c.task = .begin → x.opened = none) (hi : ∀ i ∈ given? c.task, i.Regular)
    (hw : c.wait = none) (now : Nat) :
    ∃ d' said, Desk.machine.alone now d c =
        some ⟨now, d', said, (x.handle schema c.name c.task).1⟩ ∧
      Shows sound schema start d' (x.handle schema c.name c.task).2 := by
  obtain ⟨d₁, c₁, d', said, answer, halone, hmove, hname, htask, hd⟩ :=
    alone_task (hf.swift _ h.sound) h.manned (fun _ _ _ _ => h.one) hw now
  have h₁ : Shows sound schema start d₁ x := by
    rcases hd with rfl | ⟨t, a, ht, rfl⟩
    · exact h
    · exact h.join ht a
  rw [← hname, ← htask]
  rw [← htask] at hb hi
  obtain ⟨rfl, h'⟩ := h₁.move hf hmove hb hi
  exact ⟨d', said, halone, h'⟩

/-- A row that an update writes is like the rows before, if a row that is moved is. -/
lemma amend_fits {fits : AccountId → ProgressRecord → Prop} {rows : Rows}
    (hrows : ∀ a r, rows a = .ok r → fits a r) {a b : AccountId} {r : ProgressRecord} {stage : Stage}
    {i : Instant} (hmove : ∀ before, (∀ r ∈ before, fits a r) → fits a (.move schema a before stage i))
    (h : (amend schema rows a stage i).2 = some (b, r)) : fits b r := by
  unfold amend at h
  cases hr : rows a with
  | ok q =>
    rw [hr] at h
    by_cases hstage : q.status = stage
    · simp [hstage] at h
    · simp only [hstage, if_false, Option.some.injEq, Prod.mk.injEq] at h
      obtain ⟨rfl, rfl⟩ := h
      exact hmove (some q) (by simpa using hrows a q hr)
  | error e =>
    rw [hr] at h
    cases e with
    | notFound =>
      obtain ⟨rfl, rfl⟩ := Prod.mk.inj (Option.some.inj h)
      exact hmove none (by simp)
    | _ => cases h

lemma Shows.commitRow (hf : Faithful sound) (h : Shows sound schema start d x)
    {w : Option (AccountId × ProgressRecord)} (hw : ∀ a r, w = some (a, r) → Lasting schema a r) :
    sound (commitRow d.ledger.store w) ∧
      RowStore.schema (Proofs.commitRow d.ledger.store w) = schema ∧
      RowStore.row (Proofs.commitRow d.ledger.store w) = putRow x.rows w := by
  cases w with
  | none => exact ⟨h.sound, h.columns, h.rows⟩
  | some e =>
    obtain ⟨a, r⟩ := e
    have hp : Stocked (Lasting (RowStore.schema d.ledger.store)) [(a, r)] := by
      rw [h.columns]
      exact stocked_nil.insert (hw a r rfl)
    refine ⟨hf.commit _ _ h.sound hp, (hf.schema_commit _ _ h.sound).trans h.columns, ?_⟩
    rw [← h.rows]
    exact (hf.row_commit _ _ h.sound hp).trans (overlay_insert (p := []) a r)

lemma Shows.disengaged (hf : Faithful sound) (h : Shows sound schema start d x)
    (hx : x.opened = none) (u : Tracker.Update) {i : Instant} (hi : i.Regular) :
    let w := (amend schema x.rows u.account u.stage i).2
    Shows sound schema start (d.withLedger (disengaged d.ledger u w))
      { x with rows := putRow x.rows w } := by
  intro w
  have hfree : owners d "" = none := by rw [owners, h.free hx, Option.map_none]
  have hfits : ∀ a r, w = some (a, r) → Lasting schema a r :=
    fun a r => amend_fits (h.fits hf) fun before hbefore => lasting_move hbefore hi
  obtain ⟨hsound, hcolumns, hrows⟩ := h.commitRow hf hfits
  exact ⟨hsound, hcolumns, h.clock, hrows, h.manned.disengaged hfree u, h.opened, h.stocked⟩

end Desks

/-- What is asked of a store of progress. -/
inductive Question where
  | task (request : Request) (name : String) (task : Task)
  | update (request : Request) (a : AccountId) (stage : Stage) (instant : Option Instant)
  /-- The row of an account, outside of transactions. -/
  | row (a : AccountId)
  /-- All rows. -/
  | rows

namespace Question

def command {S : Type} : Question → Command S Empty
  | .task request name t => .transaction ⟨request, name, t, none⟩
  | .update request a stage instant => .update (.new request a stage instant)
  | .row a => .status a
  | .rows => .report

/-- A question that is put to a service on which nothing else runs: the answer, and the service
after it. -/
def run {S : Type} [AccountStore S] [RowStore S] (q : Question) (now : Nat) (s : Service S) :
    Option (Answer Empty × Service S) :=
  (Service.machine.alone now s q.command).map fun f => (f.result, f.shared)

/-- Whether no transaction may be open. -/
def exclusive : Question → Bool
  | .task _ _ .begin => true
  | .update _ _ _ _ => true
  | _ => false

/-- The instant that is given with a question. -/
def given? : Question → Option Instant
  | .task _ _ t => Proofs.given? t
  | .update _ _ _ instant => instant
  | _ => none

/-- The name of the transaction that is open after a question. -/
def opened (o : Option String) : Question → Option String
  | .task _ name .begin => some name
  | .task _ name .commit => if o = some name then none else o
  | .task _ name .rollback => if o = some name then none else o
  | .task _ name .drop => if o = some name then none else o
  | _ => o

end Question

namespace Sheet

/-- What a question may be answered on a sheet. -/
def Answers (schema : ProgressSchema) (start : Instant) (x : Sheet) :
    Question → Answer Empty → Prop
  | .task _ name task, answer => answer = .ofDesk (x.handle schema name task).1
  | .update _ a stage instant, answer =>
    answer = .ofExcept .change (amend schema x.rows a stage (instant.getD start)).1
  | .row a, answer => answer = .ofExcept .row (x.rows a)
  | .rows, answer => ∃ rs, answer = .rows rs ∧ Listing x.rows rs

/-- The sheet after a question. -/
def after (schema : ProgressSchema) (start : Instant) (x : Sheet) : Question → Sheet
  | .task _ name task => (x.handle schema name task).2
  | .update _ a stage instant =>
    { x with rows := putRow x.rows (amend schema x.rows a stage (instant.getD start)).2 }
  | _ => x

end Sheet

lemma answers_unique {schema : ProgressSchema} {start : Instant} {q : Question}
    {answer answer' : Answer Empty} (h : x.Answers schema start q answer)
    (h' : x.Answers schema start q answer') : answer = answer' := by
  cases q with
  | rows =>
    obtain ⟨rs, rfl, hrs⟩ := h
    obtain ⟨rs', rfl, hrs'⟩ := h'
    rw [hrs.unique hrs']
  | _ => exact h.trans h'.symm

lemma opened_handle (schema : ProgressSchema) (x : Sheet) (request : Request) (name : String)
    (task : Task) : (x.handle schema name task).2.opened.map Prod.fst =
      (Question.task request name task).opened (x.opened.map Prod.fst) := by
  by_cases hb : task = .begin
  · rw [hb]
    rfl
  by_cases hx : x.opened.map Prod.fst = some name
  · obtain ⟨⟨n, p⟩, ho, rfl⟩ := Option.map_eq_some_iff.mp hx
    cases htask : task with
    | begin => exact absurd htask hb
    | read a =>
      rw [handle_work rfl ho, ho]
      rfl
    | write a stage instant =>
      rw [handle_work rfl ho, ho]
      rfl
    | commit =>
      rw [handle_commit ho, ho]
      simp [Question.opened]
    | rollback =>
      rw [handle_close (.inl rfl) ho, ho]
      simp [Question.opened]
    | drop =>
      rw [handle_close (.inr rfl) ho, ho]
      simp [Question.opened]
  · rw [handle_unknown hb hx]
    have hkeep : (if x.opened.map Prod.fst = some name then none else x.opened.map Prod.fst) =
        x.opened.map Prod.fst := if_neg hx
    cases task with
    | begin => exact absurd rfl hb
    | read a => rfl
    | write a stage instant => rfl
    | _ => exact hkeep.symm

lemma opened_after (schema : ProgressSchema) (start : Instant) (x : Sheet) (q : Question) :
    (x.after schema start q).opened.map Prod.fst = q.opened (x.opened.map Prod.fst) := by
  cases q with
  | task request name task => exact opened_handle schema x request name task
  | _ => rfl

section Services

variable {S : Type} [AccountStore S] [RowStore S] {sound : S → Prop} {schema : ProgressSchema}
  {start : Instant} {s : Service S} {q : Question}

lemma transaction_part {A : Type} : Part (Desk.machine (S := S)) (Service.machine (A := A))
    Service.desk (fun s desk => { s with desk }) .transaction .ofDesk where
  get_put _ _ := rfl
  put_put _ _ _ := rfl
  step _ _ _ := rfl
  expire _ _ _ := rfl
  timers _ := rfl

lemma update_part {A : Type} : Part (Tracker.machine (S := S)) (Service.machine (A := A))
    (fun s => s.desk.ledger) Service.withLedger .update (.ofExcept .change) where
  get_put _ _ := rfl
  put_put _ _ _ := rfl
  step _ _ _ := rfl
  expire _ _ _ := rfl
  timers _ := rfl

lemma run_update {a : AccountId} (hs : Swift s.world.store)
    (hfree : s.desk.ledger.locks.line a = []) (request : Request) (stage : Stage)
    (instant : Option Instant) (now : Nat) :
    let w := amend (RowStore.schema s.world.store) (RowStore.row s.world.store) a stage
      (instant.getD s.world.clock.now)
    (Question.update request a stage instant).run now s = some (.ofExcept .change w.1,
      s.withLedger (disengaged s.desk.ledger (.new request a stage instant) w.2)) := by
  intro w
  obtain ⟨said, halone⟩ := alone_update hs hfree (u := .new request a stage instant) rfl now
  have hwhole := (update_part (A := Empty)).alone (k := .new request a stage instant) halone
  unfold Question.run
  rw [show Question.command _ = .update (.new request a stage instant) from rfl, hwhole]
  rfl

/-- Whatever is asked of a service whose store is faithful is followed on the sheet. -/
theorem Shows.question (hf : Faithful sound) (h : Shows sound schema start s.desk x)
    (hq : q.exclusive = true → x.opened = none) (hstart : start.Regular)
    (hi : ∀ i ∈ q.given?, i.Regular) (now : Nat) :
    ∃ answer s', q.run now s = some (answer, s') ∧ x.Answers schema start q answer ∧
      Shows sound schema start s'.desk (x.after schema start q) := by
  cases q with
  | task request name task =>
    let c : Desk.Call := ⟨request, name, task, none⟩
    have hb : c.task = .begin → x.opened = none := by
      intro hc
      refine hq ?_
      rw [show task = .begin from hc]
      rfl
    obtain ⟨d', said, halone, h'⟩ := h.task hf hb hi rfl now
    have hwhole := (transaction_part (A := Empty)).alone (k := c) halone
    unfold Question.run
    rw [show Question.command _ = .transaction c from rfl, hwhole]
    exact ⟨_, _, rfl, rfl, h'⟩
  | update request a stage instant =>
    have hx : x.opened = none := hq rfl
    have hfree : s.desk.ledger.locks.line a = [] :=
      h.manned.line_eq_nil (fun name => by rw [owners, h.free hx, Option.map_none]) a
    have hrun := run_update (hf.swift _ h.sound) hfree request stage instant now
    rw [show RowStore.schema s.world.store = schema from h.columns,
      show RowStore.row s.world.store = x.rows from h.rows,
      show s.world.clock.now = start from h.clock] at hrun
    have hinstant : (instant.getD start).Regular := by
      cases instant with
      | none => exact hstart
      | some i => exact hi i rfl
    exact ⟨_, _, hrun, rfl, h.disengaged hf hx (.new request a stage instant) hinstant⟩
  | row a =>
    refine ⟨.ofExcept .row (x.rows a), s, ?_, rfl, h⟩
    rw [← h.rows]
    rfl
  | rows =>
    obtain ⟨rs, hrs, hlisting⟩ := hf.listed _ h.sound
    rw [h.rows] at hlisting
    refine ⟨.rows rs, s, ?_, ⟨rs, rfl, hlisting⟩, h⟩
    change some (Answer.ofExcept .rows (RowStore.rows s.world.store), s) = _
    rw [show RowStore.rows s.world.store = .ok rs from hrs]
    rfl

end Services

end Tenancy.Proofs
