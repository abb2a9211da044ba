import Tenancy.Proofs.Isolation
import Tenancy.Service

/-!
# Calls that nothing disturbs

An update or a task of a transaction that runs alone on a store that is ready ends at the instant at
which it starts, whatever the store: it lines up for its row at most once, and nobody else holds it.
What it answers and writes depends on the rows alone.
-/

namespace Tenancy.Proofs

open Table Function

variable {S : Type} [RowStore S]

/-- A store in which transactions begin at once and nothing is told to fail. -/
structure Swift (s : S) : Prop where
  unfailing : Unfailing s
  prompt : RowStore.beginDelay s = 0

section Tasks

open Desk

variable {d : Desk S} {c : Desk.Call} {t : Transaction} {a : AccountId} {now : Nat}

lemma read_ended (d : Desk S) (t : Transaction) (a : AccountId) :
    ∃ d' said answer, d.read t a = ⟨d', said, .ended answer⟩ := by
  unfold Desk.read
  split <;> exact ⟨_, _, _, rfl⟩

lemma write_ended (d : Desk S) (name : String) (t : Transaction) (a : AccountId) (stage : Stage)
    (instant : Instant) :
    ∃ d' said answer, d.write name t a stage instant = ⟨d', said, .ended answer⟩ := by
  unfold Desk.write
  split <;> exact ⟨_, _, _, rfl⟩

/-- A task that does not begin a transaction ends in a turn if it needs no row or has it. -/
lemma step_ended (hs : Unfailing d.ledger.store) (hb : c.task ≠ .begin)
    (ht : get? d.transactions c.name = some t)
    (hh : ∀ a, account? c.task = some a → d.ledger.holds t a = true)
    (hw : c.wait = none ∨ (account? c.task).isSome) (now : Nat) :
    ∃ d' said answer, Desk.step now d c = some ⟨d', said, .ended answer⟩ := by
  unfold Desk.step
  rw [if_neg hb, ht]
  cases hwait : c.wait with
  | none =>
    simp only [start]
    cases hc : c.task with
    | begin => exact absurd hc hb
    | read a =>
      rw [hc] at hh
      obtain ⟨d', said, answer, hread⟩ := read_ended d t a
      exact ⟨d', said, answer, by simp only [hh a rfl, if_true, hread]⟩
    | write a stage instant =>
      rw [hc] at hh
      obtain ⟨d', said, answer, hwrite⟩ := write_ended d c.name t a stage instant
      refine ⟨d', said, answer, ?_⟩
      simp only [ledger_aboutToWrite hs.write]
      change some (if d.ledger.holds t a = true then d.write c.name t a stage instant
        else d.await now c t a) = _
      rw [if_pos (hh a rfl), hwrite]
    | commit => exact ⟨_, _, _, rfl⟩
    | rollback => exact ⟨_, _, _, rfl⟩
    | drop => exact ⟨_, _, _, rfl⟩
  | some w =>
    have hrow : (account? c.task).isSome := hw.resolve_left (by rw [hwait]; exact Option.some_ne_none w)
    simp only [resume]
    cases hc : c.task with
    | read a =>
      rw [hc] at hh
      obtain ⟨d', said, answer, hread⟩ := read_ended d t a
      exact ⟨d', said, answer, by simp only [hh a rfl, if_true, hread]⟩
    | write a stage instant =>
      rw [hc] at hh
      obtain ⟨d', said, answer, hwrite⟩ := write_ended d c.name t a stage instant
      exact ⟨d', said, answer, by simp only [hh a rfl, if_true, hwrite]⟩
    | _ =>
      rw [hc] at hrow
      cases hrow

lemma step_lines_up (hs : Unfailing d.ledger.store) (ht : get? d.transactions c.name = some t)
    (hw : c.wait = none) (ha : account? c.task = some a) (hh : d.ledger.holds t a = false) :
    Desk.step now d c = some (d.await now c t a) := by
  have hb : c.task ≠ .begin := by
    intro hb
    rw [hb] at ha
    cases ha
  unfold Desk.step
  rw [if_neg hb, ht, hw]
  simp only [start]
  cases hc : c.task with
  | read b =>
    rw [hc] at ha
    cases ha
    simp only [hh, Bool.false_eq_true, if_false]
  | write b stage instant =>
    rw [hc] at ha
    cases ha
    simp only [ledger_aboutToWrite hs.write]
    change some (if d.ledger.holds t a = true then d.write c.name t a stage instant
      else d.await now c t a) = _
    simp only [hh, Bool.false_eq_true, if_false]
  | _ =>
    rw [hc] at ha
    cases ha

/-- What a task of the only open transaction comes to when it runs alone: it may line up for its
row, and then it takes one of the turns that a call can take. -/
theorem alone_task (hs : Swift d.ledger.store) (hm : Manned d.ledger.locks (owners d))
    (hone : ∀ n n' o o', owners d n = some o → owners d n' = some o' → n = n')
    (hw : c.wait = none) (now : Nat) :
    ∃ d₁ c₁ d' said answer, Desk.machine.alone now d c = some ⟨now, d', said, answer⟩ ∧
      Move d₁ c₁ d' (.ended answer) ∧ c₁.name = c.name ∧ c₁.task = c.task ∧
      (d₁ = d ∨ ∃ t a, get? d.transactions c.name = some t ∧
        d₁ = d.withLedger (d.ledger.join t a)) := by
  unfold Machine.alone
  by_cases hb : c.task = .begin
  · let w : Wait := ⟨some now, Tracker.deadline now c.request⟩
    have harrive : Desk.step now d c = some ⟨d, [], .running { c with wait := some w }⟩ := by
      simp [Desk.step, hb, stepBegin, hw, hs.prompt, w]
    have hbegin : Desk.step now d { c with wait := some w } =
        some ⟨d.assign c.name, [], .ended .done⟩ := by
      simp [Desk.step, hb, stepBegin, w, stop]
    rw [aloneFrom_running harrive, aloneFrom_ended hbegin]
    exact ⟨d, { c with wait := some w }, _, _, _, rfl, .begin hb, rfl, rfl, .inl rfl⟩
  · cases ht : get? d.transactions c.name with
    | none =>
      have hunknown : Desk.step now d c = some ⟨d, [], .ended .unknown⟩ := by
        unfold Desk.step
        rw [if_neg hb, ht]
        rfl
      rw [aloneFrom_ended hunknown]
      exact ⟨d, c, _, _, _, rfl, .unknown hb ht, rfl, rfl, .inl rfl⟩
    | some t =>
      by_cases hh : ∀ a, account? c.task = some a → d.ledger.holds t a = true
      · obtain ⟨d', said, answer, hu⟩ := step_ended hs.unfailing hb ht hh (.inl hw) now
        rw [aloneFrom_ended hu]
        exact ⟨d, c, d', _, answer, rfl, move_of_step hs.unfailing hu, rfl, rfl, .inl rfl⟩
      · push Not at hh
        obtain ⟨a, ha, hh⟩ := hh
        let d₁ : Desk S := d.withLedger (d.ledger.join t a)
        let c₁ : Desk.Call := { c with wait := some ⟨none, Tracker.deadline now c.request⟩ }
        have hwait : Desk.step now d c = some ⟨d₁, [], .running c₁⟩ :=
          step_lines_up hs.unfailing ht hw ha (by simpa using hh)
        have hholds : ∀ b, account? c₁.task = some b → d₁.ledger.holds t b = true := by
          intro b hb'
          rw [← Option.some.inj (ha.symm.trans hb')]
          exact hm.holds_join (owners_of ht) (fun j p hj => hone j _ p _ hj (owners_of ht)) a
        have hready : Unfailing d₁.ledger.store := hs.unfailing
        obtain ⟨d', said, answer, hu⟩ := step_ended (c := c₁) hready hb ht hholds
          (.inr (Option.isSome_iff_exists.mpr ⟨a, ha⟩)) now
        rw [aloneFrom_running hwait, aloneFrom_ended hu]
        exact ⟨d₁, c₁, d', _, answer, rfl, move_of_step hready hu, rfl, rfl, .inr ⟨t, a, rfl, rfl⟩⟩

end Tasks

section Updates

open Tracker

/-- What an update answers, and the row that it writes. -/
def amend (schema : ProgressSchema) (rows : Rows) (a : AccountId) (stage : Stage) (i : Instant) :
    Except Error StatusChange × Option (AccountId × ProgressRecord) :=
  match rows a with
  | .ok r =>
    if r.status = stage then (.ok .unchanged, none)
    else (.ok (.updated r.status), some (a, .move schema a (some r) stage i))
  | .error .notFound => (.ok .created, some (a, .move schema a none stage i))
  | .error e => (.error e, none)

lemma amend_congr {schema : ProgressSchema} {rows rows' : Rows} {a : AccountId}
    (h : rows a = rows' a) (stage : Stage) (i : Instant) :
    amend schema rows a stage i = amend schema rows' a stage i := by
  unfold amend
  rw [h]

lemma amend_account {schema : ProgressSchema} {rows : Rows} {a a' : AccountId} {stage : Stage}
    {i : Instant} {r : ProgressRecord} (h : (amend schema rows a stage i).2 = some (a', r)) :
    a' = a := by
  unfold amend at h
  split at h
  · split at h <;> cases h
    rfl
  · cases h
    rfl
  · cases h

/-- The store after a row was committed, if there is one. -/
def commitRow (s : S) : Option (AccountId × ProgressRecord) → S
  | some e => RowStore.commit s [e]
  | none => s

omit [RowStore S] in
/-- The ledger of an update that holds its row and runs alone. -/
def engaged (l : Ledger S) (u : Update) : Ledger S :=
  l.begin.2.join l.begin.1 u.account

/-- The ledger after an update that ran alone and wrote a row, or none. -/
def disengaged (l : Ledger S) (u : Update) (row : Option (AccountId × ProgressRecord)) : Ledger S :=
  ⟨{ l.world with store := commitRow l.store row },
    (engaged l u).locks.release l.begin.1.owner⟩

variable {l : Ledger S} {u : Update}

omit [RowStore S] in
lemma engaged_holds (h : l.locks.line u.account = []) :
    (engaged l u).holds l.begin.1 u.account = true := by
  have hline : l.locks.enroll.line u.account = [] := h
  unfold Ledger.holds
  rw [holds_iff]
  unfold engaged Ledger.join Ledger.begin
  rw [line_join, hline, if_pos ⟨rfl, List.not_mem_nil⟩]
  rfl

omit [RowStore S] in
lemma Manned.disengaged {ι : Type} [DecidableEq ι] {own : ι → Option Nat} {i : ι}
    (h : Manned l.locks own) (hi : own i = none) (u : Update) :
    Manned ((engaged l u).locks.release l.begin.1.owner) own := by
  have hjoin := (h.enroll hi).join (update_self i _ own) u.account
  have hleft := hjoin.release (update_self i _ own)
  rwa [update_idem, ← hi, update_eq_self] at hleft

lemma alone_read (hs : Swift l.store) (hfree : l.locks.line u.account = [])
    (hu : u.phase = .arriving) (now : Nat) :
    Tracker.machine.alone now l u = match decide u l.begin.1 (RowStore.row l.store u.account) with
      | .ok p => Tracker.machine.aloneFrom 13 now (engaged l u) [] { u with phase := p }
      | .error e => some ⟨now, disengaged l u none, [], .error e⟩ := by
  let limit := deadline now u.request
  have harrive : step now l u = some ⟨l, [], .running { u with phase := .beginning now limit }⟩ := by
    simp [step, hu, hs.prompt, goOn, limit]
  have hbegin : step now l { u with phase := .beginning now limit } =
      some ⟨engaged l u, [], .running { u with phase := .locking l.begin.1 limit }⟩ := by
    simp only [step, Nat.lt_irrefl, if_false]
    rfl
  have hread : (engaged l u).read l.begin.1 u.account =
      (RowStore.row l.store u.account, engaged l u) := by
    have hready : Unfailing (engaged l u).store := hs.unfailing
    rw [ledger_read hready.read]
    rfl
  unfold Machine.alone
  rw [aloneFrom_running harrive, aloneFrom_running hbegin]
  cases hd : decide u l.begin.1 (RowStore.row l.store u.account) with
  | ok p =>
    have hlock : step now (engaged l u) { u with phase := .locking l.begin.1 limit } =
        some ⟨engaged l u, [], .running { u with phase := p }⟩ := by
      replace hd : decide { u with phase := .locking l.begin.1 limit } l.begin.1
          (RowStore.row l.store u.account) = .ok p := hd
      simp only [step]
      rw [if_pos (engaged_holds hfree), hread, hd]
      rfl
    rw [aloneFrom_running hlock]
    rfl
  | error e =>
    have hlock : step now (engaged l u) { u with phase := .locking l.begin.1 limit } =
        some ⟨disengaged l u none, [], .ended (.error e)⟩ := by
      replace hd : decide { u with phase := .locking l.begin.1 limit } l.begin.1
          (RowStore.row l.store u.account) = .error e := hd
      simp only [step]
      rw [if_pos (engaged_holds hfree), hread, hd]
      rfl
    rw [aloneFrom_ended hlock]
    rfl

lemma alone_written (hs : Unfailing l.store) {c : StatusChange} (before : Option ProgressRecord)
    (hrow : RowStore.row l.store u.account = before.elim (.error .notFound) .ok) (fuel now : Nat) :
    ∃ said, Tracker.machine.aloneFrom (fuel + 2) now (engaged l u) []
        { u with phase := .writing l.begin.1 c } =
      some ⟨now, disengaged l u (some (u.account, .move (RowStore.schema l.store) u.account before
        u.stage (u.instant.getD l.world.clock.now))), said, .ok c⟩ := by
  let i := u.instant.getD l.world.clock.now
  let r := ProgressRecord.move (RowStore.schema l.store) u.account before u.stage i
  let t : Transaction := ⟨l.begin.1.owner, [(u.account, r)]⟩
  have hready : Unfailing (engaged l u).store := hs
  have hput : (engaged l u).write l.begin.1 u.account u.stage i = (.ok t, engaged l u) := by
    have hcurrent : overlay (RowStore.row (engaged l u).store) l.begin.1.pending u.account =
        before.elim (.error .notFound) .ok := hrow
    unfold Ledger.write
    rw [ledger_read hready.read, hcurrent]
    cases before <;> rfl
  have hwrite : step now (engaged l u) { u with phase := .writing l.begin.1 c } =
      some ⟨engaged l u, [], .running { u with phase := .committing t c i }⟩ := by
    simp only [step, write]
    rw [ledger_aboutToWrite hready.write]
    simp only
    rw [show u.instant.getD (engaged l u).world.clock.now = i from rfl, hput]
    rfl
  have hcommit : step now (engaged l u) { u with phase := .committing t c i } =
      some ⟨disengaged l u (some (u.account, r)), [movedNotice u c i], .ended (.ok c)⟩ := rfl
  rw [aloneFrom_running hwrite, aloneFrom_ended hcommit]
  exact ⟨_, rfl⟩

/-- An update that runs alone, and for whose row nobody is in line, ends at once, with the answer and
the row that its row calls for. -/
theorem alone_update (hs : Swift l.store) (hfree : l.locks.line u.account = [])
    (hu : u.phase = .arriving) (now : Nat) :
    let w := amend (RowStore.schema l.store) (RowStore.row l.store) u.account u.stage
      (u.instant.getD l.world.clock.now)
    ∃ said, Tracker.machine.alone now l u = some ⟨now, disengaged l u w.2, said, w.1⟩ := by
  rw [alone_read hs hfree hu]
  unfold amend
  cases hrow : RowStore.row l.store u.account with
  | ok r =>
    by_cases hstage : r.status = u.stage
    · have hkeep : step now (engaged l u) { u with phase := .keeping l.begin.1 } =
          some ⟨disengaged l u none, [keptNotice u], .ended (.ok .unchanged)⟩ := rfl
      simp only [Tracker.decide, hstage, if_true]
      rw [aloneFrom_ended hkeep]
      exact ⟨_, rfl⟩
    · simp only [Tracker.decide, hstage, if_false]
      exact alone_written hs.unfailing (some r) hrow 11 now
  | error e =>
    cases e with
    | notFound => exact alone_written hs.unfailing none hrow 11 now
    | _ => exact ⟨_, rfl⟩

end Updates

end Tenancy.Proofs
