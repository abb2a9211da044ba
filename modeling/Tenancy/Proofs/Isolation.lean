import Tenancy.Proofs.History
import Tenancy.Proofs.Locks
import Tenancy.Proofs.Rows

/-!
# Transactions that do not see each other

Transactions on a desk have the effect of running those that commit one after another. Each row
that an open transaction has touched is its own until it ends, so what it has done so far is what
it would do now, alone and on the rows as they are. A commit of another one changes none of these
rows.
-/

namespace Tenancy.Proofs

open Table Function Desk

section Moves

variable {S : Type} [RowStore S]

/-- What a turn of a call may do on a desk whose store is ready. -/
inductive Move (d : Desk S) (c : Call) : Desk S → Next Call Desk.Answer → Prop where
  | arrive (w : Wait) : c.task = .begin → Move d c d (.running { c with wait := some w })
  | begin : c.task = .begin → Move d c (d.assign c.name) (.ended .done)
  | unknown : c.task ≠ .begin → get? d.transactions c.name = none → Move d c d (.ended .unknown)
  | await (w : Wait) {t : Transaction} {a : AccountId} : get? d.transactions c.name = some t →
      account? c.task = some a → d.ledger.holds t a = false →
      Move d c (d.withLedger (d.ledger.join t a)) (.running { c with wait := some w })
  | work {t : Transaction} {a : AccountId} (transactions : Table String Transaction) :
      get? d.transactions c.name = some t → account? c.task = some a →
      d.ledger.holds t a = true →
      (∀ name, get? transactions name =
        if name = c.name then
          some { t with pending :=
            (buffer (RowStore.schema d.ledger.store) (RowStore.row d.ledger.store) t.pending
              c.task).2 }
        else get? d.transactions name) →
      Move d c { d with transactions }
        (.ended (buffer (RowStore.schema d.ledger.store) (RowStore.row d.ledger.store) t.pending
          c.task).1)
  | commit {t : Transaction} : get? d.transactions c.name = some t → c.task = .commit →
      Move d c ⟨d.ledger.commit t, d.transactions.erase c.name⟩ (.ended .done)
  | close {t : Transaction} : get? d.transactions c.name = some t →
      c.task = .rollback ∨ c.task = .drop → Move d c (d.close c.name t) (.ended .done)

variable {d : Desk S} {c : Call} {t : Transaction} {a : AccountId} {now : Nat}
  {u : CallTurn S}

omit [RowStore S] in
lemma get?_same (ht : get? d.transactions c.name = some t) (name : String) :
    get? d.transactions name = if name = c.name then some t else get? d.transactions name := by
  by_cases hn : name = c.name
  · rw [if_pos hn, hn, ht]
  · rw [if_neg hn]

lemma move_read (h : Unfailing d.ledger.store) (ht : get? d.transactions c.name = some t)
    (hc : c.task = .read a) (hh : d.ledger.holds t a = true) :
    Move d c (d.read t a).shared (d.read t a).next := by
  have hacc : account? c.task = some a := by rw [hc]; rfl
  have hm := Move.work d.transactions ht hacc hh
  unfold Desk.read
  rw [ledger_read h.read]
  simp only [buffer, hc, work] at hm
  cases hrow : overlay (RowStore.row d.ledger.store) t.pending a with
  | ok r =>
    rw [hrow] at hm
    exact hm (get?_same ht)
  | error e =>
    rw [hrow] at hm
    exact hm (get?_same ht)

lemma move_write (h : Unfailing d.ledger.store) (ht : get? d.transactions c.name = some t)
    {stage : Stage} {instant : Instant} (hc : c.task = .write a stage instant)
    (hh : d.ledger.holds t a = true) :
    Move d c (d.write c.name t a stage instant).shared (d.write c.name t a stage instant).next := by
  have hacc : account? c.task = some a := by rw [hc]; rfl
  have hm := fun transactions => Move.work transactions ht hacc hh
  have hput : ∀ t' name, get? (d.transactions.insert c.name t') name =
      if name = c.name then some t' else get? d.transactions name :=
    fun t' name => get?_insert _ _ _ _
  unfold Desk.write Ledger.write
  rw [ledger_read h.read]
  simp only [buffer, hc, work] at hm
  cases hrow : overlay (RowStore.row d.ledger.store) t.pending a with
  | ok r =>
    rw [hrow] at hm
    exact hm _ (hput _)
  | error e =>
    rw [hrow] at hm
    cases e with
    | notFound => exact hm _ (hput _)
    | _ => exact hm _ (get?_same ht)

lemma move_start (h : Unfailing d.ledger.store) (ht : get? d.transactions c.name = some t)
    (hb : c.task ≠ .begin) : Move d c (d.start now c t).shared (d.start now c t).next := by
  unfold Desk.start
  cases hc : c.task with
  | begin => exact absurd hc hb
  | read a =>
    simp only
    split
    · rename_i hh
      exact move_read h ht hc hh
    · rename_i hh
      exact .await _ ht (by rw [hc]; rfl) (by simpa using hh)
  | write a stage instant =>
    simp only [ledger_aboutToWrite h.write]
    split
    · rename_i hh
      exact move_write h ht hc hh
    · rename_i hh
      exact .await _ ht (by rw [hc]; rfl) (by simpa [withLedger] using hh)
  | commit => exact .commit ht hc
  | rollback => exact .close ht (.inl hc)
  | drop => exact .close ht (.inr hc)

lemma move_of_step (h : Unfailing d.ledger.store) (hu : Desk.step now d c = some u) :
    Move d c u.shared u.next := by
  unfold Desk.step at hu
  split at hu
  · rename_i hb
    unfold stepBegin at hu
    split at hu
    · rw [← Option.some.inj hu]
      exact .arrive _ hb
    · split at hu
      · cases hu
      · rw [← Option.some.inj hu]
        exact .begin hb
  · rename_i hb
    split at hu
    · rename_i ht
      rw [← Option.some.inj hu]
      exact .unknown hb ht
    · rename_i ht _
      rw [← Option.some.inj hu]
      exact move_start h ht hb
    · rename_i t w ht hw
      unfold resume at hu
      split at hu
      · rename_i hc
        split at hu
        · rename_i hh
          rw [← Option.some.inj hu]
          exact move_read h ht hc hh
        · cases hu
      · rename_i hc
        split at hu
        · rename_i hh
          rw [← Option.some.inj hu]
          exact move_write h ht hc hh
        · cases hu
      · cases hu

end Moves

section Steady

variable {S : Type} [RowStore S]

/-- A task that is done has touched the row of an account. -/
def Touched (done : List (Task × Desk.Answer)) (a : AccountId) : Prop :=
  ∃ e ∈ done, account? e.1 = some a

/-- An open transaction holds each row that it has touched, and what it has done is what it would do
now if it were alone. -/
structure Alone (l : Ledger S) (t : Transaction) (done : List (Task × Desk.Answer)) : Prop where
  held : ∀ a, Touched done a → l.holds t a = true
  buffered : oneByOne (buffer (RowStore.schema l.store) (RowStore.row l.store)) []
    (done.map Prod.fst) = (done.map Prod.snd, t.pending)

/-- The numbers of the open transactions by their names. -/
def owners (d : Desk S) (name : String) : Option Nat :=
  (get? d.transactions name).map Transaction.owner

/-- The transactions that have committed answered as they do one after another, and left the rows as
they are; those that are open are as if they were alone. -/
structure Steady (kept : ProgressRecord → ProgressRecord) (base : S) (j : Journal) (d : Desk S) :
    Prop where
  ready : Unfailing d.ledger.store
  schema : RowStore.schema d.ledger.store = RowStore.schema base
  manned : Manned d.ledger.locks (owners d)
  opened : ∀ name, Option.Rel (Alone d.ledger) (get? d.transactions name) (get? j.opened name)
  committed : serial (RowStore.schema base) kept (RowStore.row base)
    (j.committed.map (List.map Prod.fst)) =
      (j.committed.map (List.map Prod.snd), RowStore.row d.ledger.store)

variable {kept : ProgressRecord → ProgressRecord} {base : S} {j : Journal} {d d' : Desk S}
  {l l' : Ledger S} {c : Call} {t t' : Transaction}
  {done : List (Task × Desk.Answer)} {a : AccountId} {name : String} {answer : Desk.Answer}

lemma alone_nil (l : Ledger S) (o : Nat) : Alone l ⟨o, []⟩ [] where
  held := by
    rintro a ⟨e, he, -⟩
    cases he
  buffered := rfl

/-- An open transaction does not notice what happens to rows that it has not touched. -/
lemma Alone.frame (h : Alone l t done) (hs : RowStore.schema l'.store = RowStore.schema l.store)
    (hh : ∀ a, Touched done a → l.holds t a = true → l'.holds t a = true)
    (hr : ∀ a, Touched done a → RowStore.row l'.store a = RowStore.row l.store a) :
    Alone l' t done where
  held a ha := hh a ha (h.held a ha)
  buffered := by
    rw [hs, ← h.buffered]
    refine buffer_congr ?_ []
    intro task ht a ha
    obtain ⟨e, he, rfl⟩ := List.mem_map.mp ht
    exact hr a ⟨e, he, ha⟩

lemma Alone.work (h : Alone l t done) {task : Task} (ha : account? task = some a)
    (hh : l.holds t a = true) :
    Alone l { t with pending :=
        (buffer (RowStore.schema l.store) (RowStore.row l.store) t.pending task).2 }
      (done ++ [(task,
        (buffer (RowStore.schema l.store) (RowStore.row l.store) t.pending task).1)]) where
  held b := by
    rintro ⟨e, he, hb⟩
    rcases List.mem_append.mp he with he | he
    · exact h.held b ⟨e, he, hb⟩
    · rw [List.mem_singleton.mp he, ha] at hb
      rw [← Option.some.inj hb]
      exact hh
  buffered := by
    rw [List.map_append, List.map_append, oneByOne_append, h.buffered]
    rfl

lemma Steady.get?_opened (h : Steady kept base j d) (ht : get? d.transactions name = some t) :
    ∃ done, get? j.opened name = some done ∧ Alone d.ledger t done := by
  have ho := h.opened name
  rw [ht] at ho
  cases hd : get? j.opened name with
  | none =>
    rw [hd] at ho
    cases ho
  | some done =>
    rw [hd] at ho
    cases ho with
    | some ha => exact ⟨done, rfl, ha⟩

lemma Steady.get?_none (h : Steady kept base j d) (ht : get? d.transactions name = none) :
    get? j.opened name = none := by
  have ho := h.opened name
  rw [ht] at ho
  cases hd : get? j.opened name with
  | none => rfl
  | some done =>
    rw [hd] at ho
    cases ho

/-- Two open transactions with one number have one name. -/
lemma Steady.apart (h : Steady kept base j d) {name' : String}
    (ht : get? d.transactions name = some t) (ht' : get? d.transactions name' = some t')
    (ho : t'.owner = t.owner) : name' = name := by
  refine h.manned.apart name' name t.owner ?_ ?_
  · rw [owners, ht', Option.map_some, ho]
  · rw [owners, ht, Option.map_some]

lemma Steady.rel (h : Steady kept base j d) (hframe : ∀ t done, get? d.transactions name = some t →
    get? j.opened name = some done → Alone d.ledger t done → Alone l' t done) :
    Option.Rel (Alone l') (get? d.transactions name) (get? j.opened name) := by
  cases ht : get? d.transactions name with
  | none =>
    rw [h.get?_none ht]
    exact .none
  | some t =>
    obtain ⟨done, hd, ha⟩ := h.get?_opened ht
    rw [hd]
    exact .some (hframe t done ht hd ha)

/-- A turn for the transaction of one name, which those of other names do not notice. -/
lemma Steady.others (h : Steady kept base j d) {mine : String} {x : Option Transaction}
    {y : Option (List (Task × Desk.Answer))} {transactions : Table String Transaction}
    {opened : Table String (List (Task × Desk.Answer))}
    (ht : ∀ name, get? transactions name = if name = mine then x else get? d.transactions name)
    (ho : ∀ name, get? opened name = if name = mine then y else get? j.opened name)
    (hxy : Option.Rel (Alone l') x y)
    (hframe : ∀ name t done, name ≠ mine → get? d.transactions name = some t →
      Alone d.ledger t done → Alone l' t done) (name : String) :
    Option.Rel (Alone l') (get? transactions name) (get? opened name) := by
  rw [ht, ho]
  by_cases hn : name = mine
  · rw [if_pos hn, if_pos hn]
    exact hxy
  · rw [if_neg hn, if_neg hn]
    exact h.rel fun t done htn _ ha => hframe name t done hn htn ha

lemma Steady.keeps_hold (h : Steady kept base j d) {mine : String}
    (ht : get? d.transactions mine = some t) (ht' : get? d.transactions name = some t')
    (hn : name ≠ mine) (hh : d.ledger.holds t' a = true) :
    (d.ledger.close t).holds t' a = true := by
  refine holds_release h.manned.tidy hh ?_
  intro ho
  exact hn (h.apart ht ht' ho)

/-- The journal after a turn of a call. -/
def Journal.turn (j : Journal) (c : Call) : Next Call Desk.Answer → Journal
  | .running _ => j
  | .ended answer => j.note c.name c.task answer

lemma note_none (hb : c.task ≠ .begin) (hn : get? j.opened c.name = none) :
    j.note c.name c.task answer = j := by
  unfold Journal.note
  rw [hn]
  cases hc : c.task with
  | begin => exact absurd hc hb
  | _ => rfl

lemma note_work (ha : account? c.task = some a) (hd : get? j.opened c.name = some done) :
    j.note c.name c.task answer =
      { j with opened := j.opened.insert c.name (done ++ [(c.task, answer)]) } := by
  unfold Journal.note
  rw [hd]
  cases hc : c.task with
  | read b => rfl
  | write b stage instant => rfl
  | _ =>
    rw [hc] at ha
    cases ha

lemma note_close (hc : c.task = .rollback ∨ c.task = .drop)
    (hd : get? j.opened c.name = some done) :
    j.note c.name c.task answer = { j with opened := j.opened.erase c.name } := by
  unfold Journal.note
  rw [hd]
  rcases hc with hc | hc <;> rw [hc]

omit [RowStore S] in
lemma owners_of (ht : get? d.transactions name = some t) : owners d name = some t.owner := by
  rw [owners, ht, Option.map_some]

omit [RowStore S] in
lemma owners_erase (d' : Desk S) (hd : d'.transactions = d.transactions.erase name) :
    owners d' = update (owners d) name none := by
  funext n
  rw [owners, hd, get?_erase]
  by_cases hn : n = name
  · rw [if_pos hn, hn, update_self, Option.map_none]
  · rw [if_neg hn, update_of_ne hn, owners]

omit [RowStore S] in
lemma owners_pending {p : Table AccountId ProgressRecord} {transactions : Table String Transaction}
    (ht : get? d.transactions name = some t)
    (hget : ∀ n, get? transactions n =
      if n = name then some { t with pending := p } else get? d.transactions n) :
    owners { d with transactions } = owners d := by
  funext n
  change (get? transactions n).map Transaction.owner = _
  rw [hget]
  by_cases hn : n = name
  · rw [if_pos hn, hn, owners_of ht]
    rfl
  · rw [if_neg hn, owners]

omit [RowStore S] in
lemma owners_assign (d : Desk S) (name : String) :
    owners (d.assign name) = update (owners d) name (some d.ledger.locks.nextOwner) := by
  funext n
  change (get? (d.transactions.insert name _) n).map Transaction.owner = _
  rw [get?_insert]
  by_cases hn : n = name
  · rw [if_pos hn, hn, update_self]
    rfl
  · rw [if_neg hn, update_of_ne hn, owners]

lemma Steady.locks_assign (h : Steady kept base j d) (name : String) :
    ∃ locks, (d.assign name).ledger = { d.ledger with locks } ∧
      Manned locks (update (owners d) name (some d.ledger.locks.nextOwner)) ∧
      ∀ name' t a, name' ≠ name → get? d.transactions name' = some t →
        d.ledger.holds t a = true → locks.holds a t.owner = true := by
  cases ht : get? d.transactions name with
  | none =>
    have hfree : owners d name = none := by rw [owners, ht, Option.map_none]
    refine ⟨d.ledger.locks.enroll, ?_, h.manned.enroll hfree, fun _ _ _ _ _ hh => hh⟩
    simp only [assign, ht]
    rfl
  | some old =>
    have hm := (h.manned.release (owners_of ht)).enroll (update_self name none (owners d))
    rw [update_idem] at hm
    refine ⟨(d.ledger.locks.release old.owner).enroll, ?_, hm, ?_⟩
    · simp only [assign, ht]
      rfl
    · intro name' t a hn htn hh
      exact h.keeps_hold ht htn hn hh

lemma Steady.begin (h : Steady kept base j d) :
    Steady kept base { j with opened := j.opened.insert name [] } (d.assign name) := by
  obtain ⟨locks, hl, hm, hh⟩ := h.locks_assign name
  have hown := owners_assign d name
  refine ⟨?_, ?_, ?_, ?_, ?_⟩
  · rw [hl]
    exact h.ready
  · rw [hl]
    exact h.schema
  · rw [hl, hown]
    exact hm
  · refine h.others (fun n => get?_insert _ _ _ _) (fun n => get?_insert _ _ _ _)
      (.some (alone_nil _ _)) ?_
    intro n t done hn htn ha
    rw [hl]
    exact ha.frame rfl (fun a _ => hh n t a hn htn) fun _ _ => rfl
  · rw [hl]
    exact h.committed

lemma Steady.await (h : Steady kept base j d) (ht : get? d.transactions name = some t)
    (a : AccountId) : Steady kept base j (d.withLedger (d.ledger.join t a)) where
  ready := h.ready
  schema := h.schema
  manned := h.manned.join (owners_of ht) a
  opened _ := h.rel fun _ _ _ _ ha =>
    ha.frame rfl (fun _ _ hh => holds_join hh a t.owner) fun _ _ => rfl
  committed := h.committed

lemma Steady.close (h : Steady kept base j d) (ht : get? d.transactions c.name = some t) :
    Steady kept base { j with opened := j.opened.erase c.name } (d.close c.name t) where
  ready := h.ready
  schema := h.schema
  manned := by
    rw [owners_erase (d.close c.name t) rfl]
    exact h.manned.release (owners_of ht)
  opened := by
    refine h.others (fun n => get?_erase _ _ _) (fun n => get?_erase _ _ _) .none ?_
    intro n t' done hn htn ha
    exact ha.frame rfl (fun a _ hh => h.keeps_hold ht htn hn hh) fun _ _ => rfl
  committed := h.committed

lemma Steady.work (h : Steady kept base j d) (ht : get? d.transactions c.name = some t)
    (ha : account? c.task = some a) (hh : d.ledger.holds t a = true)
    {transactions : Table String Transaction}
    (hget : ∀ name, get? transactions name =
      if name = c.name then
        some { t with pending :=
          (buffer (RowStore.schema d.ledger.store) (RowStore.row d.ledger.store) t.pending
            c.task).2 }
      else get? d.transactions name) :
    Steady kept base (j.note c.name c.task
      (buffer (RowStore.schema d.ledger.store) (RowStore.row d.ledger.store) t.pending c.task).1)
      { d with transactions } := by
  obtain ⟨done, hd, halone⟩ := h.get?_opened ht
  rw [note_work ha hd]
  refine ⟨h.ready, h.schema, ?_, ?_, h.committed⟩
  · rw [owners_pending ht hget]
    exact h.manned
  · exact h.others hget (fun n => get?_insert _ _ _ _) (.some (halone.work ha hh))
      fun n t' done' _ _ ha' => ha'

variable [RowKeeper S]

/-- A commit of a transaction is what it would be if the transaction had begun and ended now. -/
lemma Steady.commit (h : Steady (RowKeeper.kept S) base j d)
    (hs : RowKeeper.Sound S (RowStore.schema base)) (ht : get? d.transactions c.name = some t)
    (hc : c.task = .commit) : Steady (RowKeeper.kept S) base (j.note c.name c.task .done)
      ⟨d.ledger.commit t, d.transactions.erase c.name⟩ := by
  obtain ⟨done, hd, halone⟩ := h.get?_opened ht
  have hnote : j.note c.name c.task .done = ⟨j.opened.erase c.name, j.committed ++ [done]⟩ := by
    rw [hc]
    unfold Journal.note
    rw [hd]
  have hkempt := kempt_buffer d.ledger.store (done.map Prod.fst)
  have hrows := row_commit_buffer (s := d.ledger.store) (h.schema ▸ hs) (done.map Prod.fst)
  rw [halone.buffered] at hkempt hrows
  have hmine : ∀ a, a ∈ keys t.pending → d.ledger.holds t a = true := by
    intro a ha
    obtain ⟨task, htask, hacc⟩ := hkempt.touched a ha
    obtain ⟨e, he, rfl⟩ := List.mem_map.mp htask
    exact halone.held a ⟨e, he, hacc⟩
  rw [hnote]
  refine ⟨RowKeeper.ready_commit _ _ h.ready, ?_, ?_, ?_, ?_⟩
  · exact (RowKeeper.schema_commit _ _).trans h.schema
  · rw [owners_erase ⟨d.ledger.commit t, d.transactions.erase c.name⟩ rfl]
    exact h.manned.release (owners_of ht)
  · refine h.others (fun n => get?_erase _ _ _) (fun n => get?_erase _ _ _) .none ?_
    intro n t' done' hn htn ha'
    have howner : t'.owner ≠ t.owner := fun ho => hn (h.apart ht htn ho)
    refine ha'.frame (RowKeeper.schema_commit _ _) ?_ ?_
    · intro a _ hh
      exact h.keeps_hold ht htn hn hh
    · intro a htouched
      change RowStore.row (RowStore.commit d.ledger.store t.pending) a = _
      refine row_commit_of_notMem (h.schema ▸ hs) hkempt.toStocked ?_
      intro hmem
      exact howner (holds_unique (ha'.held a htouched) (hmine a hmem))
  · have hone := perform_buffer (RowStore.schema d.ledger.store) (RowStore.row d.ledger.store) []
      (done.map Prod.fst)
    rw [halone.buffered, overlay_nil] at hone
    change serial _ _ _ ((j.committed ++ [done]).map _) = ((j.committed ++ [done]).map _,
      RowStore.row (RowStore.commit d.ledger.store t.pending))
    have hcommitted := h.committed
    unfold serial at hcommitted ⊢
    rw [List.map_append, List.map_append, oneByOne_append, hcommitted, hrows, ← h.schema]
    simp only [List.map_cons, List.map_nil, oneByOne, transact]
    rw [hone]

lemma Steady.move {next : Next Call Desk.Answer} (h : Steady (RowKeeper.kept S) base j d)
    (hs : RowKeeper.Sound S (RowStore.schema base)) (hm : Move d c d' next) :
    Steady (RowKeeper.kept S) base (j.turn c next) d' := by
  cases hm with
  | arrive w _ => exact h
  | begin hb =>
    rw [Journal.turn, hb]
    exact h.begin
  | unknown hb hn =>
    rw [Journal.turn, note_none hb (h.get?_none hn)]
    exact h
  | await w ht ha _ => exact h.await ht _
  | work transactions ht ha hh hget => exact h.work ht ha hh hget
  | commit ht hc => exact h.commit hs ht hc
  | close ht hc =>
    obtain ⟨done, hd, -⟩ := h.get?_opened ht
    rw [Journal.turn, note_close hc hd]
    exact h.close ht

end Steady

section Calls

variable {S : Type} [RowStore S] {kept : ProgressRecord → ProgressRecord} {base : S} {j : Journal}
  {d d' : Desk S} {c c' : Call}
  {log : List (Nat × Call × Desk.Answer)} {f : Standing Call Desk.Answer}

/-- No transaction is used by two calls at a time, since a call has its transaction to itself. -/
def OneEach (_ : Desk S) (f : Standing Call Desk.Answer) : Prop :=
  ∀ i k b c, f i = some (.running b) → f k = some (.running c) → b.name = c.name → i = k

/-- What may happen to a desk between turns: its clock and its store may change, but for the rows of
progress and their columns, and nothing begins to fail. -/
structure Aside (d d' : Desk S) : Prop where
  transactions : d'.transactions = d.transactions
  locks : d'.ledger.locks = d.ledger.locks
  schema : RowStore.schema d'.ledger.store = RowStore.schema d.ledger.store
  rows : RowStore.row d'.ledger.store = RowStore.row d.ledger.store
  ready : Unfailing d'.ledger.store

/-- A desk on which no transaction is open yet, and calls that have yet to start. -/
structure Opening (r : Run (Desk S) Call Desk.Answer) : Prop where
  transactions : r.shared.transactions = []
  lines : r.shared.ledger.locks.lines = []
  calls : Unstarted (fun c => c.wait = none) (standing r)

/-- Transactions that do not see each other. -/
structure Isolated (kept : ProgressRecord → ProgressRecord) (base : S)
    (log : List (Nat × Call × Desk.Answer)) (d : Desk S) : Prop where
  /-- The answers of the transactions that have committed, and the rows of the store, are those of
  running these transactions alone, one after another in the order of their commits, each on the
  rows that the store gives back after the one before it. -/
  committed : serial (RowStore.schema base) kept (RowStore.row base)
    ((journal log).committed.map (List.map Prod.fst)) =
      ((journal log).committed.map (List.map Prod.snd), RowStore.row d.ledger.store)
  /-- An open transaction has had the answers that it would have alone on these rows. -/
  opened : ∀ name done, get? (journal log).opened name = some done →
    (oneByOne (perform (RowStore.schema base)) (RowStore.row d.ledger.store)
      (done.map Prod.fst)).1 = done.map Prod.snd
  named : ∀ name, (get? d.transactions name).isSome = (get? (journal log).opened name).isSome
  /-- Nobody but an open transaction holds a row or waits for one. -/
  lined : ∀ a o, o ∈ d.ledger.locks.line a →
    ∃ name t, get? d.transactions name = some t ∧ t.owner = o

/-- What a history of calls keeps: a call waits for no row that its transaction has touched
before. -/
structure Orderly (kept : ProgressRecord → ProgressRecord) (base : S)
    (log : List (Nat × Call × Desk.Answer)) (d : Desk S) (f : Standing Call Desk.Answer) :
    Prop where
  steady : Steady kept base (journal log) d
  new : Planned (fun c => c.wait = none) f
  one : OneEach d f
  waiting : ∀ i c, f i = some (.running c) → c.wait ≠ none → ∀ a, account? c.task = some a →
    ∀ done, get? (journal log).opened c.name = some done → ¬ Touched done a

lemma Steady.aside (h : Steady kept base j d) (ha : Aside d d') : Steady kept base j d' where
  ready := ha.ready
  schema := ha.schema.trans h.schema
  manned := by
    have hown : owners d' = owners d := by
      funext n
      rw [owners, owners, ha.transactions]
    rw [ha.locks, hown]
    exact h.manned
  opened := by
    intro n
    rw [ha.transactions]
    refine h.rel fun t done _ _ halone => ?_
    refine halone.frame ha.schema ?_ fun a _ => congrFun ha.rows a
    intro a _ hh
    unfold Ledger.holds at hh ⊢
    rwa [ha.locks]
  committed := by
    rw [ha.rows]
    exact h.committed

lemma Steady.leave (h : Steady kept base j d) {t : Transaction} {a : AccountId} {name : String}
    (ht : get? d.transactions name = some t)
    (hfree : ∀ done, get? j.opened name = some done → ¬ Touched done a) :
    Steady kept base j (d.withLedger (d.ledger.leave t a)) where
  ready := h.ready
  schema := h.schema
  manned := h.manned.leave a t.owner
  opened := by
    intro n
    refine h.rel fun t' done htn hd halone => ?_
    refine halone.frame rfl ?_ fun _ _ => rfl
    intro b hb hh
    refine holds_leave h.manned.tidy hh ?_
    -- Only the transaction itself could lose a row, and not the one that it leaves.
    by_cases ho : t'.owner = t.owner
    · right
      rintro rfl
      rw [h.apart ht htn ho] at hd
      exact hfree done hd hb
    · exact .inl ho
  committed := h.committed

omit [RowStore S] in
lemma drop_cases (d : Desk S) (c : Call) :
    Desk.drop d c = d ∨ ∃ t a, get? d.transactions c.name = some t ∧ account? c.task = some a ∧
      c.wait ≠ none ∧ Desk.drop d c = d.withLedger (d.ledger.leave t a) := by
  unfold Desk.drop
  split
  · rename_i hw ht hc
    exact .inr ⟨_, _, ht, by rw [hc]; rfl, by simp [hw], rfl⟩
  · rename_i hw ht hc
    exact .inr ⟨_, _, ht, by rw [hc]; rfl, by simp [hw], rfl⟩
  · exact .inl rfl

lemma Orderly.dropped (h : Orderly kept base log d f) {i : Nat} (hi : f i = some (.running c)) :
    Steady kept base (journal log) (Desk.drop d c) := by
  rcases drop_cases d c with he | ⟨t, a, ht, ha, hw, he⟩
  · rw [he]
    exact h.steady
  · rw [he]
    exact h.steady.leave ht (h.waiting i c hi hw a ha)

lemma journal_turn (log : List (Nat × Call × Desk.Answer)) (i : Nat) (c : Call)
    (next : Next Call Desk.Answer) : journal (log ++ entry i c next) = (journal log).turn c next := by
  cases next with
  | running c' => rw [entry, List.append_nil, Journal.turn]
  | ended answer => rw [entry, journal_append, Journal.turn]

lemma get?_note {name : String} (task : Task) (answer : Desk.Answer) {n : String} (hn : n ≠ name) :
    get? (j.note name task answer).opened n = get? j.opened n := by
  unfold Journal.note
  split
  · rw [get?_insert, if_neg hn]
  · rfl
  · rw [get?_erase, if_neg hn]
  · rw [get?_erase, if_neg hn]
  · rw [get?_erase, if_neg hn]
  · rw [get?_insert, if_neg hn]

lemma get?_turn (next : Next Call Desk.Answer) {n : String} (hn : n ≠ c.name) :
    get? (j.turn c next).opened n = get? j.opened n := by
  cases next with
  | running c' => rfl
  | ended answer => exact get?_note _ _ hn

/-- A call that goes on after its turn waits for no row that its transaction has touched. -/
lemma Move.waits (hm : Move d c d' (.running c')) (h : Steady kept base j d) {a : AccountId}
    (ha : account? c'.task = some a) {done : List (Task × Desk.Answer)}
    (hd : get? j.opened c'.name = some done) : ¬ Touched done a := by
  cases hm with
  | arrive w hb =>
    change account? c.task = some a at ha
    rw [hb] at ha
    cases ha
  | await w ht hacc hh =>
    intro htouched
    obtain ⟨done', hd', halone⟩ := h.get?_opened ht
    obtain rfl : done' = done := Option.some.inj (hd'.symm.trans hd)
    obtain rfl := Option.some.inj (hacc.symm.trans ha)
    rw [halone.held _ htouched] at hh
    cases hh

lemma Steady.isolated (h : Steady kept base (journal log) d) : Isolated kept base log d where
  committed := h.committed
  opened name done hd := by
    have ho := h.opened name
    rw [hd] at ho
    cases ht : get? d.transactions name with
    | none =>
      rw [ht] at ho
      cases ho
    | some t =>
      rw [ht] at ho
      cases ho with
      | some halone =>
        have hp := perform_buffer (RowStore.schema d.ledger.store)
          (RowStore.row d.ledger.store) [] (done.map Prod.fst)
        rw [halone.buffered, overlay_nil] at hp
        rw [← h.schema, hp]
  named name := by
    have ho := h.opened name
    cases ht : get? d.transactions name with
    | none => rw [h.get?_none ht]; rfl
    | some t =>
      obtain ⟨done, hd, -⟩ := h.get?_opened ht
      rw [hd]
      rfl
  lined a o hl := by
    obtain ⟨name, hn⟩ := h.manned.lined a o hl
    obtain ⟨t, ht, hto⟩ := Option.map_eq_some_iff.mp hn
    exact ⟨name, t, ht, hto⟩

lemma Orderly.waiting_others (h : Orderly kept base log d f) {i : Nat} (hi : f i = some (.running c))
    (next : Next Call Desk.Answer) {x : Stand Call Desk.Answer}
    (hx : ∀ c', x = .running c' → c'.wait ≠ none → ∀ a, account? c'.task = some a →
      ∀ done, get? ((journal log).turn c next).opened c'.name = some done → ¬ Touched done a)
    (k : Nat) (b : Call) (hk : update f i (some x) k = some (.running b)) (hw : b.wait ≠ none)
    (a : AccountId) (ha : account? b.task = some a) (done : List (Task × Desk.Answer))
    (hd : get? ((journal log).turn c next).opened b.name = some done) : ¬ Touched done a := by
  by_cases hki : k = i
  · rw [hki, update_self] at hk
    exact hx b (Option.some.inj hk) hw a ha done hd
  · rw [update_of_ne hki] at hk
    have hn : b.name ≠ c.name := fun hn => hki (h.one k i b c hk hi hn)
    rw [get?_turn next hn] at hd
    exact h.waiting k b hk hw a ha done hd

variable [RowKeeper S]

lemma orderly_kept (hs : RowKeeper.Sound S (RowStore.schema base)) :
    Kept Desk.machine Aside OneEach fun log _ d f => Orderly (RowKeeper.kept S) base log d f where
  pass h _ := h
  change h ha ho := ⟨h.steady.aside ha, h.new, ho, h.waiting⟩
  start {log now d f i c} h hi ho := by
    refine ⟨h.steady, h.new.update i (by simp), ho, ?_⟩
    intro k b hk hw a ha done hd
    by_cases hki : k = i
    · rw [hki, update_self, Option.some.injEq, Stand.running.injEq] at hk
      rw [← hk] at hw
      exact absurd (h.new i c hi) hw
    · rw [update_of_ne hki] at hk
      exact h.waiting k b hk hw a ha done hd
  step {log now d f i c u} h hi hu ho := by
    have hm : Move d c u.shared u.next := move_of_step h.steady.ready hu
    refine ⟨?_, h.new.update i (fun k => after_ne_planned _ _ _ _), ho, ?_⟩
    · rw [journal_turn]
      exact h.steady.move hs hm
    · rw [journal_turn]
      refine h.waiting_others hi u.next ?_
      intro c' hc' _ a ha done hd
      cases hn : u.next with
      | ended answer =>
        rw [hn] at hc'
        cases hc'
      | running c'' =>
        rw [hn] at hc' hm hd
        obtain rfl : c'' = c' := Stand.running.inj hc'
        exact hm.waits h.steady ha hd
  expire {log now d f i c u} h hi _ hu ho := by
    obtain ⟨e, he⟩ : ∃ e, u = (Desk.drop d c).stop (.failed e) := by
      change Desk.expire now d c = some u at hu
      unfold Desk.expire at hu
      split at hu
      · split at hu
        · exact ⟨_, (Option.some.inj hu).symm⟩
        · cases hu
      · cases hu
    subst he
    refine ⟨h.dropped hi, h.new.update i (by simp [stop, Stand.after]), ho, ?_⟩
    exact h.waiting_others hi (.running c) (by simp [stop, Stand.after])
  drop {log now d f i c} h hi ho := by
    refine ⟨h.dropped hi, h.new.update i (by simp), ho, ?_⟩
    exact h.waiting_others hi (.running c) (by simp)

/-- Whatever store it is that keeps rows, transactions on it do not see each other. -/
theorem History.isolated {r r' : Run (Desk S) Call Desk.Answer}
    (h : History Desk.machine Aside OneEach r log r') (ho : Opening r)
    (hr : Unfailing r.shared.ledger.store)
    (hs : RowKeeper.Sound S (RowStore.schema r.shared.ledger.store)) :
    Isolated (RowKeeper.kept S) r.shared.ledger.store log r'.shared := by
  have hnone : ∀ name, get? r.shared.transactions name = none := by
    intro name
    rw [ho.transactions]
    rfl
  have hown : ∀ name, owners r.shared name = none := by
    intro name
    rw [owners, hnone, Option.map_none]
  have hsteady : Steady (RowKeeper.kept S) r.shared.ledger.store (journal []) r.shared := by
    refine ⟨hr, rfl, manned_of_lines_nil ho.lines hown, ?_, rfl⟩
    intro name
    rw [hnone]
    exact .none
  have hstart : Orderly (RowKeeper.kept S) r.shared.ledger.store [] r.shared (standing r) := by
    refine ⟨hsteady, ho.calls.planned, h.admitted, ?_⟩
    intro i c hi
    obtain ⟨c', hc', -⟩ := ho.calls i _ hi
    cases hc'
  exact (h.keeps (orderly_kept hs) hstart).steady.isolated

end Calls

/-- Transactions on a store in memory in which nothing is told to fail, and transactions on a
database whose columns are all different, do not see each other, whatever is rolled back, expires or
is dropped. Memory gives back every record that was committed to it, and a database gives it back as it
is written. -/
theorem transactions_serializable :
    (∀ {r r' : Run (Desk ProgressMemory) Call Desk.Answer} {log : List (Nat × Call × Desk.Answer)},
      History Desk.machine Aside OneEach r log r' → Opening r →
      r.shared.ledger.store.readFailures = [] → r.shared.ledger.store.writeFailures = [] →
      Isolated id r.shared.ledger.store log r'.shared ∧
        Recorded (Desk.machine (S := ProgressMemory)) log (standing r')) ∧
    (∀ {r r' : Run (Desk Database) Call Desk.Answer} {log : List (Nat × Call × Desk.Answer)},
      History Desk.machine Aside OneEach r log r' → Opening r →
      Distinct r.shared.ledger.store.schema →
      Isolated ProgressRecord.written r.shared.ledger.store log r'.shared ∧
        Recorded (Desk.machine (S := Database)) log (standing r')) := by
  refine ⟨?_, ?_⟩
  · intro r r' log h ho hread hwrite
    exact ⟨h.isolated ho (ready_memory.mpr ⟨hread, hwrite⟩) trivial, h.recorded ho.calls⟩
  · intro r r' log h ho hd
    exact ⟨h.isolated ho ⟨rfl, rfl⟩ hd, h.recorded ho.calls⟩

section Handover

variable {S : Type} [RowStore S]

omit [RowStore S] in
/-- Two transactions move one account, of which the second waits for the first, and a third one is
dropped with what it has written. -/
def handover (s : S) : Run (Desk S) Call Desk.Answer where
  now := 0
  shared := ⟨⟨⟨s, default⟩, .empty⟩, []⟩
  notices := []
  jobs := [("a", .begin), ("b", .begin), ("c", .begin), ("a", .write ⟨7⟩ .fetchStarted .epoch),
    ("b", .write ⟨7⟩ .fetchCompleted .epoch), ("c", .write ⟨8⟩ .fetchStarted .epoch),
    ("a", .commit), ("b", .read ⟨7⟩), ("c", .drop), ("b", .commit)].map fun e =>
      ⟨0, none, .planned ⟨.plain, e.1, e.2, none⟩⟩

/-- What happens to the three transactions. -/
def handoverEvents : List Event :=
  [.start 0, .step 0, .step 0, .start 1, .step 1, .step 1, .start 2, .step 2, .step 2,
    .start 3, .step 3, .step 3, .start 4, .step 4, .start 5, .step 5, .step 5, .start 6, .step 6,
    .step 4, .start 7, .step 7, .start 8, .step 8, .start 9, .step 9]

/-- The three transactions after the first events. -/
def handoverAt (s : S) (n : Nat) : Run (Desk S) Call Desk.Answer :=
  (handoverEvents.take n).foldl (follow Desk.machine) (handover s)

/-- The stage of an account when the three transactions have ended. -/
def handoverStage (s : S) (a : AccountId) : Option Stage :=
  (RowStore.row (handoverAt s handoverEvents.length).shared.ledger.store a).toOption.map
    ProgressRecord.status

omit [RowStore S] in
lemma opening_handover (s : S) : Opening (handover s) where
  transactions := rfl
  lines := rfl
  calls := by
    apply unstarted_of_jobs
    intro t ht
    obtain ⟨e, -, rfl⟩ := List.mem_map.mp ht
    exact ⟨_, rfl, rfl⟩

omit [RowStore S] in
lemma oneEach_of_pairwise {r : Run (Desk S) Call Desk.Answer}
    (h : (r.jobs.map fun j => j.running?.map Call.name).Pairwise fun x y => x = none ∨ x ≠ y) :
    OneEach r.shared (standing r) := by
  have hname : ∀ i c, standing r i = some (.running c) →
      (r.jobs.map fun j => j.running?.map Call.name)[i]? = some (some c.name) := by
    intro i c hi
    obtain ⟨j, hj, hc⟩ := Option.bind_eq_some_iff.mp (running?_eq_some.mpr hi)
    rw [List.getElem?_map, hj, Option.map_some, hc, Option.map_some]
  have hlt : ∀ i k b c, standing r i = some (.running b) → standing r k = some (.running c) →
      b.name = c.name → ¬ i < k := by
    intro i k b c hi hk hn hik
    obtain ⟨hi', hib⟩ := List.getElem?_eq_some_iff.mp (hname i b hi)
    obtain ⟨hk', hkc⟩ := List.getElem?_eq_some_iff.mp (hname k c hk)
    have hpair := List.pairwise_iff_getElem.mp h i k hi' hk' hik
    rw [hib, hkc, hn] at hpair
    simp at hpair
  intro i k b c hi hk hn
  have h₁ := hlt i k b c hi hk hn
  have h₂ := hlt k i c b hk hi hn.symm
  omega

theorem handover_serializable :
    (∃ log, Isolated id (ProgressMemory.empty .current) log
      (handoverAt (ProgressMemory.empty .current) handoverEvents.length).shared) ∧
    (∃ log, Isolated ProgressRecord.written (⟨.empty, .current⟩ : Database) log
      (handoverAt (⟨.empty, .current⟩ : Database) handoverEvents.length).shared) ∧
    handoverStage (ProgressMemory.empty .current) ⟨7⟩ = some .fetchCompleted ∧
    handoverStage (⟨.empty, .current⟩ : Database) ⟨7⟩ = some .fetchCompleted ∧
    handoverStage (⟨.empty, .current⟩ : Database) ⟨8⟩ = none := by
  have hmemory : ∀ n ≤ handoverEvents.length,
      ((handoverAt (ProgressMemory.empty .current) n).jobs.map fun j =>
        j.running?.map Call.name).Pairwise fun x y => x = none ∨ x ≠ y := by
    decide +kernel
  have hdatabase : ∀ n ≤ handoverEvents.length,
      ((handoverAt (⟨.empty, .current⟩ : Database) n).jobs.map fun j =>
        j.running?.map Call.name).Pairwise fun x y => x = none ∨ x ≠ y := by
    decide +kernel
  have hdistinct : Distinct .current := ⟨by decide, by decide⟩
  obtain ⟨log, h⟩ : ∃ log, History Desk.machine Aside OneEach
      (handover (ProgressMemory.empty .current)) log _ :=
    history_of_events handoverEvents fun n hn => oneEach_of_pairwise (hmemory n hn)
  obtain ⟨log', h'⟩ : ∃ log, History Desk.machine Aside OneEach
      (handover (⟨.empty, .current⟩ : Database)) log _ :=
    history_of_events handoverEvents fun n hn => oneEach_of_pairwise (hdatabase n hn)
  refine ⟨⟨log, ?_⟩, ⟨log', ?_⟩, by decide +kernel, by decide +kernel, by decide +kernel⟩
  · exact (transactions_serializable.1 h (opening_handover _) rfl rfl).1
  · exact (transactions_serializable.2 h' (opening_handover _) hdistinct).1

end Handover

end Tenancy.Proofs
