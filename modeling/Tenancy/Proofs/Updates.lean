import Tenancy.Proofs.Undisturbed

/-!
# Concurrent updates

Updates of one store in memory run concurrently, while readings and writings fail, time limits
expire and calls are dropped. Those that succeed have the effect of running one after another in the
order in which they ended. From the moment at which an update has read its row until it ends, it
holds the row, so what it has read stays true.
-/

namespace Tenancy.Proofs

open Function Table Tracker

/-- The change that an update makes when it finds a row or none. -/
def changeOf (row : Option ProgressRecord) (stage : Stage) : StatusChange :=
  match row with
  | none => .created
  | some r => if r.status = stage then .unchanged else .updated r.status

/-- The row of an account that an update moves. -/
def movedRow (m : ProgressMemory) (a : AccountId) (stage : Stage) (i : Instant) :
    ProgressRecord :=
  .move m.schema a (m.rows.get? a) stage i

/-- The store after an update with an instant. -/
def effect (m : ProgressMemory) (u : Update) (i : Instant) : ProgressMemory :=
  if changeOf (m.rows.get? u.account) u.stage = .unchanged then m
  else m.commit [(u.account, movedRow m u.account u.stage i)]

/-- Nothing can disturb an update that runs alone: no row is held, no failure is queued, and
transactions begin at once. -/
structure Quiet (l : Ledger ProgressMemory) : Prop where
  free : l.locks.lines = []
  reads : l.store.readFailures = []
  writes : l.store.writeFailures = []
  prompt : l.store.beginDelay = 0

/-- The ledger after an update that ran alone. -/
def settled (l : Ledger ProgressMemory) (u : Update) : Ledger ProgressMemory :=
  ⟨{ l.world with store := effect l.store u (u.instant.getD l.world.clock.now) }, l.locks.enroll⟩

lemma effect_eq (m : ProgressMemory) (u : Update) (i : Instant) :
    effect m u i = m ∨ ∃ p, effect m u i = m.commit p := by
  unfold effect
  split
  · exact .inl rfl
  · exact .inr ⟨_, rfl⟩

lemma Quiet.settled {l : Ledger ProgressMemory} (h : Quiet l) (u : Update) :
    Quiet (settled l u) := by
  unfold Proofs.settled
  rcases effect_eq l.store u (u.instant.getD l.world.clock.now) with he | ⟨p, he⟩
  · rw [he]
    exact ⟨h.free, h.reads, h.writes, h.prompt⟩
  · rw [he]
    exact ⟨h.free, h.reads, h.writes, h.prompt⟩

lemma engaged_close {l : Ledger ProgressMemory} (h : Quiet l) (u : Update) :
    ((engaged l u).locks.release l.begin.1.owner) = l.locks.enroll := by
  have hline := line_of_lines_nil (l := l.locks.enroll) h.free u.account
  unfold engaged Ledger.join Ledger.begin RowLocks.join
  rw [hline, if_neg List.not_mem_nil]
  unfold RowLocks.release RowLocks.enroll
  simp [h.free, Table.insert, Table.erase, RowLocks.shorten]

/-- What a transaction sees at the row of an account. -/
def seen (l : Ledger ProgressMemory) (t : Transaction) (a : AccountId) :
    Except Error ProgressRecord :=
  match t.pending.get? a with
  | some r => .ok r
  | none => l.store.row a

lemma decide_row (u : Update) (t : Transaction) (m : ProgressMemory) :
    Tracker.decide u t (m.row u.account) = .ok
      (if changeOf (m.rows.get? u.account) u.stage = .unchanged then .keeping t
       else .writing t (changeOf (m.rows.get? u.account) u.stage)) := by
  unfold ProgressMemory.row changeOf
  cases hr : m.rows.get? u.account with
  | none => rfl
  | some r =>
    unfold Tracker.decide
    by_cases hs : r.status = u.stage
    · simp [hs]
    · simp [hs]

/-- What a write without an earlier one puts into its transaction when its reading succeeds. -/
lemma write_seen {l l' : Ledger ProgressMemory} {t : Transaction} {a : AccountId}
    (ht : t.pending = []) (hr : l.read t a = (l.store.row a, l'))
    (hs : l'.store.schema = l.store.schema) (stage : Stage) (i : Instant) :
    l.write t a stage i = (.ok ⟨t.owner, [(a, movedRow l.store a stage i)]⟩, l') := by
  have hschema : RowStore.schema l'.store = l.store.schema := hs
  unfold Ledger.write movedRow
  rw [hr]
  simp only [hschema, ht]
  unfold ProgressMemory.row
  cases l.store.rows.get? a <;> rfl

lemma seen_row {l : Ledger ProgressMemory} {t : Transaction} (ht : t.pending = [])
    (a : AccountId) : seen l t a = l.store.row a := by
  unfold seen
  rw [ht]
  rfl

lemma amend_memory (m : ProgressMemory) (a : AccountId) (stage : Stage) (i : Instant) :
    amend m.schema m.row a stage i = (.ok (changeOf (m.rows.get? a) stage),
      if changeOf (m.rows.get? a) stage = .unchanged then none
      else some (a, movedRow m a stage i)) := by
  unfold amend ProgressMemory.row changeOf movedRow
  cases m.rows.get? a with
  | none => rfl
  | some r => by_cases hs : r.status = stage <;> simp [hs]

/-- An update that runs alone ends at once, with the change that its row calls for. -/
theorem alone_quiet {l : Ledger ProgressMemory} {u : Update} (h : Quiet l)
    (hu : u.phase = .arriving) (now : Nat) :
    ∃ said, Tracker.machine.alone now l u = some ⟨now, settled l u, said,
      .ok (changeOf (l.store.rows.get? u.account) u.stage)⟩ := by
  have hswift : Swift l.store := ⟨ready_memory.mpr ⟨h.reads, h.writes⟩, h.prompt⟩
  obtain ⟨said, ha⟩ := alone_update hswift (line_of_lines_nil h.free _) hu now
  have hamend := amend_memory l.store u.account u.stage (u.instant.getD l.world.clock.now)
  change amend (RowStore.schema l.store) (RowStore.row l.store) _ _ _ = _ at hamend
  simp only [hamend] at ha
  refine ⟨said, ha.trans ?_⟩
  congr 2
  unfold disengaged settled effect
  rw [engaged_close h u]
  split <;> rfl

/-- Runs updates one after another, each alone and to its end. -/
def inTurn (l : Ledger ProgressMemory) :
    List Update → Option (List (Except Error StatusChange) × Ledger ProgressMemory)
  | [] => some ([], l)
  | u :: us => do
    let first ← Tracker.machine.alone 0 l u
    let (answers, l) ← inTurn first.shared us
    return (first.result :: answers, l)

lemma inTurn_concat {l l' : Ledger ProgressMemory} {us : List Update} {u : Update}
    {answers : List (Except Error StatusChange)}
    {last : Finished (Ledger ProgressMemory) (Except Error StatusChange)}
    (h : inTurn l us = some (answers, l')) (hu : Tracker.machine.alone 0 l' u = some last) :
    inTurn l (us ++ [u]) = some (answers ++ [last.result], last.shared) := by
  induction us generalizing l answers with
  | nil =>
    rw [inTurn, Option.some.injEq, Prod.mk.injEq] at h
    rw [← h.1, h.2, List.nil_append, inTurn, hu]
    rfl
  | cons v us ih =>
    rw [inTurn] at h
    obtain ⟨first, hf, h⟩ := Option.bind_eq_some_iff.mp h
    obtain ⟨⟨later, l''⟩, hl, h⟩ := Option.bind_eq_some_iff.mp h
    simp only [Option.pure_def, Option.some.injEq, Prod.mk.injEq] at h
    rw [List.cons_append, inTurn, hf]
    simp only [Option.bind_eq_bind, Option.bind_some]
    rw [h.2] at hl
    rw [ih hl, ← h.1]
    rfl

/-- The instant that an update has stamped, or else the one that its caller gave. -/
def stamp (u : Update) : Option Instant :=
  match u.phase with
  | .committing _ _ i => some i
  | _ => u.instant

/-- An update from its beginning, with the instant that it has stamped. -/
def again (u : Update) : Update :=
  .new u.request u.account u.stage (stamp u)

/-- A call that succeeded. -/
def succeeded? : Nat × Update × Except Error StatusChange → Option (Nat × Update × StatusChange)
  | (i, u, .ok c) => some (i, u, c)
  | (_, _, .error _) => none

/-- The updates that succeeded explain what the store holds: the same updates, run one after another
on a ledger, make the same changes and leave the same rows, and the rows that they wrote are
counted. -/
structure Explained (l₀ : Ledger ProgressMemory) (order : List (Nat × Update × StatusChange))
    (m : ProgressMemory) : Prop where
  inTurn : ∃ l, inTurn l₀ (order.map fun e => again e.2.1) =
    some (order.map fun e => .ok e.2.2, l) ∧ Quiet l ∧ l.store.rows = m.rows ∧
      l.store.schema = m.schema
  counted : m.mutations = l₀.store.mutations + order.countP fun e => e.2.2 ≠ .unchanged
  stamped : ∀ e ∈ order, ∀ t, e.2.1.instant = some t → stamp e.2.1 = some t

lemma effect_schema (m : ProgressMemory) (u : Update) (i : Instant) :
    (effect m u i).schema = m.schema := by
  rcases effect_eq m u i with he | ⟨p, he⟩
  · rw [he]
  · rw [he]
    rfl

lemma effect_rows {m n : ProgressMemory} (hr : m.rows = n.rows) (hs : m.schema = n.schema)
    (u : Update) (i : Instant) : (effect m u i).rows = (effect n u i).rows := by
  unfold effect movedRow
  rw [hr, hs]
  split
  · exact hr
  · simp only [ProgressMemory.commit, hr]

lemma Explained.concat {l₀ : Ledger ProgressMemory} {order : List (Nat × Update × StatusChange)}
    {m m' : ProgressMemory} {u : Update} (h : Explained l₀ order m) (i : Nat)
    (hrows : ∀ now, (effect m u ((stamp u).getD now)).rows = m'.rows)
    (hschema : m'.schema = m.schema)
    (hcount : m'.mutations = m.mutations +
      if changeOf (m.rows.get? u.account) u.stage = .unchanged then 0 else 1)
    (hstamp : ∀ t, u.instant = some t → stamp u = some t) :
    Explained l₀ (order ++ [(i, u, changeOf (m.rows.get? u.account) u.stage)]) m' where
  inTurn := by
    obtain ⟨l, hl, hq, hr, hs⟩ := h.inTurn
    obtain ⟨said, ha⟩ := alone_quiet (u := again u) hq rfl 0
    refine ⟨settled l (again u), ?_, hq.settled (again u), ?_, ?_⟩
    · rw [List.map_append, List.map_append, List.map_singleton, List.map_singleton,
        inTurn_concat hl ha, hr]
      rfl
    · rw [← hrows l.world.clock.now]
      exact effect_rows hr hs u _
    · rw [hschema, ← hs]
      exact effect_schema l.store u _
  counted := by
    rw [hcount, h.counted, List.countP_append, Nat.add_assoc]
    congr 2
    by_cases hc : changeOf (m.rows.get? u.account) u.stage = .unchanged
    · simp [hc]
    · simp [hc]
  stamped e he := by
    rcases List.mem_append.mp he with he | he
    · exact h.stamped e he
    · rw [List.mem_singleton.mp he]
      exact hstamp

/-- What the surroundings of updates may do: the clock moves, failures are queued, and transactions
begin faster or slower. Rows and locks stay as they are. -/
structure Undisturbed (l l' : Ledger ProgressMemory) : Prop where
  locks : l'.locks = l.locks
  rows : l'.store.rows = l.store.rows
  schema : l'.store.schema = l.store.schema
  mutations : l'.store.mutations = l.store.mutations

lemma Undisturbed.refl (l : Ledger ProgressMemory) : Undisturbed l l :=
  ⟨rfl, rfl, rfl, rfl⟩

lemma read_cases (l : Ledger ProgressMemory) (t : Transaction) (a : AccountId) :
    ∃ l', Undisturbed l l' ∧
      (l.read t a = (seen l t a, l') ∨ ∃ e, e ≠ .notFound ∧ l.read t a = (.error e, l')) := by
  cases hr : l.store.readFailures with
  | nil => exact ⟨l, .refl l, .inl (ledger_read (aboutToRead_memory.mpr hr) t a)⟩
  | cons reason later =>
    refine ⟨l.withStore { l.store with readFailures := later }, ⟨rfl, rfl, rfl, rfl⟩,
      .inr ⟨.storage (.other reason), nofun, ?_⟩⟩
    have hready : RowStore.aboutToRead l.store =
        (.error (.storage (.other reason)), { l.store with readFailures := later }) := by
      change ProgressMemory.aboutToRead l.store = _
      unfold ProgressMemory.aboutToRead
      rw [hr]
      rfl
    unfold Ledger.read
    rw [hready]
    rfl

lemma aboutToWrite_cases (l : Ledger ProgressMemory) :
    ∃ l', Undisturbed l l' ∧
      (l.aboutToWrite = (.ok (), l') ∨ ∃ e, l.aboutToWrite = (.error e, l')) := by
  cases hr : l.store.writeFailures with
  | nil => exact ⟨l, .refl l, .inl (ledger_aboutToWrite (aboutToWrite_memory.mpr hr))⟩
  | cons reason later =>
    refine ⟨l.withStore { l.store with writeFailures := later }, ⟨rfl, rfl, rfl, rfl⟩,
      .inr ⟨.storage (.other reason), ?_⟩⟩
    have hready : RowStore.aboutToWrite l.store =
        (.error (.storage (.other reason)), { l.store with writeFailures := later }) := by
      change ProgressMemory.aboutToWrite l.store = _
      unfold ProgressMemory.aboutToWrite
      rw [hr]
      rfl
    unfold Ledger.aboutToWrite
    rw [hready]

/-- The number of the transaction of a job. -/
def numberOf : Stand Update (Except Error StatusChange) → Option Nat
  | .running u => u.phase.transaction?.map Transaction.owner
  | _ => none

/-- The numbers of the transactions of all jobs. -/
def numbers (f : Standing Update (Except Error StatusChange)) : Nat → Option Nat :=
  fun i => (f i).bind numberOf

lemma numbers_update (f : Standing Update (Except Error StatusChange)) (i : Nat)
    (x : Stand Update (Except Error StatusChange)) :
    numbers (update f i (some x)) = update (numbers f) i (numberOf x) := by
  funext j
  unfold numbers
  by_cases hj : j = i
  · subst hj
    rw [update_self, update_self]
    rfl
  · rw [update_of_ne hj, update_of_ne hj]

/-- An update is ready for its next turn: it holds its row, and what it has read there and written
for it agrees with the row of the store. -/
def Ready (l : Ledger ProgressMemory) (u : Update) : Prop :=
  let c := changeOf (l.store.rows.get? u.account) u.stage
  match u.phase with
  | .arriving => True
  | .beginning _ _ => True
  | .locking t _ => t.pending = []
  | .keeping t => l.holds t u.account = true ∧ c = .unchanged
  | .writing t change =>
    l.holds t u.account = true ∧ t.pending = [] ∧ change = c ∧ c ≠ .unchanged
  | .committing t change i =>
    l.holds t u.account = true ∧ t.pending = [(u.account, movedRow l.store u.account u.stage i)] ∧
      change = c ∧ c ≠ .unchanged ∧ ∀ given, u.instant = some given → given = i

/-- What is known of updates under way. -/
structure Underway (l : Ledger ProgressMemory) (f : Standing Update (Except Error StatusChange)) :
    Prop where
  fresh : Planned (fun u => u.phase = .arriving) f
  manned : Manned l.locks (numbers f)
  ready : ∀ i u, f i = some (.running u) → Ready l u

/-- An update stays ready while it keeps its row and the row stays as it is. -/
lemma Ready.frame {l l' : Ledger ProgressMemory} {u : Update} (h : Ready l u)
    (hs : l'.store.schema = l.store.schema)
    (hrow : ∀ t, u.phase.transaction? = some t → l.holds t u.account = true →
      l'.holds t u.account = true ∧ l'.store.rows.get? u.account = l.store.rows.get? u.account) :
    Ready l' u := by
  unfold Ready movedRow at h ⊢
  cases hp : u.phase with
  | arriving => trivial
  | beginning due limit => trivial
  | locking t limit =>
    rw [hp] at h
    exact h
  | keeping t =>
    rw [hp] at h
    obtain ⟨hh, hr⟩ := hrow t (by rw [hp]; rfl) h.1
    rw [hr]
    exact ⟨hh, h.2⟩
  | writing t c =>
    rw [hp] at h
    obtain ⟨hh, hr⟩ := hrow t (by rw [hp]; rfl) h.1
    rw [hr]
    exact ⟨hh, h.2⟩
  | committing t c i =>
    rw [hp] at h
    obtain ⟨hh, hr⟩ := hrow t (by rw [hp]; rfl) h.1
    simp only [hr, hs]
    exact ⟨hh, h.2⟩

lemma Ready.undisturbed {l l' : Ledger ProgressMemory} {u : Update} (h : Ready l u)
    (hl : Undisturbed l l') : Ready l' u := by
  refine h.frame hl.schema ?_
  intro t _ hh
  unfold Ledger.holds at hh ⊢
  rw [hl.locks, hl.rows]
  exact ⟨hh, rfl⟩

section Underway

variable {l l' : Ledger ProgressMemory} {f : Standing Update (Except Error StatusChange)}
  {i : Nat} {u : Update}

lemma Underway.undisturbed (h : Underway l f) (hl : Undisturbed l l') : Underway l' f where
  fresh := h.fresh
  manned := by
    rw [hl.locks]
    exact h.manned
  ready j v hj := (h.ready j v hj).undisturbed hl

lemma Underway.running {s : Stand Update (Except Error StatusChange)} {u' : Update}
    (h : Underway l f) (hi : f i = some s) (hl : Undisturbed l l')
    (hn : numberOf (.running u') = numberOf s) (hr : Ready l' u') :
    Underway l' (update f i (some (.running u'))) where
  fresh := h.fresh.update i (by simp)
  manned := by
    have hsame : update (numbers f) i (numberOf s) = numbers f := by
      rw [update_eq_self_iff, numbers, hi]
      rfl
    rw [numbers_update, hn, hsame, hl.locks]
    exact h.manned
  ready j v hj := by
    by_cases hji : j = i
    · subst hji
      rw [update_self, Option.some.injEq, Stand.running.injEq] at hj
      rwa [← hj]
    · rw [update_of_ne hji] at hj
      exact (h.ready j v hj).undisturbed hl

lemma Underway.begins (h : Underway l f) (hi : f i = some (.running u))
    (hn : u.phase.transaction? = none) (limit : Option Nat) :
    Underway (engaged l u)
      (update f i (some (.running { u with phase := .locking l.begin.1 limit }))) where
  fresh := h.fresh.update i (by simp)
  manned := by
    have hnone : numbers f i = none := by
      simp [numbers, hi, numberOf, hn]
    rw [numbers_update]
    exact (h.manned.enroll hnone).join (update_self i _ _) u.account
  ready j v hj := by
    by_cases hji : j = i
    · subst hji
      rw [update_self, Option.some.injEq, Stand.running.injEq] at hj
      rw [← hj]
      rfl
    · rw [update_of_ne hji] at hj
      refine (h.ready j v hj).frame rfl ?_
      intro t _ hh
      exact ⟨holds_join (l := l.locks.enroll) hh _ _, rfl⟩

lemma Underway.ends {x : Stand Update (Except Error StatusChange)} (h : Underway l f)
    (hi : f i = some (.running u)) (hx : numberOf x = none) (hplanned : ∀ v, x ≠ .planned v)
    (hrunning : ∀ v, x ≠ .running v) (hs : l'.store.schema = l.store.schema)
    (hl : l'.locks = (Tracker.drop l u).locks)
    (hrow : ∀ a, l'.store.rows.get? a = l.store.rows.get? a ∨
      ∃ t, u.phase.transaction? = some t ∧ l.holds t a = true) :
    Underway l' (update f i (some x)) := by
  have hown : ∀ t, u.phase.transaction? = some t → numbers f i = some t.owner := by
    intro t ht
    simp [numbers, hi, numberOf, ht]
  refine ⟨h.fresh.update i hplanned, ?_, ?_⟩
  · rw [numbers_update, hx, hl, Tracker.drop]
    cases ht : u.phase.transaction? with
    | none =>
      have hsame : update (numbers f) i none = numbers f := by
        rw [update_eq_self_iff]
        simp [numbers, hi, numberOf, ht]
      rw [hsame]
      exact h.manned
    | some t => exact h.manned.release (hown t ht)
  · intro j v hj
    have hji : j ≠ i := by
      rintro rfl
      rw [update_self, Option.some.injEq] at hj
      exact hrunning v hj
    rw [update_of_ne hji] at hj
    refine (h.ready j v hj).frame hs ?_
    intro t ht hh
    have hj' : numbers f j = some t.owner := by
      simp [numbers, hj, numberOf, ht]
    have hother : ∀ t', u.phase.transaction? = some t' → t.owner ≠ t'.owner := by
      intro t' ht' ho
      exact hji (h.manned.apart j i t.owner hj' (ho ▸ hown t' ht'))
    constructor
    · unfold Ledger.holds at hh ⊢
      rw [hl, Tracker.drop]
      cases ht' : u.phase.transaction? with
      | none => exact hh
      | some t' => exact holds_release h.manned.tidy hh (hother t' ht')
    · rcases hrow v.account with hr | ⟨t', ht', hh'⟩
      · exact hr
      · exact absurd (holds_unique hh hh') (hother t' ht')

end Underway

lemma decide_error {e : Error} (he : e ≠ .notFound) (u : Update) (t : Transaction) :
    Tracker.decide u t (.error e) = .error e := by
  unfold Tracker.decide
  split
  · rename_i heq
    cases heq
  · rename_i heq
    exact absurd (Except.error.inj heq) he
  · rename_i heq
    rw [Except.error.inj heq]

lemma Undisturbed.trans {l l' l'' : Ledger ProgressMemory} (h : Undisturbed l l')
    (h' : Undisturbed l' l'') : Undisturbed l l'' :=
  ⟨h'.locks.trans h.locks, h'.rows.trans h.rows, h'.schema.trans h.schema,
    h'.mutations.trans h.mutations⟩

lemma write_cases (l : Ledger ProgressMemory) (u : Update) {t : Transaction} (c : StatusChange)
    (ht : t.pending = []) :
    ∃ l', Undisturbed l l' ∧ ((∃ e, write l u t c = fail l' t e) ∨
      ∃ i, (∀ given, u.instant = some given → given = i) ∧ write l u t c = goOn l' u
        (.committing ⟨t.owner, [(u.account, movedRow l.store u.account u.stage i)]⟩ c i)) := by
  obtain ⟨i, hi⟩ : ∃ i, u.instant.getD l.world.clock.now = i := ⟨_, rfl⟩
  have hgiven : ∀ given, u.instant = some given → given = i := by
    intro given hg
    rw [← hi, hg, Option.getD_some]
  unfold write
  rw [hi]
  obtain ⟨l₁, h₁, hready | ⟨e, hready⟩⟩ := aboutToWrite_cases l
  · obtain ⟨l₂, h₂, hread | ⟨e, he, hread⟩⟩ := read_cases l₁ t u.account
    · have hrow : l₁.read t u.account = (l₁.store.row u.account, l₂) := by
        rw [hread, seen_row ht]
      have hput := write_seen ht hrow h₂.schema u.stage i
      have hsame : movedRow l₁.store u.account u.stage i = movedRow l.store u.account u.stage i := by
        unfold movedRow
        rw [h₁.rows, h₁.schema]
      refine ⟨l₂, h₁.trans h₂, .inr ⟨i, hgiven, ?_⟩⟩
      rw [hready]
      simp only
      rw [hput, hsame]
    · have hput : l₁.write t u.account u.stage i = (.error e, l₂) := by
        unfold Ledger.write
        rw [hread]
        cases e <;> first | rfl | exact absurd rfl he
      refine ⟨l₂, h₁.trans h₂, .inl ⟨e, ?_⟩⟩
      rw [hready]
      simp only
      rw [hput]
  · refine ⟨l₁, h₁, .inl ⟨e, ?_⟩⟩
    rw [hready]

/-- What a turn of an update may do. -/
inductive Course (l : Ledger ProgressMemory) (u : Update) :
    Ledger ProgressMemory → Next Update (Except Error StatusChange) → Prop where
  | proceeds {l' : Ledger ProgressMemory} {u' : Update} : Undisturbed l l' →
      numberOf (.running u') = numberOf (.running u) → Ready l' u' → Course l u l' (.running u')
  | begins (limit : Option Nat) : u.phase.transaction? = none →
      Course l u (engaged l u) (.running { u with phase := .locking l.begin.1 limit })
  | fails {l' : Ledger ProgressMemory} (e : Error) : Undisturbed l l' →
      Course l u (Tracker.drop l' u) (.ended (.error e))
  | keeps {t : Transaction} : u.phase = .keeping t →
      Course l u (Tracker.drop l u) (.ended (.ok .unchanged))
  | commits {t : Transaction} {c : StatusChange} {i : Instant} : u.phase = .committing t c i →
      Course l u (l.commit t) (.ended (.ok c))

section Courses

variable {l l' : Ledger ProgressMemory} {u : Update} {t : Transaction} {now : Nat}
  {v : UpdateTurn ProgressMemory}

lemma close_eq_drop (ht : u.phase.transaction? = some t) : l.close t = Tracker.drop l u := by
  rw [Tracker.drop, ht]

lemma Undisturbed.holds (h : Undisturbed l l') {a : AccountId} (hh : l.holds t a = true) :
    l'.holds t a = true := by
  unfold Ledger.holds at hh ⊢
  rwa [h.locks]

lemma course_locking {limit : Option Nat} (hp : u.phase = .locking t limit) (ht : t.pending = [])
    (h : step now l u = some v) : Course l u v.shared v.next := by
  unfold step at h
  rw [hp] at h
  simp only at h
  split at h
  · rename_i hh
    obtain ⟨l', hl, hread | ⟨e, he, hread⟩⟩ := read_cases l t u.account
    · rw [hread, seen_row ht] at h
      simp only [decide_row, Option.some.injEq] at h
      rw [← h]
      refine .proceeds hl ?_ ?_
      · rw [numberOf, numberOf, hp]
        split <;> rfl
      · unfold Ready
        simp only [goOn, hl.rows]
        by_cases hc : changeOf (l.store.rows.get? u.account) u.stage = .unchanged
        · rw [if_pos hc]
          exact ⟨hl.holds hh, hc⟩
        · rw [if_neg hc]
          exact ⟨hl.holds hh, ht, rfl, hc⟩
    · rw [hread] at h
      simp only [decide_error he, Option.some.injEq] at h
      have hdrop : l'.close t = Tracker.drop l' u := close_eq_drop (by rw [hp]; rfl)
      rw [← h]
      simp only [fail, hdrop]
      exact .fails e hl
  · cases h

lemma course_writing {c : StatusChange} (hp : u.phase = .writing t c) (hr : Ready l u)
    (h : step now l u = some v) : Course l u v.shared v.next := by
  unfold Ready at hr
  unfold step at h
  rw [hp] at h hr
  obtain ⟨hh, ht, hc, hne⟩ := hr
  obtain ⟨l', hl, ⟨e, hw⟩ | ⟨i, hi, hw⟩⟩ := write_cases l u c ht
  · simp only [hw, Option.some.injEq] at h
    have hdrop : l'.close t = Tracker.drop l' u := close_eq_drop (by rw [hp]; rfl)
    rw [← h]
    simp only [fail, hdrop]
    exact .fails e hl
  · simp only [hw, Option.some.injEq] at h
    rw [← h]
    refine .proceeds hl (by rw [numberOf, numberOf, hp]; rfl) ?_
    unfold Ready movedRow
    simp only [goOn, hl.rows, hl.schema]
    exact ⟨hl.holds hh, trivial, hc, hne, hi⟩

lemma course_of_step (hr : Ready l u) (h : step now l u = some v) :
    Course l u v.shared v.next := by
  cases hp : u.phase with
  | arriving =>
    unfold step at h
    rw [hp] at h
    rw [← Option.some.inj h]
    exact .proceeds (.refl l) (by rw [numberOf, numberOf, hp]; rfl) trivial
  | beginning due limit =>
    unfold step at h
    rw [hp] at h
    simp only at h
    split at h
    · cases h
    · rw [← Option.some.inj h]
      exact .begins _ (by rw [hp]; rfl)
  | locking t limit =>
    unfold Ready at hr
    rw [hp] at hr
    exact course_locking hp hr h
  | keeping t =>
    have hdrop : l.close t = Tracker.drop l u := close_eq_drop (by rw [hp]; rfl)
    unfold step at h
    rw [hp] at h
    rw [← Option.some.inj h]
    simp only [hdrop]
    exact .keeps hp
  | writing t c => exact course_writing hp hr h
  | committing t c i =>
    unfold step at h
    rw [hp] at h
    rw [← Option.some.inj h]
    exact .commits hp

end Courses

lemma Explained.congr {l₀ : Ledger ProgressMemory} {order : List (Nat × Update × StatusChange)}
    {l l' : Ledger ProgressMemory} (h : Explained l₀ order l.store) (hr : l'.store.rows = l.store.rows)
    (hs : l'.store.schema = l.store.schema) (hm : l'.store.mutations = l.store.mutations) :
    Explained l₀ order l'.store where
  inTurn := by
    rw [hr, hs]
    exact h.inTurn
  counted := by
    rw [hm]
    exact h.counted
  stamped := h.stamped

lemma expire_eq {S : Type} {l : Ledger S} {u : Update} {now : Nat} {v : UpdateTurn S}
    (h : Tracker.expire now l u = some v) :
    ∃ e, v.next = .ended (.error e) ∧ v.shared = Tracker.drop l u := by
  unfold Tracker.expire at h
  split at h
  · split at h
    · rw [← Option.some.inj h]
      exact ⟨_, rfl, rfl⟩
    · cases h
  · cases h

lemma drop_store {S : Type} (l : Ledger S) (u : Update) :
    (Tracker.drop l u).store = l.store := by
  unfold Tracker.drop
  split <;> rfl

lemma drop_locks {l l' : Ledger ProgressMemory} (h : Undisturbed l l') (u : Update) :
    (Tracker.drop l' u).locks = (Tracker.drop l u).locks := by
  unfold Tracker.drop
  split
  · unfold Ledger.close
    rw [h.locks]
  · exact h.locks

/-- An update that ends without a commit changes nothing but locks. -/
lemma Underway.gone {l l' : Ledger ProgressMemory}
    {f : Standing Update (Except Error StatusChange)} {i : Nat} {u : Update}
    {x : Stand Update (Except Error StatusChange)} (h : Underway l f)
    (hi : f i = some (.running u)) (hl : Undisturbed l l') (hx : numberOf x = none)
    (hplanned : ∀ v, x ≠ .planned v) (hrunning : ∀ v, x ≠ .running v) :
    Underway (Tracker.drop l' u) (update f i (some x)) := by
  refine h.ends hi hx hplanned hrunning ?_ (drop_locks hl u) ?_
  · rw [drop_store]
    exact hl.schema
  · intro a
    rw [drop_store, hl.rows]
    exact .inl rfl

lemma commit_cases {l : Ledger ProgressMemory} {u : Update} {t : Transaction} {c : StatusChange}
    {i : Instant} (hr : Ready l u) (hp : u.phase = .committing t c i) :
    (l.commit t).store = effect l.store u i ∧
      c = changeOf (l.store.rows.get? u.account) u.stage ∧ c ≠ .unchanged ∧
      (l.commit t).locks = (Tracker.drop l u).locks ∧
      (l.commit t).store.mutations = l.store.mutations + 1 ∧
      (∀ given, u.instant = some given → given = i) ∧ l.holds t u.account = true ∧
      ∀ a, a ≠ u.account → (l.commit t).store.rows.get? a = l.store.rows.get? a := by
  unfold Ready at hr
  rw [hp] at hr
  obtain ⟨hh, ht, hc, hne, hi⟩ := hr
  have hcommit : (l.commit t).store = l.store.commit t.pending := rfl
  have heffect : effect l.store u i = l.store.commit t.pending := by
    unfold effect
    rw [ht]
    exact if_neg hne
  refine ⟨hcommit.trans heffect.symm, hc, hc ▸ hne, ?_, ?_, hi, hh, ?_⟩
  · rw [Tracker.drop, hp]
    rfl
  · rw [hcommit, ht]
    rfl
  · intro a ha
    rw [hcommit, ht]
    simp [ProgressMemory.commit, get?_insert, ha]

section Turns

variable {l₀ l l' : Ledger ProgressMemory} {f : Standing Update (Except Error StatusChange)}
  {order : List (Nat × Update × StatusChange)} {log : List (Nat × Update × Except Error StatusChange)}
  {i : Nat} {u : Update} {t : Transaction} {next : Next Update (Except Error StatusChange)}

lemma Underway.commits {x : Stand Update (Except Error StatusChange)} (h : Underway l f)
    (hi : f i = some (.running u)) {c : StatusChange} {j : Instant}
    (hp : u.phase = .committing t c j) (hx : numberOf x = none) (hplanned : ∀ v, x ≠ .planned v)
    (hrunning : ∀ v, x ≠ .running v) : Underway (l.commit t) (update f i (some x)) := by
  obtain ⟨-, -, -, hlocks, -, -, hh, hrest⟩ := commit_cases (h.ready i u hi) hp
  refine h.ends hi hx hplanned hrunning rfl hlocks ?_
  intro a
  by_cases ha : a = u.account
  · exact .inr ⟨t, by rw [hp]; rfl, ha ▸ hh⟩
  · exact .inl (hrest a ha)

/-- What is known of updates under way stays known when one of them takes a turn. -/
lemma Underway.turn (h : Underway l f) (hi : f i = some (.running u)) (hc : Course l u l' next)
    (now : Nat) : Underway l' (update f i (some (Stand.after now u next))) := by
  cases hc with
  | proceeds hl hnumber hr => exact h.running hi hl hnumber hr
  | begins limit ht => exact h.begins hi ht limit
  | fails e hl => exact h.gone hi hl rfl (by simp [Stand.after]) (by simp [Stand.after])
  | keeps => exact h.gone hi (.refl l) rfl (by simp [Stand.after]) (by simp [Stand.after])
  | commits hp => exact h.commits hi hp rfl (by simp [Stand.after]) (by simp [Stand.after])

lemma Explained.keeps (h : Explained l₀ order l.store) (hr : Ready l u) (hp : u.phase = .keeping t)
    (i : Nat) : Explained l₀ (order ++ [(i, u, .unchanged)]) l.store := by
  have hc : changeOf (l.store.rows.get? u.account) u.stage = .unchanged := by
    rw [Ready, hp] at hr
    exact hr.2
  rw [← hc]
  refine h.concat i ?_ rfl ?_ ?_
  · intro now
    unfold effect
    rw [if_pos hc]
  · rw [if_pos hc]
    rfl
  · intro given hg
    rw [stamp, hp]
    exact hg

lemma Explained.commits (h : Explained l₀ order l.store) (hr : Ready l u) {c : StatusChange}
    {j : Instant} (hp : u.phase = .committing t c j) (i : Nat) :
    Explained l₀ (order ++ [(i, u, c)]) (l.commit t).store := by
  obtain ⟨hstore, hc, hne, -, hcount, hgiven, -⟩ := commit_cases hr hp
  have hstamp : stamp u = some j := by
    rw [stamp, hp]
  rw [hc]
  refine h.concat i ?_ rfl ?_ ?_
  · intro now
    rw [hstore, hstamp, Option.getD_some]
  · rw [if_neg (hc ▸ hne)]
    exact hcount
  · intro given hg
    rw [hstamp, hgiven given hg]

/-- A turn in which an update succeeds is explained by running the update last. -/
lemma Explained.turn (h : Explained l₀ (log.filterMap succeeded?) l.store) (hr : Ready l u)
    (hc : Course l u l' next) (i : Nat) :
    Explained l₀ ((log ++ entry i u next).filterMap succeeded?) l'.store := by
  cases hc with
  | proceeds hl =>
    rw [entry, List.append_nil]
    exact h.congr hl.rows hl.schema hl.mutations
  | begins =>
    rw [entry, List.append_nil]
    exact h.congr rfl rfl rfl
  | fails e hl =>
    have hlog : [(i, u, Except.error e)].filterMap succeeded? = [] := rfl
    rw [drop_store, entry, List.filterMap_append, hlog, List.append_nil]
    exact h.congr hl.rows hl.schema hl.mutations
  | keeps hp =>
    rw [drop_store, entry, List.filterMap_append]
    exact h.keeps hr hp i
  | commits hp =>
    rw [entry, List.filterMap_append]
    exact h.commits hr hp i

end Turns

lemma underway_kept (l₀ : Ledger ProgressMemory) :
    Kept Tracker.machine Undisturbed anyState fun log _ l f =>
      Underway l f ∧ Explained l₀ (log.filterMap succeeded?) l.store := by
  constructor
  case pass => exact fun h _ => h
  case change =>
    intro log now l l' f h hl _
    exact ⟨h.1.undisturbed hl, h.2.congr hl.rows hl.schema hl.mutations⟩
  case start =>
    intro log now l f i u h hi _
    have hp := h.1.fresh i u hi
    refine ⟨h.1.running hi (.refl l) ?_ ?_, h.2⟩
    · rw [numberOf, hp]
      rfl
    · unfold Ready
      rw [hp]
      trivial
  case step =>
    intro log now l f i u v h hi hv _
    have hr := h.1.ready i u hi
    have hcourse := course_of_step hr hv
    exact ⟨h.1.turn hi hcourse now, h.2.turn hr hcourse i⟩
  case expire =>
    intro log now l f i u v h hi _ hv _
    obtain ⟨e, hn, hs⟩ := expire_eq hv
    rw [hn, hs, drop_store]
    exact ⟨h.1.gone hi (.refl l) rfl (by simp [Stand.after]) (by simp [Stand.after]), h.2⟩
  case drop =>
    intro log now l f i u h hi _
    change _ ∧ Explained l₀ _ (Tracker.drop l u).store
    rw [drop_store]
    exact ⟨h.1.gone hi (.refl l) rfl (by simp) (by simp), h.2⟩

/-- The ledger with the same rows on which nothing disturbs a call that runs alone. -/
def calm (l : Ledger ProgressMemory) : Ledger ProgressMemory where
  world := { l.world with
    store := { l.store with readFailures := [], writeFailures := [], beginDelay := 0 } }
  locks := .empty

/-- An order of the updates that succeeded between two states of a run explains what came of all of
them: in it each of them stands once, as it was planned and with the instant that it stamped; run
one after another on the rows of the first state, they make the same changes and leave the rows of
the second; and only rows that they moved are counted. When no update is under way, nobody stands
in line for a row. -/
structure Serialized (r r' : Run (Ledger ProgressMemory) Update (Except Error StatusChange))
    (order : List (Nat × Update × StatusChange)) : Prop where
  nodup : (order.map Prod.fst).Nodup
  mem : ∀ i u c, (i, u, c) ∈ order ↔ ∃ time, standing r' i = some (.ended u (.ok c) time)
  planned : ∀ i u c, (i, u, c) ∈ order →
    standing r i = some (.planned { u with phase := .arriving })
  stamped : ∀ i u c, (i, u, c) ∈ order → ∀ given, u.instant = some given → stamp u = some given
  inTurn : ∃ l, inTurn (calm r.shared) (order.map fun e => again e.2.1) =
    some (order.map fun e => .ok e.2.2, l) ∧ l.store.rows = r'.shared.store.rows
  counted : r'.shared.store.mutations =
    r.shared.store.mutations + order.countP fun e => e.2.2 ≠ .unchanged
  free : (∀ i u, standing r' i ≠ some (.running u)) → ∀ a, r'.shared.locks.line a = []

lemma succeeded?_eq_some {e : Nat × Update × Except Error StatusChange} {i : Nat} {u : Update}
    {c : StatusChange} : succeeded? e = some (i, u, c) ↔ e = (i, u, .ok c) := by
  obtain ⟨j, v, a⟩ := e
  cases a with
  | error e => simp [succeeded?]
  | ok d => simp [succeeded?]

lemma succeeded_nodup {log : List (Nat × Update × Except Error StatusChange)}
    (h : (log.map Prod.fst).Nodup) : ((log.filterMap succeeded?).map Prod.fst).Nodup := by
  have hsub : ((log.filterMap succeeded?).map Prod.fst).Sublist (log.map Prod.fst) := by
    clear h
    induction log with
    | nil => exact .slnil
    | cons e log ih =>
      obtain ⟨i, u, a⟩ := e
      cases a with
      | error e => exact ih.cons i
      | ok c => exact ih.cons_cons i
  exact h.sublist hsub

lemma turn_arriving {l : Ledger ProgressMemory} {u u' : Update} {now : Nat}
    {v : UpdateTurn ProgressMemory}
    (h : Tracker.machine.step now l u = some v ∨ Tracker.machine.expire now l u = some v)
    (hn : v.next = .running u') :
    { u' with phase := .arriving } = { u with phase := .arriving } := by
  have hgo : ∀ l' p, v = goOn l' u p →
      { u' with phase := .arriving } = { u with phase := .arriving } := by
    intro l' p hv
    rw [hv, goOn, Next.running.injEq] at hn
    rw [← hn]
  have hend : ∀ a, v.next ≠ .ended a := by
    intro a ha
    rw [hn] at ha
    cases ha
  rcases h with h | h
  · change step now l u = some v at h
    unfold step at h
    cases hp : u.phase with
    | arriving =>
      rw [hp] at h
      exact hgo _ _ (Option.some.inj h).symm
    | beginning due limit =>
      rw [hp] at h
      simp only at h
      split at h
      · cases h
      · exact hgo _ _ (Option.some.inj h).symm
    | locking t limit =>
      rw [hp] at h
      simp only at h
      split at h
      · split at h
        · exact hgo _ _ (Option.some.inj h).symm
        · exact absurd (congrArg Turn.next (Option.some.inj h).symm) (hend _)
      · cases h
    | keeping t =>
      rw [hp] at h
      exact absurd (congrArg Turn.next (Option.some.inj h).symm) (hend _)
    | writing t c =>
      rw [hp] at h
      have hw := (Option.some.inj h).symm
      unfold write at hw
      simp only at hw
      split at hw
      · exact absurd (congrArg Turn.next hw) (hend _)
      · split at hw
        · exact absurd (congrArg Turn.next hw) (hend _)
        · exact hgo _ _ hw
    | committing t c i =>
      rw [hp] at h
      exact absurd (congrArg Turn.next (Option.some.inj h).symm) (hend _)
  · obtain ⟨e, he, -⟩ := expire_eq h
    exact absurd he (hend _)

lemma mem_succeeded {log : List (Nat × Update × Except Error StatusChange)} {i : Nat} {u : Update}
    {c : StatusChange} : (i, u, c) ∈ log.filterMap succeeded? ↔ (i, u, .ok c) ∈ log := by
  rw [List.mem_filterMap]
  constructor
  · rintro ⟨e, he, hs⟩
    rwa [← succeeded?_eq_some.mp hs]
  · intro he
    exact ⟨_, he, rfl⟩

lemma numbers_eq_none {f : Standing Update (Except Error StatusChange)} {i : Nat}
    (h : ∀ u, f i ≠ some (.running u)) : numbers f i = none := by
  rw [numbers]
  cases hi : f i with
  | none => rfl
  | some s =>
    cases s with
    | running u => exact absurd hi (h u)
    | planned u => rfl
    | ended u a time => rfl
    | dropped u time => rfl

lemma underway_unstarted {l : Ledger ProgressMemory}
    {f : Standing Update (Except Error StatusChange)} (hfree : l.locks.lines = [])
    (hnew : Unstarted (fun u => u.phase = .arriving) f) : Underway l f := by
  have hrun : ∀ i u, f i ≠ some (.running u) := by
    intro i u hi
    obtain ⟨v, hv, -⟩ := hnew i _ hi
    cases hv
  refine ⟨hnew.planned, manned_of_lines_nil hfree fun i => numbers_eq_none (hrun i), ?_⟩
  intro i u hi
  exact absurd hi (hrun i u)

/-- Concurrent updates of a store in memory have the effect of running those that succeeded one
after another, whatever fails, expires or is dropped. -/
theorem updates_serializable {r r' : Run (Ledger ProgressMemory) Update (Except Error StatusChange)}
    {log : List (Nat × Update × Except Error StatusChange)}
    (h : History Tracker.machine Undisturbed anyState r log r')
    (hnew : Unstarted (fun u => u.phase = .arriving) (standing r))
    (hfree : r.shared.locks.lines = []) : ∃ order, Serialized r r' order := by
  have hstart : Underway r.shared (standing r) := underway_unstarted hfree hnew
  have hnone : Explained (calm r.shared) [] r.shared.store :=
    ⟨⟨calm r.shared, rfl, ⟨rfl, rfl, rfl, rfl⟩, rfl, rfl⟩, rfl, by simp⟩
  obtain ⟨hunder, hexp⟩ := h.keeps (underway_kept (calm r.shared)) ⟨hstart, hnone⟩
  have hrec := h.recorded hnew
  refine ⟨log.filterMap succeeded?, succeeded_nodup hrec.nodup, ?_, ?_, ?_, ?_, hexp.counted, ?_⟩
  · intro i u c
    rw [mem_succeeded]
    constructor
    · exact hrec.ended i u (.ok c)
    · rintro ⟨time, ht⟩
      rcases hrec.logged i u (.ok c) time ht with hl | ⟨now, l, v, hv, hn⟩
      · exact hl
      · obtain ⟨e, he, -⟩ := expire_eq hv
        rw [hn] at he
        cases he
  · intro i u c he
    obtain ⟨time, ht⟩ := hrec.ended i u (.ok c) (mem_succeeded.mp he)
    have ho := h.origin (fun u => { u with phase := .arriving })
      (fun _ _ _ _ _ hv hn => turn_arriving hv hn) i
    rw [ht] at ho
    cases hi : standing r i with
    | none =>
      rw [hi] at ho
      cases ho
    | some s =>
      obtain ⟨v, rfl, hp⟩ := hnew i s hi
      rw [hi] at ho
      simp only [Option.map_some, callOf, Option.some.injEq] at ho
      rw [ho, ← hp]
  · intro i u c he
    exact hexp.stamped (i, u, c) he
  · obtain ⟨l, hl, -, hr, -⟩ := hexp.inTurn
    exact ⟨l, hl, hr⟩
  · intro hend
    exact hunder.manned.line_eq_nil fun i => numbers_eq_none (hend i)

/-- Two calls move a new account to one stage; a third is dropped while its transaction begins, and
the reading of a fourth fails. -/
def race : Run (Ledger ProgressMemory) Update (Except Error StatusChange) where
  now := 0
  shared := ⟨⟨{ ProgressMemory.empty .current with readFailures := ["offline"], beginDelay := 5 },
    ⟨default⟩⟩, .empty⟩
  notices := []
  jobs := [⟨0, none, .planned (.new .plain ⟨9⟩ .fetchStarted none)⟩,
    ⟨0, some 3, .planned (.new .plain ⟨7⟩ .fetchStarted none)⟩,
    ⟨0, none, .planned (.new .plain ⟨7⟩ .fetchStarted none)⟩,
    ⟨0, none, .planned (.new .plain ⟨7⟩ .fetchStarted none)⟩]

/-- The changes that the jobs of a run have made. -/
def changesOf (r : Run (Ledger ProgressMemory) Update (Except Error StatusChange)) :
    List (Option StatusChange) :=
  r.jobs.map fun j =>
    match j.stand with
    | .ended _ (.ok c) _ => some c
    | _ => none

theorem race_serializable :
    changesOf (race.finish Tracker.machine) = [none, none, some .created, some .unchanged] ∧
      ∃ order, Serialized race (race.finish Tracker.machine) order := by
  have hnew : Unstarted (fun u => u.phase = .arriving) (standing race) := by
    intro i s hi
    obtain ⟨j, hj, rfl⟩ := Option.map_eq_some_iff.mp hi
    have hmem := List.mem_of_getElem? hj
    simp only [race, List.mem_cons, List.not_mem_nil, or_false] at hmem
    rcases hmem with rfl | rfl | rfl | rfl <;> exact ⟨_, rfl, rfl⟩
  obtain ⟨log, h⟩ : ∃ log, History Tracker.machine Undisturbed anyState race log
      (race.finish Tracker.machine) :=
    history_of_reaches (reaches_finishFrom Tracker.machine race race .refl _ none) fun _ _ => trivial
  exact ⟨by decide +kernel, updates_serializable h hnew rfl⟩

end Tenancy.Proofs
