import Tenancy.Proofs.Instants
import Tenancy.Proofs.Waiting

/-!
# Instants that are read from the clock

An update whose caller gives no instant reads the clock when it writes its row. It holds the row
from then on until it commits, so no other update of the account commits in between, or reads the
clock either. Where the clock never goes back, the updates of an account therefore stamp their rows
in the order in which they commit, whatever the order in which they began.
-/

namespace Tenancy.Proofs

open Function Table Tracker

/-- A store with a clock, and the updates that run on it. -/
abbrev UpdateRun (S : Type) :=
  Run (Ledger S) Update (Except Error StatusChange)

section Turns

variable {S : Type} [RowStore S] {l l' : Ledger S} {u : Update} {t t' : Transaction} {now : Nat}
  {v : UpdateTurn S}

/-- What a turn of an update does with the clock and with its instant. -/
inductive StampTurn (l : Ledger S) (u : Update) :
    Ledger S → Next Update (Except Error StatusChange) → Prop where
  | proceeds {l' p} : l'.world.clock = l.world.clock → (∀ t c i, p ≠ .committing t c i) →
      StampTurn l u l' (.running { u with phase := p })
  | stamps {l' t t' c} (before : Option ProgressRecord) : l'.world.clock = l.world.clock →
      u.phase = .writing t c →
      t'.pending.get? u.account = some (.move (RowStore.schema l'.store) u.account before u.stage
        (u.instant.getD l.world.clock.now)) →
      StampTurn l u l' (.running { u with
        phase := .committing t' c (u.instant.getD l.world.clock.now) })
  | commits {t c i} : u.phase = .committing t c i → StampTurn l u (l.commit t) (.ended (.ok c))
  | ends {l' a} : l'.world.clock = l.world.clock → (∀ c, a = .ok c → c = .unchanged) →
      StampTurn l u l' (.ended a)

omit [RowStore S] in
lemma clock_drop (l : Ledger S) (u : Update) :
    (Tracker.drop l u).world.clock = l.world.clock := by
  unfold Tracker.drop
  split <;> rfl

lemma aboutToWrite_clock {ready : Except Error Unit} (h : l.aboutToWrite = (ready, l')) :
    l'.world.clock = l.world.clock := by
  have hl : l.aboutToWrite.2 = l' := by rw [h]
  rw [← hl]
  rfl

lemma write_clock {a : AccountId} {stage : Stage} {i : Instant} {r : Except Error Transaction}
    (h : l.write t a stage i = (r, l')) : l'.world.clock = l.world.clock := by
  unfold Ledger.write at h
  simp only at h
  split at h <;> cases h <;> rfl

/-- A transaction that has written a row keeps it as it is moved to its stage. -/
lemma write_row {a : AccountId} {stage : Stage} {i : Instant}
    (h : l.write t a stage i = (.ok t', l')) : ∃ before,
      t'.pending.get? a = some (.move (RowStore.schema l'.store) a before stage i) := by
  unfold Ledger.write at h
  simp only at h
  split at h
  · cases h
    exact ⟨_, by rw [get?_insert, if_pos rfl]⟩
  · cases h
    exact ⟨_, by rw [get?_insert, if_pos rfl]⟩
  · cases h

lemma stampTurn_writing {c : StatusChange} (hp : u.phase = .writing t c) :
    StampTurn l u (Tracker.write l u t c).shared (Tracker.write l u t c).next := by
  unfold Tracker.write
  simp only
  split
  · rename_i hready
    have hclock := aboutToWrite_clock hready
    exact .ends hclock (by simp)
  · rename_i hready
    split
    · rename_i hwrite
      have hclock := (write_clock hwrite).trans (aboutToWrite_clock hready)
      exact .ends hclock (by simp)
    · rename_i hwrite
      have hclock := (write_clock hwrite).trans (aboutToWrite_clock hready)
      obtain ⟨before, hrow⟩ := write_row hwrite
      exact .stamps before hclock hp hrow

lemma stampTurn_of_step (h : Tracker.step now l u = some v) :
    StampTurn l u v.shared v.next := by
  unfold Tracker.step at h
  cases hp : u.phase with
  | arriving =>
    rw [hp] at h
    rw [← Option.some.inj h]
    exact .proceeds rfl (by simp)
  | beginning due limit =>
    rw [hp] at h
    simp only at h
    split at h
    · cases h
    · rw [← Option.some.inj h]
      exact .proceeds rfl (by simp)
  | locking t limit =>
    rw [hp] at h
    simp only at h
    split at h
    · split at h
      · rename_i p hdecide
        rw [← Option.some.inj h]
        refine .proceeds rfl ?_
        obtain rfl | ⟨c, rfl⟩ := decide_cases hdecide
        · simp
        · simp
      · rw [← Option.some.inj h]
        exact .ends rfl (by simp)
    · cases h
  | keeping t =>
    rw [hp] at h
    rw [← Option.some.inj h]
    exact .ends rfl (by simp)
  | writing t c =>
    rw [hp] at h
    rw [← Option.some.inj h]
    exact stampTurn_writing hp
  | committing t c i =>
    rw [hp] at h
    rw [← Option.some.inj h]
    exact .commits hp

lemma stampTurn_of_expire (h : Tracker.expire now l u = some v) :
    StampTurn l u v.shared v.next := by
  obtain ⟨e, hn, hs⟩ := expire_eq h
  rw [hn, hs]
  exact .ends (clock_drop l u) (by simp)

lemma stampTurn_of_takes {r r' : UpdateRun S} {i : Nat}
    (h : Takes Tracker.machine r r' i u v) : StampTurn r.shared u r'.shared v.next := by
  rw [h.shared]
  rcases h.does with hstep | ⟨-, hexpire⟩
  · exact stampTurn_of_step hstep
  · exact stampTurn_of_expire hexpire

lemma StampTurn.clock {n : Next Update (Except Error StatusChange)} (h : StampTurn l u l' n) :
    l'.world.clock = l.world.clock := by
  cases h with
  | proceeds hclock _ => exact hclock
  | stamps _ hclock _ _ => exact hclock
  | commits _ => rfl
  | ends hclock _ => exact hclock

lemma StampTurn.written {u' : Update} {c : StatusChange} {x : Instant}
    (h : StampTurn l u l' (.running u')) (hp : u'.phase = .committing t c x) :
    (∃ t₀, u.phase = .writing t₀ c) ∧ u'.account = u.account ∧
      x = u'.instant.getD l.world.clock.now ∧ ∃ before, t.pending.get? u'.account =
        some (.move (RowStore.schema l'.store) u'.account before u'.stage x) := by
  cases h with
  | proceeds _ hnot => exact absurd hp (hnot t c x)
  | stamps before _ hwriting hput =>
    cases hp
    exact ⟨⟨_, hwriting⟩, rfl, rfl, before, hput⟩

lemma StampTurn.committed {c : StatusChange} (h : StampTurn l u l' (.ended (.ok c)))
    (hc : c ≠ .unchanged) : ∃ t i, u.phase = .committing t c i ∧ l' = l.commit t := by
  cases h with
  | commits hp => exact ⟨_, _, hp, rfl⟩
  | ends _ hkept => exact absurd (hkept c rfl) hc

end Turns

section Rows

variable {S : Type} {r : UpdateRun S} {i j : Nat} {a : AccountId} {u : Update}

/-- An update under way holds the row of an account. -/
def HasRow (r : UpdateRun S) (i : Nat) (a : AccountId) : Prop :=
  ∃ u t, standing r i = some (.running u) ∧ u.phase.transaction? = some t ∧
    r.shared.holds t a = true

lemma Lined.hasRow_unique (h : Lined r.shared.locks (standing r)) (hi : HasRow r i a)
    (hj : HasRow r j a) : i = j := by
  obtain ⟨u, t, hu, ht, hheld⟩ := hi
  obtain ⟨v, t', hv, ht', hheld'⟩ := hj
  have howner : t.owner = t'.owner := holds_unique hheld hheld'
  exact h.manned.apart i j t.owner (numbers_of_running hu ht) (howner ▸ numbers_of_running hv ht')

lemma Lined.hasRow {t : Transaction} (h : Lined r.shared.locks (standing r))
    (hi : standing r i = some (.running u)) (ht : u.phase.transaction? = some t)
    (hp : ∀ t limit, u.phase ≠ .locking t limit) : HasRow r i u.account := by
  refine ⟨u, t, hi, ht, ?_⟩
  have hseat := h.seated i u hi
  unfold Seated at hseat
  cases hphase : u.phase with
  | arriving | beginning =>
    rw [hphase] at ht
    cases ht
  | locking t' limit => exact absurd hphase (hp t' limit)
  | keeping | writing | committing =>
    rw [hphase] at ht hseat
    cases ht
    exact hseat

end Rows

/-- What the surroundings of updates may do when the clock never goes back: the clock goes on, and
the store changes in any way. The lines for rows stay as they are. -/
structure Ticking {S : Type} (l l' : Ledger S) : Prop where
  lines : SameLines l l'
  clock : l.world.clock.now ≤ l'.world.clock.now

section Runs

variable {S : Type} [RowStore S] {s : Nat → UpdateRun S} {n n' i j : Nat} {u v : Update}
  {t : Transaction} {c : StatusChange} {x y : Instant}

/-- The course of updates on a store, none of which has begun at first, while the clock never goes
back. -/
structure Updating (s : Nat → UpdateRun S) : Prop where
  chronicle : Chronicle Tracker.machine Ticking s
  fresh : Unstarted (fun u => u.phase = .arriving) (standing (s 0))
  free : (s 0).shared.locks.lines = []

lemma Updating.monotone_clock (h : Updating s) :
    Monotone fun n => (s n).shared.world.clock.now := by
  apply monotone_nat_of_le_succ
  intro n
  cases (h.chronicle n).passage with
  | pass _ shared _ => rw [shared]
  | change _ shared _ => exact shared.clock
  | start _ _ _ _ shared _ => rw [shared]
  | turn i u v takes => rw [(stampTurn_of_takes takes).clock]
  | drop i u _ _ shared _ =>
    rw [shared]
    exact (congrArg Clock.now (clock_drop (s n).shared u)).ge

lemma Updating.lined (h : Updating s) (n : Nat) : Lined (s n).shared.locks (standing (s n)) := by
  have hrun : ∀ i u, standing (s 0) i ≠ some (.running u) := by
    intro i u hi
    obtain ⟨v, hv, -⟩ := h.fresh i _ hi
    cases hv
  have hstart : Lined (s 0).shared.locks (standing (s 0)) := by
    refine ⟨h.fresh.planned, manned_of_lines_nil h.free fun i => numbers_eq_none (hrun i), ?_, ?_⟩
    · exact fun i u hi => absurd hi (hrun i u)
    · exact fun i u t a hi => absurd hi (hrun i u)
  obtain ⟨log, hl⟩ := (h.chronicle.mono fun _ _ hs => hs.lines).history n
  exact hl.keeps lined_kept hstart

/-- At a moment an update writes its row, with the instant that it was given or that the clock shows
then. -/
structure StampedAt (s : Nat → UpdateRun S) (m : Nat) (u : Update) (t : Transaction) (x : Instant) :
    Prop where
  instant : x = u.instant.getD (s m).shared.world.clock.now
  row : ∃ before, t.pending.get? u.account =
    some (.move (RowStore.schema (s (m + 1)).shared.store) u.account before u.stage x)

/-- An update that is about to commit has written its row at an earlier moment, and it has held the
row ever since. -/
lemma Updating.stamped (h : Updating s) (hn : standing (s n) i = some (.running u))
    (hp : u.phase = .committing t c x) :
    ∃ m < n, StampedAt s m u t x ∧ ∀ l, m ≤ l → l ≤ n → HasRow (s l) i u.account := by
  induction n with
  | zero =>
    obtain ⟨w, hw, -⟩ := h.fresh i _ hn
    cases hw
  | succ n ih =>
    have hlast : HasRow (s (n + 1)) i u.account :=
      (h.lined (n + 1)).hasRow hn (by rw [hp]; rfl) (by simp [hp])
    rcases h.chronicle.running hn with hsame | hplanned | ⟨w, v, htakes, hnext⟩
    · obtain ⟨m, hm, hstamped, hrow⟩ := ih hsame
      refine ⟨m, Nat.lt_succ_of_lt hm, hstamped, ?_⟩
      intro l hml hln
      rcases Nat.le_succ_iff.mp hln with hl | rfl
      · exact hrow l hml hl
      · exact hlast
    · have harriving : u.phase = .arriving := (h.lined n).fresh i u hplanned
      rw [hp] at harriving
      cases harriving
    · have hturn := stampTurn_of_takes htakes
      rw [hnext] at hturn
      obtain ⟨⟨t₀, hwriting⟩, haccount, hx, hput⟩ := hturn.written hp
      have hfirst : HasRow (s n) i w.account :=
        (h.lined n).hasRow htakes.before (by rw [hwriting]; rfl) (by simp [hwriting])
      refine ⟨n, Nat.lt_succ_self n, ⟨hx, hput⟩, ?_⟩
      intro l hnl hln
      rcases Nat.le_succ_iff.mp hln with hl | rfl
      · rwa [Nat.le_antisymm hl hnl, haccount]
      · exact hlast

/-- At a moment an update ends that has moved its account and stamped the row with an instant. -/
structure Commits (s : Nat → UpdateRun S) (n i : Nat) (u : Update) (x : Instant) : Prop where
  before : standing (s n) i = some (.running u)
  after : ∃ c time, c ≠ .unchanged ∧ standing (s (n + 1)) i = some (.ended u (.ok c) time)
  stamp : stamp u = some x

lemma Updating.takes_of_ended (h : Updating s) {a : Except Error StatusChange} {time : Nat}
    (hn : standing (s n) i = some (.running u))
    (hend : standing (s (n + 1)) i = some (.ended u a time)) :
    ∃ v, Takes Tracker.machine (s n) (s (n + 1)) i u v ∧ v.next = .ended a := by
  cases h.chronicle.job n i with
  | same jobs =>
    rw [jobs, hn] at hend
    cases hend
  | start w _ after =>
    rw [after] at hend
    cases hend
  | turn w v takes after =>
    have hw := takes.before
    rw [hn] at hw
    cases hw
    exact ⟨v, takes, takes.next_of_ended hend⟩
  | drop w _ after =>
    rw [after] at hend
    cases hend

lemma Updating.committed (h : Updating s) {time : Nat} (hn : standing (s n) i = some (.running u))
    (hend : standing (s (n + 1)) i = some (.ended u (.ok c) time)) (hc : c ≠ .unchanged) :
    ∃ t x, u.phase = .committing t c x ∧
      (s (n + 1)).shared.store = RowStore.commit (s n).shared.store t.pending := by
  obtain ⟨v, htakes, hnext⟩ := h.takes_of_ended hn hend
  have hturn := stampTurn_of_takes htakes
  rw [hnext] at hturn
  obtain ⟨t, x, hp, hl⟩ := hturn.committed hc
  exact ⟨t, x, hp, by rw [hl]; rfl⟩

/-- What is stamped on rows, and in which order. -/
structure StampedInOrder (s : Nat → UpdateRun S) : Prop where
  /-- An update that has moved its account has committed the row that it has stamped. Unless its
  caller gave the instant, the clock showed it at a moment from which on the update held the row. -/
  stamped : ∀ n i u c time, standing (s n) i = some (.running u) →
    standing (s (n + 1)) i = some (.ended u (.ok c) time) → c ≠ .unchanged →
    ∃ x t m, stamp u = some x ∧ m < n ∧ StampedAt s m u t x ∧
      (s (n + 1)).shared.store = RowStore.commit (s n).shared.store t.pending ∧
      ∀ l, m ≤ l → l ≤ n → HasRow (s l) i u.account
  /-- Updates of one account that read the clock have stamped their rows in the order in which they
  commit. -/
  ordered : ∀ n n' i j u v x y, n ≤ n' → Commits s n i u x → Commits s n' j v y →
    u.account = v.account → u.instant = none → v.instant = none → x ≤ y

lemma Updating.stamped_of_commits (h : Updating s) (hc : Commits s n i u x)
    (hu : u.instant = none) :
    ∃ m < n, x = (s m).shared.world.clock.now ∧
      ∀ l, m ≤ l → l ≤ n → HasRow (s l) i u.account := by
  obtain ⟨c, time, hchange, hend⟩ := hc.after
  obtain ⟨t, x', hp, -⟩ := h.committed hc.before hend hchange
  obtain ⟨m, hm, hstamped, hrow⟩ := h.stamped hc.before hp
  have hx : x' = x := by
    have hstamp := hc.stamp
    rw [stamp, hp] at hstamp
    exact Option.some.inj hstamp
  refine ⟨m, hm, ?_, hrow⟩
  rw [← hx, hstamped.instant, hu, Option.getD_none]

lemma Updating.commits_once (h : Updating s) (hnn : n ≤ n') (hu : Commits s n i u x)
    (hv : Commits s n' i v y) : x = y := by
  rcases Nat.eq_or_lt_of_le hnn with rfl | hlt
  · have hsame := hu.before.symm.trans hv.before
    cases hsame
    exact Option.some.inj (hu.stamp.symm.trans hv.stamp)
  · obtain ⟨c, time, -, hend⟩ := hu.after
    have hlater := h.chronicle.finished hend (by simp) hlt
    rw [hv.before] at hlater
    cases hlater

/-- Whatever waits, fails, expires or is dropped, the updates of an account that read the clock
stamp their rows in the order in which they commit. -/
theorem stamps_follow_commits (h : Updating s) : StampedInOrder s where
  stamped := by
    intro n i u c time hn hend hc
    obtain ⟨t, x, hp, hstore⟩ := h.committed hn hend hc
    obtain ⟨m, hm, hstamped, hrow⟩ := h.stamped hn hp
    exact ⟨x, t, m, by rw [stamp, hp], hm, hstamped, hstore, hrow⟩
  ordered := by
    intro n n' i j u v x y hnn hu hv haccount hread hread'
    by_cases hij : i = j
    · subst hij
      exact (h.commits_once hnn hu hv).le
    · obtain ⟨m, hm, rfl, hrow⟩ := h.stamped_of_commits hu hread
      obtain ⟨m', hm', rfl, hrow'⟩ := h.stamped_of_commits hv hread'
      have hmm : m ≤ m' := by
        by_contra hlt
        have hsecond := hrow' m (Nat.le_of_not_le hlt) (hm.le.trans hnn)
        rw [← haccount] at hsecond
        exact hij ((h.lined m).hasRow_unique (hrow m le_rfl hm.le) hsecond)
      exact h.monotone_clock hmm

end Runs

/-- Two updates of one account, and a third that is dropped while it waits for the row. The second
one starts when transactions begin at once again and gets the row before the first one, whose
transaction begins late. -/
def overtaken : Nat → UpdateRun ProgressMemory :=
  play Tracker.machine ⟨0, ⟨⟨{ ProgressMemory.empty .current with beginDelay := 10 }, ⟨.epoch⟩⟩,
      .empty⟩, [],
    [⟨0, none, .planned (.new .plain ⟨7⟩ .fetchCompleted none)⟩,
      ⟨0, none, .planned (.new .plain ⟨7⟩ .fetchStarted none)⟩,
      ⟨0, none, .planned (.new .plain ⟨7⟩ .fetchStarted none)⟩]⟩
    [.event (.start 0), .event (.step 0),
      .change fun l => l.withStore { l.store with beginDelay := 0 }, .event (.start 1),
      .event (.step 1), .event (.step 1), .event (.start 2), .event (.step 2), .event (.step 2),
      .pass 10, .event (.step 0), .event (.step 1), .event (.step 1),
      .change fun l => { l with world := { l.world with clock := ⟨max l.world.clock.now .last⟩ } },
      .event (.drop 2), .event (.step 1), .event (.step 0), .event (.step 0), .event (.step 0)]

lemma updating_overtaken : Updating overtaken where
  chronicle := chronicle_play _ _ (by
    simpa using ⟨fun l => ⟨rfl, le_rfl⟩, fun l => ⟨rfl, le_max_left _ _⟩⟩)
  fresh := unstarted_of_jobs (by simp [overtaken, Update.new])
  free := rfl

theorem stamps_follow_commits_overtaken :
    ∃ u v, Commits overtaken 15 1 u .epoch ∧ Commits overtaken 18 0 v .last ∧
      Instant.epoch ≤ .last ∧ ∃ m < 18, (overtaken m).shared.world.clock.now = .last ∧
        HasRow (overtaken m) 0 ⟨7⟩ := by
  have h := stamps_follow_commits updating_overtaken
  obtain ⟨u, hu, hread⟩ : ∃ u, Commits overtaken 15 1 u .epoch ∧ u.account = ⟨7⟩ ∧
      u.instant = none :=
    ⟨_, ⟨rfl, ⟨.created, 10, by decide, rfl⟩, rfl⟩, rfl, rfl⟩
  obtain ⟨v, hv, hread'⟩ : ∃ v, Commits overtaken 18 0 v .last ∧ v.account = ⟨7⟩ ∧
      v.instant = none :=
    ⟨_, ⟨rfl, ⟨.updated .fetchStarted, 10, by decide, rfl⟩, rfl⟩, rfl, rfl⟩
  have hordered : Instant.epoch ≤ .last :=
    h.ordered 15 18 1 0 u v _ _ (by decide) hu hv (hread.1.trans hread'.1.symm) hread.2 hread'.2
  obtain ⟨c, time, hc, hend⟩ := hv.after
  obtain ⟨x, t, m, hx, hm, hstamped, -, hrow⟩ := h.stamped 18 0 v c time hv.before hend hc
  have hclock : (overtaken m).shared.world.clock.now = .last := by
    have hsame : x = .last := Option.some.inj (hx.symm.trans hv.stamp)
    rw [← hsame, hstamped.instant, hread'.2, Option.getD_none]
  exact ⟨u, v, hu, hv, hordered, m, hm, hclock, hread'.1 ▸ hrow m le_rfl hm.le⟩

end Tenancy.Proofs
