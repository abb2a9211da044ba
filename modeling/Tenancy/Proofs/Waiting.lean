import Tenancy.Proofs.Chronicle
import Tenancy.Proofs.Updates

/-!
# Updates that wait for each other

An update lines up for one row only, that of its own account, and it stands in the line from the
start of its transaction until it ends. Whoever stands first can go on: an update that holds its row
waits for nothing. So the updates that wait for a row wait for another update of the same account,
which waits for none, and there is no ring of updates that wait for each other.
-/

namespace Tenancy.Proofs

open Function Table Tracker

variable {S : Type}

/-- The lines for rows once the transaction of an update has ended. -/
def vacated (l : RowLocks) (u : Update) : RowLocks :=
  match u.phase.transaction? with
  | some t => l.release t.owner
  | none => l

lemma locks_drop (l : Ledger S) (u : Update) : (Tracker.drop l u).locks = vacated l.locks u := by
  unfold Tracker.drop vacated
  cases u.phase.transaction? <;> rfl

/-- An update stands where its phase says: in the line for its row, or at its head. -/
def Seated (l : RowLocks) (u : Update) : Prop :=
  match u.phase with
  | .arriving => True
  | .beginning _ _ => True
  | .locking t _ => t.owner ∈ l.line u.account
  | .keeping t => l.holds u.account t.owner = true
  | .writing t _ => l.holds u.account t.owner = true
  | .committing t _ _ => l.holds u.account t.owner = true

lemma mem_line_of_holds {l : RowLocks} {a : AccountId} {o : Nat} (h : l.holds a o = true) :
    o ∈ l.line a :=
  List.mem_of_head? (holds_iff.mp h)

/-- What a turn of an update does with the lines. -/
inductive LineTurn (l : RowLocks) (u : Update) :
    RowLocks → Next Update (Except Error StatusChange) → Prop where
  | arrives {due limit} : u.phase.transaction? = none →
      LineTurn l u l (.running { u with phase := .beginning due limit })
  | begins {t limit} : u.phase.transaction? = none → t.owner = l.nextOwner →
      LineTurn l u (l.enroll.join u.account t.owner) (.running { u with phase := .locking t limit })
  | proceeds {t t' p} : u.phase.transaction? = some t → p.transaction? = some t' →
      t'.owner = t.owner → Seated l { u with phase := p } →
      LineTurn l u l (.running { u with phase := p })
  | ends {a} : LineTurn l u (vacated l u) (.ended a)

section Turns

variable {l l' : Ledger S} {u : Update} {t t' : Transaction} {now : Nat} {v : UpdateTurn S}

lemma lineTurn_fail (hl : l'.locks = l.locks) (ht : u.phase.transaction? = some t) (e : Error) :
    LineTurn l.locks u (fail l' t e).shared.locks (fail l' t e).next := by
  have hvacated : (fail l' t e).shared.locks = vacated l.locks u := by
    change (l'.locks.release t.owner) = _
    rw [vacated, ht, hl]
  rw [hvacated]
  exact .ends

lemma decide_cases {r : Except Error ProgressRecord} {p : Tracker.Phase}
    (h : Tracker.decide u t r = .ok p) : p = .keeping t ∨ ∃ c, p = .writing t c := by
  unfold Tracker.decide at h
  split at h
  · split at h <;> cases h
    · exact .inl rfl
    · exact .inr ⟨_, rfl⟩
  · cases h
    exact .inr ⟨_, rfl⟩
  · cases h

variable [RowStore S]

lemma aboutToWrite_locks {ready : Except Error Unit} (h : l.aboutToWrite = (ready, l')) :
    l'.locks = l.locks := by
  have hl : l.aboutToWrite.2 = l' := by rw [h]
  rw [← hl]
  rfl

lemma write_owner {a : AccountId} {stage : Stage} {i : Instant}
    (h : l.write t a stage i = (.ok t', l')) : t'.owner = t.owner ∧ l'.locks = l.locks := by
  unfold Ledger.write at h
  simp only at h
  split at h <;> cases h <;> exact ⟨rfl, rfl⟩

lemma write_locks {a : AccountId} {stage : Stage} {i : Instant} {e : Error}
    (h : l.write t a stage i = (.error e, l')) : l'.locks = l.locks := by
  unfold Ledger.write at h
  simp only at h
  split at h <;> cases h
  rfl

lemma lineTurn_writing {c : StatusChange} (hp : u.phase = .writing t c)
    (hu : Seated l.locks u) :
    LineTurn l.locks u (write l u t c).shared.locks (write l u t c).next := by
  have ht : u.phase.transaction? = some t := by
    rw [hp]
    rfl
  have hheld : l.locks.holds u.account t.owner = true := by
    rwa [Seated, hp] at hu
  unfold Tracker.write
  simp only
  split
  · rename_i hready
    exact lineTurn_fail (aboutToWrite_locks hready) ht _
  · rename_i hready
    have hlocks := aboutToWrite_locks hready
    split
    · rename_i hwrite
      exact lineTurn_fail ((write_locks hwrite).trans hlocks) ht _
    · rename_i hwrite
      obtain ⟨howner, hlocks₂⟩ := write_owner hwrite
      rw [goOn, hlocks₂, hlocks]
      refine .proceeds ht rfl howner ?_
      simp only [Seated, howner]
      exact hheld

lemma lineTurn_of_step (hu : Seated l.locks u) (h : Tracker.step now l u = some v) :
    LineTurn l.locks u v.shared.locks v.next := by
  unfold Tracker.step at h
  cases hp : u.phase with
  | arriving =>
    rw [hp] at h
    rw [← Option.some.inj h]
    exact .arrives (by rw [hp]; rfl)
  | beginning due limit =>
    rw [hp] at h
    simp only at h
    split at h
    · cases h
    · rw [← Option.some.inj h]
      exact .begins (by rw [hp]; rfl) rfl
  | locking t limit =>
    have ht : u.phase.transaction? = some t := by
      rw [hp]
      rfl
    rw [hp] at h
    simp only at h
    split at h
    · rename_i hheld
      split at h
      · rename_i p hdecide
        rw [← Option.some.inj h]
        obtain rfl | ⟨c, rfl⟩ := decide_cases hdecide
        · exact .proceeds ht rfl rfl hheld
        · exact .proceeds ht rfl rfl hheld
      · rw [← Option.some.inj h]
        exact lineTurn_fail rfl ht _
    · cases h
  | keeping t =>
    rw [hp] at h
    rw [← Option.some.inj h]
    have hvacated : (l.close t).locks = vacated l.locks u := by
      rw [vacated, hp]
      rfl
    simp only [hvacated]
    exact .ends
  | writing t c =>
    rw [hp] at h
    rw [← Option.some.inj h]
    exact lineTurn_writing hp hu
  | committing t c i =>
    rw [hp] at h
    rw [← Option.some.inj h]
    have hvacated : (l.commit t).locks = vacated l.locks u := by
      rw [vacated, hp]
      rfl
    simp only [hvacated]
    exact .ends

end Turns

/-- What is known of the lines for rows while updates are under way. -/
structure Lined (l : RowLocks) (f : Standing Update (Except Error StatusChange)) : Prop where
  fresh : Planned (fun u => u.phase = .arriving) f
  manned : Manned l (numbers f)
  seated : ∀ i u, f i = some (.running u) → Seated l u
  own : ∀ i u t a, f i = some (.running u) → u.phase.transaction? = some t → t.owner ∈ l.line a →
    a = u.account

section Lined

variable {l l' : RowLocks} {f : Standing Update (Except Error StatusChange)} {i j : Nat}
  {u v : Update} {t : Transaction} {x : Stand Update (Except Error StatusChange)}

lemma numbers_of_running (hi : f i = some (.running u)) (ht : u.phase.transaction? = some t) :
    numbers f i = some t.owner := by
  simp [numbers, hi, numberOf, ht]

/-- An update keeps its place when no other one is put before it. -/
lemma Seated.frame (h : Seated l u)
    (hline : ∀ t, u.phase.transaction? = some t → t.owner ∈ l.line u.account →
      t.owner ∈ l'.line u.account)
    (hheld : ∀ t, u.phase.transaction? = some t → l.holds u.account t.owner = true →
      l'.holds u.account t.owner = true) : Seated l' u := by
  unfold Seated at h ⊢
  cases hp : u.phase with
  | arriving => trivial
  | beginning due limit => trivial
  | locking t limit =>
    rw [hp] at h
    exact hline t (by rw [hp]; rfl) h
  | keeping t =>
    rw [hp] at h
    exact hheld t (by rw [hp]; rfl) h
  | writing t c =>
    rw [hp] at h
    exact hheld t (by rw [hp]; rfl) h
  | committing t c k =>
    rw [hp] at h
    exact hheld t (by rw [hp]; rfl) h

lemma Lined.running (h : Lined l f) {s : Stand Update (Except Error StatusChange)}
    (hi : f i = some s) (hn : numberOf (.running v) = numberOf s) (hv : Seated l v)
    (hown : ∀ t a, v.phase.transaction? = some t → t.owner ∈ l.line a → a = v.account) :
    Lined l (update f i (some (.running v))) where
  fresh := h.fresh.update i (by simp)
  manned := by
    have hsame : update (numbers f) i (numberOf s) = numbers f := by
      rw [update_eq_self_iff, numbers, hi]
      rfl
    rw [numbers_update, hn, hsame]
    exact h.manned
  seated j w hj := by
    by_cases hji : j = i
    · rw [hji, update_self, Option.some.injEq, Stand.running.injEq] at hj
      rwa [← hj]
    · rw [update_of_ne hji] at hj
      exact h.seated j w hj
  own j w t a hj ht ha := by
    by_cases hji : j = i
    · rw [hji, update_self, Option.some.injEq, Stand.running.injEq] at hj
      rw [← hj] at ht ⊢
      exact hown t a ht ha
    · rw [update_of_ne hji] at hj
      exact h.own j w t a hj ht ha

/-- An update whose transaction begins lines up for its row, behind all others. -/
lemma Lined.begins (h : Lined l f) (hi : f i = some (.running u))
    (hn : u.phase.transaction? = none) (ht : t.owner = l.nextOwner) (limit : Option Nat) :
    Lined (l.enroll.join u.account t.owner)
      (update f i (some (.running { u with phase := .locking t limit }))) := by
  have hnone : numbers f i = none := by
    simp [numbers, hi, numberOf, hn]
  have hnew : ∀ a, t.owner ∉ l.line a := by
    intro a ha
    obtain ⟨j, hj⟩ := h.manned.lined a _ ha
    exact Nat.lt_irrefl _ (ht ▸ h.manned.given j _ hj)
  have hother : ∀ {j w t'}, f j = some (.running w) → w.phase.transaction? = some t' →
      t'.owner ≠ t.owner := by
    intro j w t' hj ht' ho
    exact Nat.lt_irrefl _ (ht ▸ ho ▸ h.manned.given j _ (numbers_of_running hj ht'))
  constructor
  case fresh => exact h.fresh.update i (by simp)
  case manned =>
    have hmine : numberOf (.running { u with phase := .locking t limit }) = some l.nextOwner :=
      congrArg some ht
    rw [numbers_update, hmine, ht]
    exact (h.manned.enroll hnone).join (update_self i _ _) u.account
  case seated =>
    intro j w hj
    by_cases hji : j = i
    · rw [hji, update_self, Option.some.injEq, Stand.running.injEq] at hj
      rw [← hj]
      exact mem_line_join.mpr (.inr ⟨rfl, rfl⟩)
    · rw [update_of_ne hji] at hj
      apply (h.seated j w hj).frame
      · exact fun t' _ hline => mem_line_join.mpr (.inl hline)
      · exact fun t' _ hheld => holds_join (l := l.enroll) hheld _ _
  case own =>
    intro j w t' a hj ht' ha
    rcases mem_line_join.mp ha with hline | ⟨ho, rfl⟩
    · by_cases hji : j = i
      · rw [hji, update_self, Option.some.injEq, Stand.running.injEq] at hj
        rw [← hj] at ht'
        cases ht'
        exact absurd hline (hnew a)
      · rw [update_of_ne hji] at hj
        exact h.own j w t' a hj ht' hline
    · by_cases hji : j = i
      · rw [hji, update_self, Option.some.injEq, Stand.running.injEq] at hj
        rw [← hj]
      · rw [update_of_ne hji] at hj
        exact absurd ho (hother hj ht')

lemma Lined.ends (h : Lined l f) (hi : f i = some (.running u)) (hx : numberOf x = none)
    (hplanned : ∀ v, x ≠ .planned v) (hrunning : ∀ v, x ≠ .running v) :
    Lined (vacated l u) (update f i (some x)) := by
  have hne : ∀ {j w}, update f i (some x) j = some (.running w) →
      j ≠ i ∧ f j = some (.running w) := by
    intro j w hj
    by_cases hji : j = i
    · rw [hji, update_self, Option.some.injEq] at hj
      exact absurd hj (hrunning w)
    · rw [update_of_ne hji] at hj
      exact ⟨hji, hj⟩
  have hfresh := h.fresh.update i hplanned
  unfold vacated
  cases ht : u.phase.transaction? with
  | none =>
    have hsame : update (numbers f) i none = numbers f := by
      rw [update_eq_self_iff]
      simp [numbers, hi, numberOf, ht]
    refine ⟨hfresh, ?_, ?_, ?_⟩
    · rw [numbers_update, hx, hsame]
      exact h.manned
    · exact fun j w hj => h.seated j w (hne hj).2
    · exact fun j w t a hj => h.own j w t a (hne hj).2
  | some t =>
    have hmine := numbers_of_running hi ht
    have hother : ∀ {j w t'}, update f i (some x) j = some (.running w) →
        w.phase.transaction? = some t' → t'.owner ≠ t.owner := by
      intro j w t' hj ht' ho
      obtain ⟨hji, hj⟩ := hne hj
      exact hji (h.manned.apart j i _ (numbers_of_running hj ht') (ho ▸ hmine))
    refine ⟨hfresh, ?_, ?_, ?_⟩
    · rw [numbers_update, hx]
      exact h.manned.release hmine
    · intro j w hj
      apply (h.seated j w (hne hj).2).frame
      · intro t' ht' hline
        exact (mem_line_release h.manned.tidy).mpr ⟨hline, hother hj ht'⟩
      · intro t' ht' hheld
        exact holds_release h.manned.tidy hheld (hother hj ht')
    · intro j w t' a hj ht' ha
      exact h.own j w t' a (hne hj).2 ht' ((mem_line_release h.manned.tidy).mp ha).1

lemma Lined.turn {n : Next Update (Except Error StatusChange)} {now : Nat} (h : Lined l f)
    (hi : f i = some (.running u)) (hn : LineTurn l u l' n) :
    Lined l' (update f i (some (Stand.after now u n))) := by
  cases hn with
  | arrives ht =>
    refine h.running hi ?_ trivial ?_
    · rw [numberOf, numberOf, ht]
      rfl
    · intro t a hnone
      cases hnone
  | begins ht ho => exact h.begins hi ht ho _
  | @proceeds t t' p ht hp ho hseat =>
    refine h.running hi ?_ hseat ?_
    · rw [numberOf, numberOf, ht, hp, Option.map_some, ho]
      rfl
    · intro t₁ a ht₁ ha
      obtain rfl : t' = t₁ := Option.some.inj (hp.symm.trans ht₁)
      exact h.own i u t a hi ht (ho ▸ ha)
  | ends => exact h.ends hi rfl (by simp [Stand.after]) (by simp [Stand.after])

end Lined

/-- The surroundings leave the lines alone; the store and the clock change in any way. -/
def SameLines (l l' : Ledger S) : Prop :=
  l'.locks = l.locks

section Runs

variable {l : Ledger S} {r r' : Run (Ledger S) Update (Except Error StatusChange)}
  {log : List (Nat × Update × Except Error StatusChange)} {u : Update} {now : Nat}

/-- An update waits for the row of an account: its transaction stands in the line, but not at its
head. -/
def WaitsFor (l : Ledger S) (u : Update) (a : AccountId) : Prop :=
  ∃ t, u.phase.transaction? = some t ∧ t.owner ∈ l.locks.line a ∧ l.holds t a = false

lemma Lined.not_waitsFor (h : Lined l.locks (standing r)) {i : Nat} {t : Transaction}
    (hi : standing r i = some (.running u)) (ht : u.phase.transaction? = some t)
    (hheld : l.holds t u.account = true) (b : AccountId) : ¬ WaitsFor l u b := by
  rintro ⟨t', ht', hline, hfalse⟩
  obtain rfl : t = t' := Option.some.inj (ht.symm.trans ht')
  rw [h.own i u t b hi ht hline, hheld] at hfalse
  cases hfalse

/-- The head of a line in which an update waits is another update of its account. -/
lemma Lined.holder (h : Lined r.shared.locks (standing r)) {i : Nat} {a : AccountId}
    (hi : standing r i = some (.running u)) (hw : WaitsFor r.shared u a) :
    a = u.account ∧ ∃ j v t, j ≠ i ∧ standing r j = some (.running v) ∧ v.account = u.account ∧
      v.phase.transaction? = some t ∧ r.shared.holds t a = true := by
  obtain ⟨t, ht, hline, hfalse⟩ := hw
  have ha : a = u.account := h.own i u t a hi ht hline
  refine ⟨ha, ?_⟩
  obtain ⟨o, rest, hcons⟩ := List.exists_cons_of_ne_nil (List.ne_nil_of_mem hline)
  have hheld : r.shared.locks.holds a o = true := by
    rw [holds_iff, hcons, List.head?_cons]
  obtain ⟨j, hj⟩ := h.manned.lined a o (mem_line_of_holds hheld)
  obtain ⟨x, hx, hn⟩ := Option.bind_eq_some_iff.mp hj
  cases x with
  | running v =>
    obtain ⟨t', ht', rfl⟩ := Option.map_eq_some_iff.mp hn
    have hv : a = v.account := h.own j v t' a hx ht' (mem_line_of_holds hheld)
    refine ⟨j, v, t', ?_, hx, hv.symm.trans ha, ht', hheld⟩
    rintro rfl
    rw [hi] at hx
    cases hx
    rw [ht] at ht'
    cases ht'
    rw [show r.shared.holds t a = true from hheld] at hfalse
    cases hfalse
  | planned v => cases hn
  | ended v b time => cases hn
  | dropped v time => cases hn

variable [RowStore S]

lemma lined_kept : Kept (Tracker.machine (S := S)) SameLines anyState fun _ _ l f =>
    Lined l.locks f := by
  constructor
  case pass => exact fun h _ => h
  case change =>
    intro log now l l' f h hl _
    rw [show l'.locks = l.locks from hl]
    exact h
  case start =>
    intro log now l f i u h hi _
    have hp : u.phase = .arriving := h.fresh i u hi
    refine h.running hi ?_ ?_ ?_
    · rw [numberOf, hp]
      rfl
    · rw [Seated, hp]
      trivial
    · intro t a ht
      rw [hp] at ht
      cases ht
  case step =>
    intro log now l f i u v h hi hv _
    exact h.turn hi (lineTurn_of_step (h.seated i u hi) hv)
  case expire =>
    intro log now l f i u v h hi _ hv _
    obtain ⟨e, hn, hs⟩ := expire_eq hv
    rw [hn, hs, locks_drop]
    exact h.turn hi .ends
  case drop =>
    intro log now l f i u h hi _
    change Lined (Tracker.drop l u).locks _
    rw [locks_drop]
    exact h.ends hi rfl (by simp) (by simp)

/-- An update can take a turn unless its transaction is about to begin or it waits for its row. -/
lemma step_isSome (hheld : ∀ t limit, u.phase = .locking t limit → l.holds t u.account = true)
    (hdue : ∀ due limit, u.phase = .beginning due limit → due ≤ now) :
    (Tracker.machine.step now l u).isSome := by
  change (Tracker.step now l u).isSome
  unfold Tracker.step
  cases hp : u.phase with
  | arriving => rfl
  | beginning due limit =>
    simp only [if_neg (Nat.not_lt_of_le (hdue due limit hp))]
    rfl
  | locking t limit =>
    simp only [if_pos (hheld t limit hp)]
    split <;> rfl
  | keeping t => rfl
  | writing t c => rfl
  | committing t c i => rfl

/-- What is promised of updates under way. -/
structure Unblocked (r : Run (Ledger S) Update (Except Error StatusChange)) : Prop where
  /-- The row for which an update waits is that of its account. Another update of the account holds
  it, which waits for no row and can take a turn. -/
  holder : ∀ i u a, standing r i = some (.running u) → WaitsFor r.shared u a → a = u.account ∧
    ∃ j v t, j ≠ i ∧ standing r j = some (.running v) ∧ v.account = u.account ∧
      v.phase.transaction? = some t ∧ r.shared.holds t a = true ∧
      (∀ b, ¬ WaitsFor r.shared v b) ∧ (Tracker.machine.step r.now r.shared v).isSome
  /-- Updates of different accounts do not stand in one line. -/
  apart : ∀ i j u v t t' a, standing r i = some (.running u) → standing r j = some (.running v) →
    u.phase.transaction? = some t → v.phase.transaction? = some t' → t.owner ∈ r.shared.locks.line a →
    t'.owner ∈ r.shared.locks.line a → u.account = v.account
  /-- An update that cannot take a turn waits for its row, or its transaction is about to begin. -/
  waiting : ∀ i u, standing r i = some (.running u) →
    Tracker.machine.step r.now r.shared u = none →
    WaitsFor r.shared u u.account ∨ ∃ due limit, u.phase = .beginning due limit ∧ r.now < due
  /-- As long as updates are under way, one of them can take a turn, or it can when its transaction
  has begun. -/
  progress : ∀ i u, standing r i = some (.running u) → ∃ j v, standing r j = some (.running v) ∧
    ((Tracker.machine.step r.now r.shared v).isSome ∨ ∃ due limit,
      v.phase = .beginning due limit ∧ r.now < due ∧
        (Tracker.machine.step due r.shared v).isSome)

lemma Lined.unblocked (h : Lined r.shared.locks (standing r)) : Unblocked r := by
  have hholder : ∀ i u a, standing r i = some (.running u) → WaitsFor r.shared u a →
      a = u.account ∧ ∃ j v t, j ≠ i ∧ standing r j = some (.running v) ∧ v.account = u.account ∧
        v.phase.transaction? = some t ∧ r.shared.holds t a = true ∧
        (∀ b, ¬ WaitsFor r.shared v b) ∧ (Tracker.machine.step r.now r.shared v).isSome := by
    intro i u a hi hw
    obtain ⟨ha, j, v, t, hji, hj, hv, ht, hheld⟩ := h.holder hi hw
    have hheld' : r.shared.holds t v.account = true := by
      rwa [hv, ← ha]
    refine ⟨ha, j, v, t, hji, hj, hv, ht, hheld, h.not_waitsFor hj ht hheld', ?_⟩
    apply step_isSome
    · intro t' limit hp
      rw [hp] at ht
      cases ht
      exact hheld'
    · intro due limit hp
      rw [hp] at ht
      cases ht
  have hwaiting : ∀ i u, standing r i = some (.running u) →
      Tracker.machine.step r.now r.shared u = none →
      WaitsFor r.shared u u.account ∨ ∃ due limit, u.phase = .beginning due limit ∧ r.now < due := by
    intro i u hi hnone
    by_contra hneither
    obtain ⟨hfree, hbegun⟩ := not_or.mp hneither
    have hsome : (Tracker.machine.step r.now r.shared u).isSome := by
      apply step_isSome
      · intro t limit hp
        by_contra hnot
        have hline := h.seated i u hi
        rw [Seated, hp] at hline
        exact hfree ⟨t, by rw [hp]; rfl, hline, by simpa using hnot⟩
      · intro due limit hp
        by_contra hlt
        exact hbegun ⟨due, limit, hp, Nat.lt_of_not_le hlt⟩
    rw [hnone] at hsome
    cases hsome
  refine ⟨hholder, ?_, hwaiting, ?_⟩
  · intro i j u v t t' a hi hj ht ht' hline hline'
    rw [← h.own i u t a hi ht hline, ← h.own j v t' a hj ht' hline']
  · intro i u hi
    cases hstep : Tracker.machine.step r.now r.shared u with
    | some v => exact ⟨i, u, hi, .inl (by rw [hstep]; rfl)⟩
    | none =>
      rcases hwaiting i u hi hstep with hw | ⟨due, limit, hp, hlt⟩
      · obtain ⟨-, j, v, -, -, hj, -, -, -, -, hgoes⟩ := hholder i u _ hi hw
        exact ⟨j, v, hj, .inl hgoes⟩
      · refine ⟨i, u, hi, .inr ⟨due, limit, hp, hlt, step_isSome ?_ ?_⟩⟩
        · intro t limit' hp'
          cases hp.symm.trans hp'
        · intro due' limit' hp'
          cases hp.symm.trans hp'
          exact Nat.le_refl due

/-- Whatever fails, expires or is dropped, an update waits for no row but that of its account, and
only while another update of this account holds it, which can go on. -/
theorem updates_unblocked (h : History (Tracker.machine (S := S)) SameLines anyState r log r')
    (hnew : Unstarted (fun u => u.phase = .arriving) (standing r))
    (hfree : r.shared.locks.lines = []) : Unblocked r' := by
  have hrun : ∀ i u, standing r i ≠ some (.running u) := by
    intro i u hi
    obtain ⟨v, hv, -⟩ := hnew i _ hi
    cases hv
  have hstart : Lined r.shared.locks (standing r) := by
    refine ⟨hnew.planned, manned_of_lines_nil hfree fun i => numbers_eq_none (hrun i), ?_, ?_⟩
    · exact fun i u hi => absurd hi (hrun i u)
    · exact fun i u t a hi => absurd hi (hrun i u)
  exact (h.keeps lined_kept hstart).unblocked

end Runs

/-- Three updates of one store. The transactions of the first two, for one account, have lined up
for its row, and the third one is of another account. -/
def lineUp : Nat → Run (Ledger ProgressMemory) Update (Except Error StatusChange) :=
  play Tracker.machine ⟨0, ⟨⟨ProgressMemory.empty .current, ⟨default⟩⟩, .empty⟩, [],
    [⟨0, none, .planned (.new .plain ⟨7⟩ .fetchStarted none)⟩,
      ⟨0, none, .planned (.new .plain ⟨7⟩ .precomputeStarted none)⟩,
      ⟨0, none, .planned (.new .plain ⟨9⟩ .fetchStarted none)⟩]⟩
    [.event (.start 0), .event (.step 0), .event (.step 0), .event (.start 1), .event (.step 1),
      .event (.step 1), .event (.start 2)]

theorem updates_unblocked_lineUp :
    ∃ u, standing (lineUp 7) 1 = some (.running u) ∧ WaitsFor (lineUp 7).shared u ⟨7⟩ ∧
      ∃ j v, j ≠ 1 ∧ standing (lineUp 7) j = some (.running v) ∧ v.account = ⟨7⟩ ∧
        (Tracker.machine.step (lineUp 7).now (lineUp 7).shared v).isSome := by
  have hchronicle : Chronicle Tracker.machine SameLines lineUp := chronicle_play _ _ (by simp)
  obtain ⟨log, h⟩ := hchronicle.history 7
  have hnew : Unstarted (fun u => u.phase = .arriving) (standing (lineUp 0)) :=
    unstarted_of_jobs (by simp [lineUp, Update.new])
  obtain ⟨u, hu, t, ht, hline, hfalse⟩ : ∃ u, standing (lineUp 7) 1 = some (.running u) ∧
      ∃ t, u.phase.transaction? = some t ∧ t.owner ∈ (lineUp 7).shared.locks.line ⟨7⟩ ∧
        (lineUp 7).shared.holds t ⟨7⟩ = false :=
    ⟨_, rfl, ⟨1, []⟩, rfl, by decide, by decide⟩
  have hwaits : WaitsFor (lineUp 7).shared u ⟨7⟩ := ⟨t, ht, hline, hfalse⟩
  obtain ⟨ha, j, v, -, hj, hv, haccount, -, -, -, hgoes⟩ :=
    (updates_unblocked h hnew rfl).holder 1 u ⟨7⟩ hu hwaits
  exact ⟨u, hu, hwaits, j, v, hj, hv, haccount.trans ha.symm, hgoes⟩

end Tenancy.Proofs
