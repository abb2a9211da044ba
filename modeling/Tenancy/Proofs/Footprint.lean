import Tenancy.Proofs.Accounts
import Tenancy.Proofs.Requests
import Tenancy.Proofs.Sheets
import Tenancy.Proofs.Updates

/-!
# What commands change in a database

Whatever the maps of a database hold, keys and values that nothing can read included, an update
changes at most the value under the key of its account, and only with the turn with which it moves
the account. What it answers and writes depends on that value alone. An account that is put changes
at most what stands under its number and under its installation, and lookups change nothing. All of
this holds of each turn of each command in a run in which anything else may happen.
-/

namespace Tenancy.Proofs

open Function Table Tracker

/-- A key of one of the maps of a directory. -/
abbrev Place := Directory.Family × List UInt8

/-- The value under a key, if there is one. -/
def held (d : Directory) : Place → Option (List UInt8)
  | (.accounts, key) => get? d.accounts key
  | (.installations, key) => get? d.installations key
  | (.progress, key) => get? d.progress key

/-- A directory without some keys. -/
def without (d : Directory) (ks : List Place) : Directory :=
  ks.foldl (fun d k => d.delete k.1 k.2) d

/-- Two databases have the same columns and hold the same, except under some keys. -/
structure SameBut (ks : List Place) (b b' : Database) : Prop where
  schema : b'.schema = b.schema
  directory : without b'.directory ks = without b.directory ks

lemma SameBut.refl (ks : List Place) (b : Database) : SameBut ks b b :=
  ⟨rfl, rfl⟩

lemma held_delete (d : Directory) (k j : Place) :
    held (d.delete k.1 k.2) j = if j = k then none else held d j := by
  obtain ⟨f, key⟩ := k
  obtain ⟨g, key'⟩ := j
  cases f <;> cases g <;> simp [held, Directory.delete, Directory.modify, get?_erase]

lemma held_without {ks : List Place} {k : Place} (hk : k ∉ ks) (d : Directory) :
    held (without d ks) k = held d k := by
  induction ks generalizing d with
  | nil => rfl
  | cons j ks ih =>
    obtain ⟨hj, hks⟩ := not_or.mp (mt List.mem_cons.mpr hk)
    have hrest := ih hks (d.delete j.1 j.2)
    rw [held_delete, if_neg hj] at hrest
    exact hrest

lemma SameBut.held {ks : List Place} {b b' : Database} (h : SameBut ks b b') {k : Place}
    (hk : k ∉ ks) : held b'.directory k = held b.directory k := by
  rw [← held_without hk b'.directory, h.directory, held_without hk]

lemma delete_put (d : Directory) (f : Directory.Family) (key value : List UInt8) :
    (d.put f key value).delete f key = d.delete f key := by
  cases f <;> simp [Directory.put, Directory.delete, Directory.modify, ByteMap.put,
    erase_insertSorted]

/-- What an update finds for an account where there is a value, or none. -/
def rowIn (schema : ProgressSchema) (a : AccountId) : Option (List UInt8) →
    Except Error ProgressRecord
  | some bytes => ProgressRecord.ofRowBytes schema a bytes
  | none => .error .notFound

/-- What an update answers when there is a value under the key of its account, or none, and the
value that it puts there. -/
def amendValue (schema : ProgressSchema) (a : AccountId) (stage : Stage) (i : Instant)
    (value : Option (List UInt8)) : Except Error StatusChange × Option (List UInt8) :=
  let w := amend schema (fun _ => rowIn schema a value) a stage i
  (w.1, w.2.map fun e => e.2.rowBytes schema)

/-- The database with a value under the key of an account, if one is given. -/
def putValue (b : Database) (a : AccountId) : Option (List UInt8) → Database
  | some bytes => b.withDirectory (b.directory.put .progress a.bytes bytes)
  | none => b

/-- The value under the key of an account. -/
def valueOf (b : Database) (a : AccountId) : Option (List UInt8) :=
  held b.directory (.progress, a.bytes)

lemma row_database (b : Database) (a : AccountId) :
    RowStore.row b a = rowIn b.schema a (valueOf b a) := by
  change Database.row b a = _
  unfold Database.row rowIn
  rfl

lemma amend_database (b : Database) (a : AccountId) (stage : Stage) (i : Instant) :
    amend b.schema (RowStore.row b) a stage i =
      amend b.schema (fun _ => rowIn b.schema a (valueOf b a)) a stage i :=
  amend_congr (row_database b a) stage i

lemma commitRow_amend (b : Database) (schema : ProgressSchema) (value : Option (List UInt8))
    (a : AccountId) (stage : Stage) (i : Instant) (hb : b.schema = schema) :
    commitRow b (amend schema (fun _ => rowIn schema a value) a stage i).2 =
      putValue b a (amendValue schema a stage i value).2 := by
  unfold amendValue
  simp only
  cases hw : (amend schema (fun _ => rowIn schema a value) a stage i).2 with
  | none => rfl
  | some e =>
    obtain ⟨a', r⟩ := e
    obtain rfl := amend_account hw
    rw [← hb]
    rfl

section Turns

variable {S : Type} [RowStore S] {l : Ledger S} {u : Update} {now : Nat}

/-- What a turn of an update does to a store that does not fail. -/
inductive RowTurn (l : Ledger S) (u : Update) :
    S → Next Update (Except Error StatusChange) → Prop where
  | arrives {due limit} : u.phase = .arriving →
      RowTurn l u l.store (.running { u with phase := .beginning due limit })
  | begins {due before t limit} : u.phase = .beginning due before → t.pending = [] →
      RowTurn l u l.store (.running { u with phase := .locking t limit })
  | reads {t limit p} : u.phase = .locking t limit →
      Tracker.decide u t (overlay (RowStore.row l.store) t.pending u.account) = .ok p →
      RowTurn l u l.store (.running { u with phase := p })
  | refuses {t limit e} : u.phase = .locking t limit →
      Tracker.decide u t (overlay (RowStore.row l.store) t.pending u.account) = .error e →
      RowTurn l u l.store (.ended (.error e))
  | keeps {t} : u.phase = .keeping t → RowTurn l u l.store (.ended (.ok .unchanged))
  | writes {t c i} (before : Option ProgressRecord) : u.phase = .writing t c →
      i = u.instant.getD l.world.clock.now →
      overlay (RowStore.row l.store) t.pending u.account = before.elim (.error .notFound) .ok →
      RowTurn l u l.store (.running { u with phase := .committing ⟨t.owner,
        t.pending.insert u.account
          (.move (RowStore.schema l.store) u.account before u.stage i)⟩ c i })
  | fails {t c e} : u.phase = .writing t c →
      overlay (RowStore.row l.store) t.pending u.account = .error e → e ≠ .notFound →
      RowTurn l u l.store (.ended (.error e))
  | commits {t c i} : u.phase = .committing t c i →
      RowTurn l u (RowStore.commit l.store t.pending) (.ended (.ok c))
  | expires {limit} : u.request.timeout = some limit →
      RowTurn l u l.store (.ended (.error (.deadlineExceeded limit)))

lemma rowTurn_writing {t : Transaction} {c : StatusChange} (hs : Unfailing l.store)
    (hp : u.phase = .writing t c) :
    RowTurn l u (write l u t c).shared.store (write l u t c).next := by
  unfold Tracker.write Ledger.write
  rw [ledger_aboutToWrite hs.write]
  simp only
  rw [ledger_read hs.read]
  cases hrow : overlay (RowStore.row l.store) t.pending u.account with
  | ok r => exact .writes (some r) hp rfl hrow
  | error e =>
    by_cases he : e = .notFound
    · subst he
      exact .writes none hp rfl hrow
    · cases e with
      | notFound => exact absurd rfl he
      | _ => exact .fails hp hrow he

lemma rowTurn_of_step {v : UpdateTurn S} (hs : Unfailing l.store)
    (h : Tracker.step now l u = some v) : RowTurn l u v.shared.store v.next := by
  unfold Tracker.step at h
  cases hp : u.phase with
  | arriving =>
    rw [hp] at h
    rw [← Option.some.inj h]
    exact .arrives hp
  | beginning due limit =>
    rw [hp] at h
    simp only at h
    split at h
    · cases h
    · rw [← Option.some.inj h]
      exact .begins hp rfl
  | locking t limit =>
    rw [hp] at h
    simp only [ledger_read hs.read] at h
    split at h
    · split at h
      · rename_i p hdecide
        rw [← Option.some.inj h]
        exact .reads hp hdecide
      · rename_i e hdecide
        rw [← Option.some.inj h]
        exact .refuses hp hdecide
    · cases h
  | keeping t =>
    rw [hp] at h
    rw [← Option.some.inj h]
    exact .keeps hp
  | writing t c =>
    rw [hp] at h
    rw [← Option.some.inj h]
    exact rowTurn_writing hs hp
  | committing t c i =>
    rw [hp] at h
    rw [← Option.some.inj h]
    exact .commits hp

lemma rowTurn_of_expire {v : UpdateTurn S} (h : Tracker.expire now l u = some v) :
    RowTurn l u v.shared.store v.next := by
  unfold Tracker.expire at h
  split at h
  · rename_i deadline limit _ ht
    split at h
    · rw [← Option.some.inj h]
      simp only [drop_store]
      exact .expires ht
    · cases h
  · cases h

/-- An update has written at most the row of its account, and only if it moves the account. -/
def Own (u : Update) : Prop :=
  match u.phase with
  | .arriving => True
  | .beginning _ _ => True
  | .locking t _ => t.pending = []
  | .keeping _ => True
  | .writing t c => t.pending = [] ∧ c ≠ .unchanged
  | .committing t c _ => c ≠ .unchanged ∧ ∃ r, t.pending = [(u.account, r)]

lemma own_decide {t : Transaction} {found : Except Error ProgressRecord} {p : Tracker.Phase}
    (ht : t.pending = []) (h : Tracker.decide u t found = .ok p) : Own { u with phase := p } := by
  unfold Tracker.decide at h
  split at h
  · split at h <;> cases h
    · trivial
    · exact ⟨ht, by simp⟩
  · cases h
    exact ⟨ht, by simp⟩
  · cases h

lemma RowTurn.own {s : S} {u' : Update} (h : RowTurn l u s (.running u')) (hu : Own u) :
    Own u' := by
  unfold Own at hu
  cases h with
  | arrives hp => trivial
  | begins hp ht => exact ht
  | reads hp hdecide =>
    rw [hp] at hu
    exact own_decide hu hdecide
  | @writes t c i before hp hi hrow =>
    rw [hp] at hu
    obtain ⟨ht, hc⟩ := hu
    refine ⟨hc, .move (RowStore.schema l.store) u.account before u.stage i, ?_⟩
    simp only [ht]
    rfl

lemma RowTurn.same {s : S} {u' : Update} (h : RowTurn l u s (.running u')) :
    ∃ p, u' = { u with phase := p } := by
  cases h <;> exact ⟨_, rfl⟩

/-- A turn of an update changes nothing but the value under the key of its account, and that only
when it ends because it has moved the account. -/
lemma RowTurn.sameBut {l : Ledger Database} {b : Database}
    {n : Next Update (Except Error StatusChange)} (h : RowTurn l u b n) (hu : Own u) :
    SameBut [(.progress, u.account.bytes)] l.store b ∧
      (b = l.store ∨ ∃ c, c ≠ .unchanged ∧ n = .ended (.ok c)) := by
  cases h with
  | @commits t c i hp =>
    rw [Own, hp] at hu
    obtain ⟨hc, r, ht⟩ := hu
    refine ⟨⟨rfl, ?_⟩, .inr ⟨c, hc, rfl⟩⟩
    rw [ht]
    exact delete_put l.store.directory .progress u.account.bytes (r.rowBytes l.store.schema)
  | _ => exact ⟨.refl _ _, .inl rfl⟩

variable {schema : ProgressSchema} {found : Except Error ProgressRecord} {clock : Instant → Prop}

/-- An update that finds something for its account does what this calls for. Its instant is one that
the clock may have shown. -/
def Recalls (schema : ProgressSchema) (found : Except Error ProgressRecord)
    (clock : Instant → Prop) (u : Update) : Prop :=
  match u.phase with
  | .arriving => True
  | .beginning _ _ => True
  | .locking t _ => t.pending = []
  | .keeping _ =>
    ∀ i, amend schema (fun _ => found) u.account u.stage i = (.ok .unchanged, none)
  | .writing t c => t.pending = [] ∧ ∃ before, found = before.elim (.error .notFound) .ok ∧
      ∀ i, amend schema (fun _ => found) u.account u.stage i =
        (.ok c, some (u.account, .move schema u.account before u.stage i))
  | .committing t c i => ∃ now r, clock now ∧ i = u.instant.getD now ∧
      t.pending = [(u.account, r)] ∧
      amend schema (fun _ => found) u.account u.stage i = (.ok c, some (u.account, r))

lemma Recalls.mono {clock' : Instant → Prop} (h : Recalls schema found clock u)
    (hc : ∀ i, clock i → clock' i) : Recalls schema found clock' u := by
  unfold Recalls at h ⊢
  cases hp : u.phase with
  | committing t c i =>
    rw [hp] at h
    obtain ⟨now, r, hnow, hrest⟩ := h
    exact ⟨now, r, hc now hnow, hrest⟩
  | _ =>
    rw [hp] at h
    exact h

lemma recalls_decide {t : Transaction} {p : Tracker.Phase} (ht : t.pending = [])
    (h : Tracker.decide u t found = .ok p) : Recalls schema found clock { u with phase := p } := by
  unfold Tracker.decide at h
  split at h
  · rename_i r
    split at h
    · rename_i hstage
      cases h
      intro i
      simp only [amend, hstage, if_true]
    · rename_i hstage
      cases h
      refine ⟨ht, some r, rfl, ?_⟩
      intro i
      simp only [amend, hstage, if_false]
  · cases h
    exact ⟨ht, none, rfl, fun i => rfl⟩
  · cases h

lemma amend_refused {t : Transaction} {e : Error} (h : Tracker.decide u t found = .error e)
    (a : AccountId) (stage : Stage) (i : Instant) :
    amend schema (fun _ => found) a stage i = (.error e, none) := by
  unfold Tracker.decide at h
  split at h
  · cases h
  · cases h
  · rename_i e' hne
    cases h
    unfold amend
    split
    · rename_i heq
      cases heq
    · rename_i heq
      exact absurd (Except.error.inj heq) hne
    · rename_i heq
      cases heq
      rfl

lemma RowTurn.recalls {s : S} {u' : Update} (h : RowTurn l u s (.running u'))
    (hschema : RowStore.schema l.store = schema) (hfound : RowStore.row l.store u.account = found)
    (hclock : clock l.world.clock.now) (hu : Recalls schema found clock u) :
    Recalls schema found clock u' := by
  unfold Recalls at hu
  cases h with
  | arrives hp => trivial
  | begins hp ht => exact ht
  | reads hp hdecide =>
    rw [hp] at hu
    rw [hu, overlay_nil, hfound] at hdecide
    exact recalls_decide hu hdecide
  | @writes t c i before hp hi hrow =>
    rw [hp] at hu
    obtain ⟨ht, before', hbefore, hamend⟩ := hu
    rw [ht, overlay_nil, hfound, hbefore] at hrow
    have hsame : before' = before := by
      cases before <;> cases before' <;> cases hrow <;> rfl
    subst hsame
    refine ⟨_, .move (RowStore.schema l.store) u.account before' u.stage i, hclock, hi, ?_, ?_⟩
    · simp only [ht]
      rfl
    · rw [hschema]
      exact hamend i

/-- What comes of an update that finds something for its account: its time limit is over, or it
answers and writes what this calls for. -/
def ComesOf (schema : ProgressSchema) (found : Except Error ProgressRecord)
    (clock : Instant → Prop) (u : Update) (s s' : S) (answer : Except Error StatusChange) : Prop :=
  (∃ limit, u.request.timeout = some limit ∧ answer = .error (.deadlineExceeded limit) ∧ s' = s) ∨
    ∃ now, clock now ∧
      answer = (amend schema (fun _ => found) u.account u.stage (u.instant.getD now)).1 ∧
      s' = commitRow s (amend schema (fun _ => found) u.account u.stage (u.instant.getD now)).2

lemma RowTurn.comesOf {s : S} {answer : Except Error StatusChange}
    (h : RowTurn l u s (.ended answer)) (hfound : RowStore.row l.store u.account = found)
    (hclock : clock l.world.clock.now) (hu : Recalls schema found clock u) :
    ComesOf schema found clock u l.store s answer := by
  unfold Recalls at hu
  cases h with
  | refuses hp hdecide =>
    rw [hp] at hu
    rw [hu, overlay_nil, hfound] at hdecide
    refine .inr ⟨_, hclock, ?_, ?_⟩
    · rw [amend_refused hdecide]
    · rw [amend_refused hdecide]
      rfl
  | keeps hp =>
    rw [hp] at hu
    refine .inr ⟨_, hclock, ?_, ?_⟩
    · rw [hu]
    · rw [hu]
      rfl
  | fails hp hrow hne =>
    rw [hp] at hu
    obtain ⟨ht, before, hbefore, -⟩ := hu
    rw [ht, overlay_nil, hfound, hbefore] at hrow
    cases before with
    | none =>
      cases hrow
      exact absurd rfl hne
    | some r => cases hrow
  | @commits t c i hp =>
    rw [hp] at hu
    obtain ⟨now, r, hnow, hi, ht, hamend⟩ := hu
    rw [hi] at hamend
    refine .inr ⟨now, hnow, ?_, ?_⟩
    · rw [hamend]
    · rw [hamend, ht]
      rfl
  | expires ht => exact .inl ⟨_, ht, rfl, rfl⟩

end Turns

/-- Commands on a database, in which accounts are put among other things. -/
abbrev StoreCommand :=
  Command Database (Except Error Unit)

abbrev StoreRun :=
  Run (Service Database) StoreCommand (Answer (Except Error Unit))

abbrev StoreTurn :=
  Service.CommandTurn Database (Except Error Unit)

/-- The database of a run. -/
def database (r : StoreRun) : Database :=
  r.shared.world.store

/-- A command that has yet to start is not an update that has begun. -/
def Unbegun (k : StoreCommand) : Prop :=
  ∀ u, k = .update u → u.phase = .arriving

/-- Commands that look up accounts and rows. -/
def LooksUp : StoreCommand → Prop
  | .resolve _ => True
  | .fetch _ => True
  | .status _ => True
  | .report => True
  | _ => False

lemma resolve_part : Part (Resolver.machine (S := Database))
    (Service.machine (A := Except Error Unit)) (fun s => (s.world, s.resolver))
    Service.withResolving .resolve (.ofExcept .account) where
  get_put _ _ := rfl
  put_put _ _ _ := rfl
  step _ _ _ := rfl
  expire _ _ _ := rfl
  timers _ := rfl

lemma fetch_part : Part (⟨Resolver.stepFetch, Resolver.expireFetch, fun b _ => b,
      Resolver.timersFetch⟩ : Machine Database Resolver.Fetch _)
    (Service.machine (A := Except Error Unit)) (fun s => s.world.store)
    Service.withStore .fetch (.ofExcept .account) where
  get_put _ _ := rfl
  put_put _ _ _ := rfl
  step _ _ _ := rfl
  expire _ _ _ := rfl
  timers _ := rfl

section Commands

variable {r t : StoreRun} {i : Nat} {k : StoreCommand} {u : Update} {v : StoreTurn}

lemma rowTurn_of_takes (h : Takes Service.machine r t i (.update u) v) :
    ∃ w : UpdateTurn Database, RowTurn r.shared.desk.ledger u (database t) w.next ∧
      v = w.map r.shared.withLedger .update (.ofExcept .change) := by
  obtain ⟨w, hw, rfl⟩ := update_part.takes h
  have hs : Unfailing r.shared.desk.ledger.store := ⟨rfl, rfl⟩
  have ht : database t = w.shared.store := by
    rw [database, h.shared]
    rfl
  rw [ht]
  rcases hw with hw | ⟨-, hw⟩
  · exact ⟨w, rowTurn_of_step hs hw, rfl⟩
  · exact ⟨w, rowTurn_of_expire hw, rfl⟩

lemma update_of_takes (h : Takes Service.machine r t i k v) (hn : v.next = .running (.update u)) :
    ∃ u', k = .update u' := by
  cases k with
  | update u' => exact ⟨u', rfl⟩
  | resolve c =>
    obtain ⟨w, -, rfl⟩ := resolve_part.takes h
    obtain ⟨c', -, hc⟩ := next_of_map_running hn
    cases hc
  | fetch f =>
    obtain ⟨w, -, rfl⟩ := fetch_part.takes h
    obtain ⟨f', -, hf⟩ := next_of_map_running hn
    cases hf
  | transaction c =>
    obtain ⟨w, -, rfl⟩ := transaction_part.takes h
    obtain ⟨c', -, hc⟩ := next_of_map_running hn
    cases hc
  | _ =>
    rcases h.does with hs | ⟨-, he⟩
    · cases hs
      cases hn
    · cases he

lemma RequestTurn.database {now : Nat} {w : World Database} {r : Resolver} {c : Resolver.Call}
    {u : Resolver.CallTurn Database} (h : RequestTurn now w r c u) :
    u.shared.1.store = w.store := by
  cases h <;> rfl

lemma database_of_lookup (hk : LooksUp k) (h : Takes Service.machine r t i k v) :
    database t = database r := by
  rw [database, h.shared]
  cases k with
  | resolve c =>
    obtain ⟨w, hw, rfl⟩ := resolve_part.takes h
    rcases hw with hw | ⟨hn, hw⟩
    · exact (requestTurn_of_step hw).database
    · exact (requestTurn_of_expire hn hw).database
  | fetch f =>
    obtain ⟨w, hw, rfl⟩ := fetch_part.takes h
    have hstore : w.shared = r.shared.world.store := by
      rcases hw with hw | ⟨-, hw⟩
      · change Resolver.stepFetch _ _ _ = _ at hw
        unfold Resolver.stepFetch at hw
        split at hw
        · rw [← Option.some.inj hw]
          rfl
        · split at hw
          · cases hw
          · rw [← Option.some.inj hw]
      · change Resolver.expireFetch _ _ _ = _ at hw
        unfold Resolver.expireFetch at hw
        split at hw
        · split at hw
          · rw [← Option.some.inj hw]
          · cases hw
        · cases hw
    exact hstore
  | status _ | report =>
    rcases h.does with hs | ⟨-, he⟩
    · cases hs
      rfl
    · cases he
  | _ => cases hk

end Commands

/-- An update has yet to read what stands under the key of its account. -/
def Unread (u : Update) : Prop :=
  match u.phase with
  | .arriving => True
  | .beginning _ _ => True
  | .locking _ _ => True
  | _ => False

/-- From one moment to another a database has the same columns and the same value, or none, under
the key of an account. -/
def Stays (s : Nat → StoreRun) (l n : Nat) (schema : ProgressSchema) (a : AccountId)
    (value : Option (List UInt8)) : Prop :=
  ∀ m, l ≤ m → m ≤ n → (database (s m)).schema = schema ∧ valueOf (database (s m)) a = value

/-- An instant that the clock shows from one moment to another. -/
def Shown (s : Nat → StoreRun) (l n : Nat) (i : Instant) : Prop :=
  ∃ m, l ≤ m ∧ m ≤ n ∧ i = (s m).shared.world.clock.now

lemma recalls_of_unread {schema : ProgressSchema} {found : Except Error ProgressRecord}
    {clock : Instant → Prop} {u : Update} (hu : Unread u) (ho : Own u) :
    Recalls schema found clock u := by
  unfold Unread at hu
  unfold Own at ho
  unfold Recalls
  cases hp : u.phase with
  | arriving => trivial
  | beginning due limit => trivial
  | locking t limit =>
    rw [hp] at ho
    exact ho
  | _ =>
    rw [hp] at hu
    exact hu.elim

section Runs

variable {outside : Service Database → Service Database → Prop} {s : Nat → StoreRun} {l n i : Nat}
  {u u' : Update}

lemma rowTurn_of_running {r t : StoreRun} {k : StoreCommand} {v : StoreTurn}
    (h : Takes Service.machine r t i k v) (hn : v.next = .running (.update u)) :
    ∃ u' b, standing r i = some (.running (.update u')) ∧
      RowTurn r.shared.desk.ledger u' b (.running u) := by
  obtain ⟨u', rfl⟩ := update_of_takes h hn
  obtain ⟨w, hw, rfl⟩ := rowTurn_of_takes h
  obtain ⟨u'', hu, hk⟩ := next_of_map_running hn
  cases hk
  rw [hu] at hw
  exact ⟨u', _, h.before, hw⟩

lemma Chronicle.own (h : Chronicle Service.machine outside s)
    (hnew : Unstarted Unbegun (standing (s 0)))
    (hn : standing (s n) i = some (.running (.update u))) : Own u := by
  induction n generalizing u with
  | zero =>
    obtain ⟨k, hk, -⟩ := hnew i _ hn
    cases hk
  | succ n ih =>
    rcases h.running hn with hsame | hplanned | ⟨k, v, takes, hnext⟩
    · exact ih hsame
    · have hp : u.phase = .arriving := h.planned hnew n i _ hplanned u rfl
      rw [Own, hp]
      trivial
    · obtain ⟨u', b, hrunning, hturn⟩ := rowTurn_of_running takes hnext
      exact hturn.own (ih hrunning)

/-- While the value under the key of its account stays, an update that had yet to read it does what
it calls for. -/
lemma Chronicle.recalls {schema : ProgressSchema} {value : Option (List UInt8)}
    (h : Chronicle Service.machine outside s)
    (hl : standing (s l) i = some (.running (.update u'))) (ho : Own u') (hu : Unread u')
    (hln : l ≤ n) (hstays : Stays s l n schema u'.account value)
    (hn : standing (s n) i = some (.running (.update u))) :
    Recalls schema (rowIn schema u'.account value) (Shown s l n) u ∧
      ∃ p, u = { u' with phase := p } := by
  induction n, hln using Nat.le_induction generalizing u with
  | base =>
    obtain rfl : u' = u := by
      rw [hl] at hn
      cases hn
      rfl
    exact ⟨recalls_of_unread hu ho, _, rfl⟩
  | succ n hln ih =>
    have hbefore : Stays s l n schema u'.account value :=
      fun m hlm hmn => hstays m hlm (Nat.le_succ_of_le hmn)
    have hshown : ∀ j, Shown s l n j → Shown s l (n + 1) j := by
      rintro j ⟨m, hlm, hmn, hj⟩
      exact ⟨m, hlm, Nat.le_succ_of_le hmn, hj⟩
    rcases h.still_running hl hln hn with hsame | ⟨k, v, takes, hnext⟩
    · obtain ⟨hrecalls, hp⟩ := ih hbefore hsame
      exact ⟨hrecalls.mono hshown, hp⟩
    · obtain ⟨u₁, b, hrunning, hturn⟩ := rowTurn_of_running takes hnext
      obtain ⟨hrecalls, p, rfl⟩ := ih hbefore hrunning
      obtain ⟨hschema, hvalue⟩ := hbefore n hln (Nat.le_refl n)
      have hfound : RowStore.row (s n).shared.desk.ledger.store u'.account =
          rowIn schema u'.account value := by
        rw [row_database]
        change rowIn (database (s n)).schema _ (valueOf (database (s n)) _) = _
        rw [hschema, hvalue]
      refine ⟨(hturn.recalls hschema hfound ⟨n, hln, Nat.le_refl n, rfl⟩ hrecalls).mono hshown, ?_⟩
      obtain ⟨p', hp'⟩ := hturn.same
      exact ⟨p', hp'⟩

end Runs

/-- When nobody is in line for its row, an update that runs alone ends at once, as the value under
the key of its account calls for. -/
lemma alone_value (x : Service Database) {u : Update} (hu : u.phase = .arriving)
    (hline : x.desk.ledger.locks.line u.account = []) (now : Nat) :
    let w := amendValue x.world.store.schema u.account u.stage
      (u.instant.getD x.world.clock.now) (valueOf x.world.store u.account)
    ∃ said after, Service.machine.alone now x (.update u : StoreCommand) =
        some ⟨now, after, said, .ofExcept .change w.1⟩ ∧
      after.world.store = putValue x.world.store u.account w.2 := by
  intro w
  have hamend := amend_database x.world.store u.account u.stage
    (u.instant.getD x.world.clock.now)
  have hput := commitRow_amend x.world.store _ (valueOf x.world.store u.account) u.account u.stage
    (u.instant.getD x.world.clock.now) rfl
  rw [← hamend] at hput
  have hanswer := congrArg Prod.fst hamend
  change _ = w.1 at hanswer
  rw [← hanswer]
  obtain ⟨said, halone⟩ := alone_update (l := x.desk.ledger) ⟨⟨rfl, rfl⟩, rfl⟩ hline hu now
  exact ⟨said, _, update_part.alone halone, hput⟩

/-- The keys under which an account is put. -/
def placesOf (r : AccountRecord) : List Place :=
  (.accounts, r.accountId.bytes) ::
    (r.key.installation?.map fun p => (Directory.Family.installations, p.bytes)).toList

lemma sameBut_storeAccount (b : Database) (r : AccountRecord) :
    SameBut (placesOf r) b (b.withDirectory (Database.storeAccount b.directory r)) := by
  refine ⟨rfl, ?_⟩
  unfold Database.storeAccount placesOf without Database.withDirectory
  cases r.key.installation? with
  | none => simp [delete_put]
  | some p =>
    simp [Directory.put, Directory.delete, Directory.modify, ByteMap.put, erase_insertSorted]

lemma putAccount_cases (b : Database) (r : AccountRecord) :
    SameBut (placesOf r) b (b.putAccount r).2 ∧
      ∀ e, (b.putAccount r).1 = .error e → (b.putAccount r).2 = b := by
  unfold Database.putAccount
  split
  · refine ⟨sameBut_storeAccount b r, ?_⟩
    intro e he
    cases he
  · exact ⟨.refl _ _, fun _ _ => rfl⟩

lemma notMem_placesOf_account {r : AccountRecord} {a : AccountId} (ha : a ≠ r.accountId) :
    (Directory.Family.accounts, a.bytes) ∉ placesOf r := by
  simp [placesOf, bytes_injective.eq_iff, ha]

lemma notMem_placesOf_installation {r : AccountRecord} {p : InstallPair}
    (hp : r.key.installation? ≠ some p) :
    (Directory.Family.installations, p.bytes) ∉ placesOf r := by
  simp only [placesOf, List.mem_cons, Option.mem_toList, Option.map_eq_some_iff, not_or]
  refine ⟨by simp, ?_⟩
  rintro ⟨q, hq, heq⟩
  rw [Prod.mk.injEq, pairBytes_injective.eq_iff] at heq
  exact hp (heq.2 ▸ hq)

/-- What commands on a database change, and on what the answers to updates depend. -/
structure Confined (s : Nat → StoreRun) : Prop where
  /-- A turn of an update changes at most the value under the key of its account, and that only when
  the update ends because it has moved the account. Other accounts have other keys. -/
  update : ∀ n i u v, Takes Service.machine (s n) (s (n + 1)) i (.update u) v →
    SameBut [(.progress, u.account.bytes)] (database (s n)) (database (s (n + 1))) ∧
      (∀ a, a ≠ u.account → valueOf (database (s (n + 1))) a = valueOf (database (s n)) a) ∧
      (database (s (n + 1)) = database (s n) ∨
        ∃ c, c ≠ .unchanged ∧ v.next = .ended (.change c))
  /-- If the value under the key of its account stays as it was when an update had yet to read it,
  the update ends as this value calls for, unless its time limit is over. -/
  answer : ∀ l n i u u' v b schema value, standing (s l) i = some (.running (.update u)) →
    Unread u → l ≤ n → Stays s l n schema u.account value →
    Takes Service.machine (s n) (s (n + 1)) i (.update u') v → v.next = .ended b →
    (∃ limit, u.request.timeout = some limit ∧ b = .failed (.deadlineExceeded limit) ∧
      database (s (n + 1)) = database (s n)) ∨
    ∃ now, Shown s l n now ∧
      let w := amendValue schema u.account u.stage (u.instant.getD now) value
      b = .ofExcept .change w.1 ∧
        database (s (n + 1)) = putValue (database (s n)) u.account w.2
  /-- When nobody is in line for its row, an update that runs alone ends at once. -/
  alone : ∀ n u, u.phase = .arriving → (s n).shared.desk.ledger.locks.line u.account = [] →
    let w := amendValue (database (s n)).schema u.account u.stage
      (u.instant.getD (s n).shared.world.clock.now) (valueOf (database (s n)) u.account)
    ∃ said after, Service.machine.alone (s n).now (s n).shared (.update u : StoreCommand) =
        some ⟨(s n).now, after, said, .ofExcept .change w.1⟩ ∧
      after.world.store = putValue (database (s n)) u.account w.2
  /-- When an account is put, at most what stands under its number and its installation changes, and
  nothing if it cannot be put. Other accounts and installations have other keys. -/
  put : ∀ n i r v, Takes Service.machine (s n) (s (n + 1)) i (.change fun b => b.putAccount r) v →
    ∃ answer, v.next = .ended (.changed answer) ∧
      SameBut (placesOf r) (database (s n)) (database (s (n + 1))) ∧
      (∀ a, a ≠ r.accountId → held (database (s (n + 1))).directory (.accounts, a.bytes) =
        held (database (s n)).directory (.accounts, a.bytes)) ∧
      (∀ p, r.key.installation? ≠ some p →
        held (database (s (n + 1))).directory (.installations, p.bytes) =
          held (database (s n)).directory (.installations, p.bytes)) ∧
      ∀ e, answer = .error e → database (s (n + 1)) = database (s n)
  /-- Lookups change nothing. -/
  lookup : ∀ n i k v, LooksUp k → Takes Service.machine (s n) (s (n + 1)) i k v →
    database (s (n + 1)) = database (s n)
  /-- What is dropped changes nothing. -/
  dropped : ∀ n i k time, standing (s n) i = some (.running k) →
    standing (s (n + 1)) i = some (.dropped k time) → database (s (n + 1)) = database (s n)

section Runs

variable {outside : Service Database → Service Database → Prop} {s : Nat → StoreRun} {n i : Nat}

lemma Chronicle.update_confined (h : Chronicle Service.machine outside s)
    (hnew : Unstarted Unbegun (standing (s 0))) {u : Update} {v : StoreTurn}
    (hu : Takes Service.machine (s n) (s (n + 1)) i (.update u) v) :
    SameBut [(.progress, u.account.bytes)] (database (s n)) (database (s (n + 1))) ∧
      (database (s (n + 1)) = database (s n) ∨
        ∃ c, c ≠ .unchanged ∧ v.next = .ended (.change c)) := by
  obtain ⟨w, hw, rfl⟩ := rowTurn_of_takes hu
  obtain ⟨hsame, hmoved⟩ := hw.sameBut (h.own hnew hu.before)
  refine ⟨hsame, hmoved.imp_right ?_⟩
  rintro ⟨c, hc, hn⟩
  refine ⟨c, hc, ?_⟩
  rw [Turn.map, hn]
  rfl

lemma Chronicle.answer_comesOf {l : Nat} {schema : ProgressSchema} {value : Option (List UInt8)}
    {u u' : Update} {v : StoreTurn} {b : Answer (Except Error Unit)}
    (h : Chronicle Service.machine outside s) (hnew : Unstarted Unbegun (standing (s 0)))
    (hl : standing (s l) i = some (.running (.update u))) (hu : Unread u) (hln : l ≤ n)
    (hstays : Stays s l n schema u.account value)
    (hu' : Takes Service.machine (s n) (s (n + 1)) i (.update u') v) (hb : v.next = .ended b) :
    ∃ a, b = .ofExcept .change a ∧ ComesOf schema (rowIn schema u.account value) (Shown s l n) u
      (database (s n)) (database (s (n + 1))) a := by
  obtain ⟨hrecalls, p, rfl⟩ := h.recalls hl (h.own hnew hl) hu hln hstays hu'.before
  obtain ⟨w, hw, rfl⟩ := rowTurn_of_takes hu'
  obtain ⟨a, ha, rfl⟩ := next_of_map_ended hb
  obtain ⟨hschema, hvalue⟩ := hstays n hln (Nat.le_refl n)
  rw [ha] at hw
  have hfound : RowStore.row (database (s n)) u.account = rowIn schema u.account value := by
    rw [row_database, hschema, hvalue]
  exact ⟨a, rfl, hw.comesOf hfound ⟨n, hln, Nat.le_refl n, rfl⟩ hrecalls⟩

lemma store_drop (x : Service Database) (k : StoreCommand) :
    (Service.drop x k).world.store = x.world.store := by
  cases k with
  | update u => exact drop_store x.desk.ledger u
  | transaction c =>
    change (Desk.drop x.desk c).ledger.store = x.desk.ledger.store
    unfold Desk.drop
    split <;> rfl
  | _ => rfl

lemma put_of_takes {x y : StoreRun} {r : AccountRecord} {v : StoreTurn}
    (h : Takes Service.machine x y i (.change fun b => b.putAccount r) v) :
    v.next = .ended (.changed ((database x).putAccount r).1) ∧
      database y = ((database x).putAccount r).2 := by
  have hy : database y = v.shared.world.store := by
    rw [database, h.shared]
  rw [hy]
  rcases h.does with hs | ⟨-, he⟩
  · rw [← Option.some.inj hs]
    exact ⟨rfl, rfl⟩
  · cases he

/-- Whatever else happens in a database, which may hold anything at all: its commands change nothing
but what is theirs, and what comes of an update depends on the value under its key alone. -/
theorem commands_confined (h : Chronicle Service.machine outside s)
    (hnew : Unstarted Unbegun (standing (s 0))) : Confined s where
  update n i u v hu := by
    obtain ⟨hsame, hmoved⟩ := h.update_confined hnew hu
    refine ⟨hsame, ?_, hmoved⟩
    intro a ha
    apply hsame.held
    simp [bytes_injective.eq_iff, ha]
  answer l n i u u' v b schema value hl hu hln hstays hu' hb := by
    obtain ⟨a, rfl, hcomes⟩ := h.answer_comesOf hnew hl hu hln hstays hu' hb
    rcases hcomes with ⟨limit, ht, rfl, hstore⟩ | ⟨now, hnow, rfl, hstore⟩
    · exact .inl ⟨limit, ht, rfl, hstore⟩
    · refine .inr ⟨now, hnow, rfl, ?_⟩
      rw [hstore]
      exact commitRow_amend _ _ _ _ _ _ (hstays n hln (Nat.le_refl n)).1
  alone n u hu hline := alone_value (s n).shared hu hline (s n).now
  put n i r v hv := by
    obtain ⟨hsame, hfailed⟩ := putAccount_cases (database (s n)) r
    obtain ⟨hnext, hstore⟩ := put_of_takes hv
    rw [hstore]
    refine ⟨_, hnext, hsame, ?_, ?_, hfailed⟩
    · exact fun a ha => hsame.held (notMem_placesOf_account ha)
    · exact fun p hp => hsame.held (notMem_placesOf_installation hp)
  lookup n i k v hk hv := database_of_lookup hk hv
  dropped n i k time hn hd := by
    rw [database, h.shared_of_dropped hn hd]
    exact store_drop _ k

end Runs

/-- A directory with keys and values that nothing can read. -/
def debris : Directory where
  accounts := [(AccountId.bytes ⟨7⟩, [0x7B]), ([0x07], [])]
  installations := [([], [0x01, 0x02])]
  progress := [(AccountId.bytes ⟨7⟩, [0xFF]), ([0x01], [0x7B, 0x7D])]
  further := []

/-- Two updates, for an account whose value cannot be read and for one that has none, an account
that cannot be put, and a report. -/
def salvage : Nat → StoreRun :=
  play Service.machine ⟨0, .new ⟨debris, .current⟩ .epoch .standard, [],
    [⟨0, none, .planned (.update (.new .plain ⟨7⟩ .fetchStarted none))⟩,
      ⟨0, none, .planned (.update (.new .plain ⟨9⟩ .fetchStarted none))⟩,
      ⟨0, none, .planned (.change fun b => b.putAccount (.new .unset))⟩,
      ⟨0, none, .planned .report⟩]⟩
    [.event (.start 0), .event (.step 0), .event (.step 0), .event (.step 0), .event (.start 1),
      .event (.step 1), .event (.step 1), .event (.step 1), .event (.step 1), .event (.step 1),
      .event (.start 2), .event (.step 2), .event (.start 3), .event (.step 3)]

theorem commands_confined_salvage :
    database (salvage 4) = database (salvage 3) ∧
      SameBut [(.progress, AccountId.bytes ⟨9⟩)] (database (salvage 9)) (database (salvage 10)) ∧
      (∃ now, database (salvage 10) = putValue (database (salvage 9)) ⟨9⟩
        (amendValue .current ⟨9⟩ .fetchStarted now none).2) ∧
      database (salvage 12) = database (salvage 11) ∧
      database (salvage 14) = database (salvage 13) := by
  have hchronicle : Chronicle Service.machine (fun _ _ => False) salvage :=
    chronicle_play _ _ (by simp)
  have hnew : Unstarted Unbegun (standing (salvage 0)) :=
    unstarted_of_jobs (by simp [salvage, Unbegun, Update.new])
  have hconfined : Confined salvage := commands_confined hchronicle hnew
  have htakes : ∀ {n i k}, (salvage n).apply Service.machine (.step i) = some (salvage (n + 1)) →
      standing (salvage n) i = some (.running k) →
      ∃ v, Takes Service.machine (salvage n) (salvage (n + 1)) i k v := takes_of_step
  have hfails : ∃ u e, standing (salvage 3) 0 = some (.running (.update u)) ∧
      standing (salvage 4) 0 = some (.ended (.update u) (.failed e) 0) := ⟨_, _, rfl, rfl⟩
  have hcreates : ∃ u, standing (salvage 9) 1 = some (.running (.update u)) ∧ u.account = ⟨9⟩ ∧
      standing (salvage 10) 1 = some (.ended (.update u) (.change .created) 0) := ⟨_, rfl, rfl, rfl⟩
  have hstays : Stays salvage 5 9 .current ⟨9⟩ none := by
    intro m hm hm'
    interval_cases m <;> exact ⟨rfl, rfl⟩
  have hrefused : standing (salvage 12) 2 = some (.ended _ (.changed (.error _)) 0) := rfl
  obtain ⟨u, e, hu, hend⟩ := hfails
  obtain ⟨w, hw, hwa, hwend⟩ := hcreates
  obtain ⟨v₁, hv₁⟩ := htakes (n := 3) rfl hu
  obtain ⟨v₂, hv₂⟩ := htakes (n := 9) rfl hw
  obtain ⟨v₃, hv₃⟩ := htakes (n := 11) (i := 2) rfl rfl
  obtain ⟨v₄, hv₄⟩ := htakes (n := 13) (i := 3) (k := .report) rfl rfl
  refine ⟨?_, ?_, ?_, ?_, hconfined.lookup 13 3 .report v₄ trivial hv₄⟩
  · obtain ⟨-, -, hsame | ⟨c, -, hc⟩⟩ := hconfined.update 3 0 u v₁ hv₁
    · exact hsame
    · rw [hv₁.next_of_ended hend] at hc
      cases hc
  · rw [← hwa]
    exact (hconfined.update 9 1 w v₂ hv₂).1
  · have hanswer := hconfined.answer 5 9 1 (.new .plain ⟨9⟩ .fetchStarted none) w v₂ _ _ _ rfl
      trivial (by decide) hstays hv₂ (hv₂.next_of_ended hwend)
    rcases hanswer with ⟨limit, ht, -⟩ | ⟨now, -, -, hstore⟩
    · cases ht
    · exact ⟨now, hstore⟩
  · obtain ⟨answer, hanswer, -, -, -, hfailed⟩ := hconfined.put 11 2 _ v₃ hv₃
    rw [hv₃.next_of_ended hrefused] at hanswer
    cases hanswer
    exact hfailed _ rfl

end Tenancy.Proofs
