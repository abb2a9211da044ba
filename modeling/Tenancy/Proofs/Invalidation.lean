import Tenancy.Proofs.Misses

/-!
# Accounts that are replaced and invalidated

A record is put into the store and its account is then invalidated, while requests are on their
way. What is looked up from then on is the record or a later one. A request that joined a flight may
still bring back what was looked up before, because it stores its outcome only when it goes on;
unless there is such a request, no later request for the account gets a record that was replaced.
-/

namespace Tenancy.Proofs

open Function Resolver Coalescer Table

/-- What is done to a store in memory, to its clock and to a resolver while requests are made. -/
inductive Upkeep (s : World AccountMemory × Resolver) : World AccountMemory × Resolver → Prop where
  | insert (r : AccountRecord) : Upkeep s (⟨s.1.store.insert r, s.1.clock⟩, s.2)
  | remove (id : AccountId) : Upkeep s (⟨(s.1.store.remove id).2, s.1.clock⟩, s.2)
  | invalidate (k : InstallationKey) : Upkeep s (s.1, s.2.invalidate k)
  | clock (clock : Clock) : Upkeep s (⟨s.1.store, clock⟩, s.2)
  | fail (failures : List String) : Upkeep s (⟨{ s.1.store with failures }, s.1.clock⟩, s.2)
  | delay (latency : Nat) : Upkeep s (⟨{ s.1.store with latency }, s.1.clock⟩, s.2)

/-- Each record stands under its own number. -/
def Filed (m : AccountMemory) : Prop :=
  ∀ id r, m.accounts.get? id = some r → r.accountId = id

/-- The course of requests to a new resolver over a store in memory, none of which has begun at
first. -/
structure Maintained (config : ResolverConfig) (s : Nat → RequestRun AccountMemory) : Prop where
  chronicle : Chronicle Resolver.machine Upkeep s
  new : (s 0).shared.2 = .new config
  fresh : Unstarted (fun c => c.phase = .arriving) (standing (s 0))
  filed : Filed (s 0).shared.1.store

/-- A record is put into the store at a moment. -/
def Inserts (s : Nat → RequestRun AccountMemory) (n : Nat) (r : AccountRecord) : Prop :=
  (s (n + 1)).shared = (⟨(s n).shared.1.store.insert r, (s n).shared.1.clock⟩, (s n).shared.2)

/-- A key is invalidated at a moment. -/
def Invalidates (s : Nat → RequestRun AccountMemory) (n : Nat) (k : InstallationKey) : Prop :=
  (s (n + 1)).shared = ((s n).shared.1, (s n).shared.2.invalidate k)

/-- What the store held under a number at a moment after `p`, and no later than `n`. -/
def HeldSince (s : Nat → RequestRun AccountMemory) (p n : Nat) (a : AccountId)
    (r : AccountRecord) : Prop :=
  ∃ m, p < m ∧ m ≤ n ∧ (s m).shared.1.store.accounts.get? a = some r

/-- A request that still waits when the account was invalidated was given a record of it already
when the account was replaced. -/
def Stranded (s : Nat → RequestRun AccountMemory) (p q : Nat) (a : AccountId) : Prop :=
  ∃ i c flight due e r, standing (s (q + 1)) i = some (.running c) ∧
    c.phase = .joining flight due ∧
    (flightsOf (s (p + 1)).shared).published.get? flight = some e ∧ e.found = some r ∧
    r.accountId = a

section Store

variable {m : AccountMemory} {id : AccountId} {r : AccountRecord}

lemma filed_empty : Filed .empty := by
  intro id r h
  cases h

lemma get?_accounts_insert (m : AccountMemory) (r : AccountRecord) (id : AccountId) :
    (m.insert r).accounts.get? id = if id = r.accountId then some r else m.accounts.get? id :=
  get?_insert ..

lemma get?_installations_insert (m : AccountMemory) (r : AccountRecord) (p : InstallPair) :
    (m.insert r).installations.get? p =
      if r.key.installation? = some p then some r.accountId else m.installations.get? p := by
  unfold AccountMemory.insert
  cases r.key.installation? with
  | none => simp
  | some q => simp [get?_insert, eq_comm]

lemma get?_accounts_remove (m : AccountMemory) (id a : AccountId) :
    (m.remove id).2.accounts.get? a = if a = id then none else m.accounts.get? a := by
  unfold AccountMemory.remove
  split
  · rename_i hnone
    by_cases ha : a = id
    · rw [if_pos ha, ha, hnone]
    · rw [if_neg ha]
  · exact get?_erase ..

lemma get?_installations_remove (m : AccountMemory) (id : AccountId) (p : InstallPair) :
    (m.remove id).2.installations.get? p =
      if (m.accounts.get? id).bind (·.key.installation?) = some p then none
      else m.installations.get? p := by
  unfold AccountMemory.remove
  split
  · rename_i hnone
    rw [hnone]
    rfl
  · rename_i r hr
    rw [hr, Option.bind_some]
    cases r.key.installation? with
    | none => simp
    | some q => simp [get?_erase, eq_comm]

lemma get?_of_get?_remove {id' : AccountId} (h : (m.remove id).2.accounts.get? id' = some r) :
    m.accounts.get? id' = some r := by
  rw [get?_accounts_remove] at h
  split at h
  · cases h
  · exact h

lemma Filed.insert (h : Filed m) (r : AccountRecord) : Filed (m.insert r) := by
  intro id r' hr
  rw [get?_accounts_insert] at hr
  split at hr
  · rename_i hid
    rw [← Option.some.inj hr, hid]
  · exact h id r' hr

lemma Filed.remove (h : Filed m) (id : AccountId) : Filed (m.remove id).2 :=
  fun id' r hr => h id' r (get?_of_get?_remove hr)

lemma Filed.get?_of_find? (h : Filed m) {k : InstallationKey} (hf : m.find? k = some r) :
    m.accounts.get? r.accountId = some r := by
  have hown : ∀ id, m.accounts.get? id = some r → m.accounts.get? r.accountId = some r := by
    intro id hr
    rwa [h id r hr]
  unfold AccountMemory.find? at hf
  rcases Option.or_eq_some_iff.mp hf with hf | ⟨-, hf⟩
  · obtain ⟨id, -, hr⟩ := Option.bind_eq_some_iff.mp hf
    exact hown id hr
  · obtain ⟨id, -, hr⟩ := Option.bind_eq_some_iff.mp hf
    exact hown id hr

end Store

section Maintained

variable {config : ResolverConfig} {s : Nat → RequestRun AccountMemory} {p q n m : Nat}
  {a : AccountId} {r record : AccountRecord}

lemma Maintained.requests (h : Maintained config s) : Requests config s where
  chronicle := h.chronicle.mono fun _ _ hs => by
    cases hs with
    | invalidate k => exact .inr ⟨k, rfl⟩
    | _ => exact .inl rfl
  new := h.new
  fresh := h.fresh

lemma accounts_turn {w : World AccountMemory} {c : Resolver.Call} {u : CallTurn AccountMemory}
    (h : Framed w c u) : u.shared.1.store.accounts = w.store.accounts := by
  rcases h.store with hs | hs | hs
  · rw [hs]
  · rw [hs]
    rfl
  · rw [hs]
    change (AccountMemory.lookup w.store c.key).2.accounts = _
    unfold AccountMemory.lookup
    split <;> rfl

lemma Maintained.accounts (h : Maintained config s) (n : Nat) :
    (∃ r, Inserts s n r) ∨ ∀ id r, (s (n + 1)).shared.1.store.accounts.get? id = some r →
      (s n).shared.1.store.accounts.get? id = some r := by
  cases (h.chronicle n).passage with
  | pass _ shared _ => exact .inr fun id r hr => shared ▸ hr
  | start _ _ _ _ shared _ => exact .inr fun id r hr => shared ▸ hr
  | drop _ _ _ _ shared _ =>
    rw [shared]
    exact .inr fun id r hr => hr
  | turn i c u takes =>
    have hframed := framed_turn (takes.does.imp_right And.right)
    rw [takes.shared, accounts_turn hframed]
    exact .inr fun id r hr => hr
  | change _ shared _ =>
    unfold Inserts
    generalize (s (n + 1)).shared = t at shared
    cases shared with
    | insert r => exact .inl ⟨r, rfl⟩
    | remove id => exact .inr fun id' r hr => get?_of_get?_remove hr
    | _ => exact .inr fun id r hr => hr

lemma Maintained.filed_at (h : Maintained config s) (n : Nat) : Filed (s n).shared.1.store := by
  induction n with
  | zero => exact h.filed
  | succ n ih =>
    rcases h.accounts n with ⟨r, hr⟩ | hold
    · rw [hr]
      exact ih.insert r
    · exact fun id r hr => ih id r (hold id r hr)

/-- What the store holds under the number of a record after this was put in is the record, or it was
put in later. -/
lemma Maintained.replaced (h : Maintained config s) (hp : Inserts s p r) (hpm : p < m)
    (hm : (s m).shared.1.store.accounts.get? r.accountId = some record) :
    record = r ∨ ∃ l, p < l ∧ l < m ∧ Inserts s l record := by
  induction m, hpm using Nat.le_induction with
  | base =>
    rw [hp, get?_accounts_insert, if_pos rfl] at hm
    exact .inl (Option.some.inj hm).symm
  | succ m hpm ih =>
    have hlater : record = r ∨ (∃ l, p < l ∧ l < m ∧ Inserts s l record) →
        record = r ∨ ∃ l, p < l ∧ l < m + 1 ∧ Inserts s l record := by
      rintro (heq | ⟨l, hpl, hlm, hl⟩)
      · exact .inl heq
      · exact .inr ⟨l, hpl, Nat.lt_succ_of_lt hlm, hl⟩
    rcases h.accounts m with ⟨x, hx⟩ | hold
    · have hput := hm
      rw [hx, get?_accounts_insert] at hput
      split at hput
      · rw [← Option.some.inj hput]
        exact .inr ⟨m, hpm, Nat.lt_succ_self m, hx⟩
      · exact hlater (ih hput)
    · exact hlater (ih (hold _ _ hm))

/-- If an entry stands under a number of an account and has a record of this account, the store held
the record at a moment after `p`. -/
def Renewed (s : Nat → RequestRun AccountMemory) (p n : Nat) (a : AccountId) (way : Way)
    (e : CacheEntry) : Prop :=
  way = .account a → ∀ r, e.found = some r → r.accountId = a → HeldSince s p n a r

lemma described_eraseKey {k : InstallationKey} (hk : k.account? = some a) (i : CacheIndex) :
    Described (fun way _ => way ≠ .account a) (i.eraseKey k) where
  byAccount b e hb := by
    unfold CacheIndex.eraseKey at hb
    rw [hk] at hb
    rintro ⟨⟩
    exact (mem_erase.mp hb).2 rfl
  byInstall := by simp

lemma described_invalidate {k : InstallationKey} (hk : k.account? = some a) (i : CacheIndex) :
    Described (fun way _ => way ≠ .account a) (i.invalidate k) := by
  unfold CacheIndex.invalidate
  split
  · exact (described_eraseKey hk i).eraseKey _
  · exact described_eraseKey hk i

lemma HeldSince.mono (h : HeldSince s p n a r) (hnm : n ≤ m) : HeldSince s p m a r := by
  obtain ⟨l, hpl, hln, hl⟩ := h
  exact ⟨l, hpl, hln.trans hnm, hl⟩

lemma Maintained.heldSince (h : Maintained config s) {k : InstallationKey} {e : CacheEntry}
    (hpn : p < n) (he : AnsweredWith (s n).shared.1 k e) (hr : e.found = some r) :
    HeldSince s p n r.accountId r := by
  rw [found_of_answeredWith he] at hr
  exact ⟨n, hpn, Nat.le_refl n, (h.filed_at n).get?_of_find? hr⟩

/-- A record that a request sees while it waits, after the account was invalidated, was held by the
store after `p`, or the request was stranded with it. -/
lemma Maintained.seen (h : Maintained config s) (hno : ¬ Stranded s p q a) (hpq : p < q)
    (hqn : q < n) {i : Nat} {c : Resolver.Call} {flight due : Nat} {e : CacheEntry}
    (hi : standing (s n) i = some (.running c)) (hc : c.phase = .joining flight due)
    (hv : Resolver.sight (s n).shared.2 c flight = .value e) (hr : e.found = some r)
    (ha : r.accountId = a) : HeldSince s p n a r := by
  obtain ⟨m, hmn, hanswer, hwaits, hthere⟩ := h.requests.received hi hc hv
  by_cases hpm : p < m
  · exact ha ▸ (h.heldSince hpm hanswer hr).mono hmn.le
  · obtain ⟨c', hc', -, hp'⟩ := hwaits (q + 1) (by omega) hqn
    exact absurd ⟨i, c', flight, due, e, r, hc', hp', hthere (p + 1) (by omega) (by omega), hr, ha⟩
      hno

lemma Maintained.renewed (h : Maintained config s) {k : InstallationKey} (hk : k.account? = some a)
    (hpq : p < q) (hq : Invalidates s q k) (hno : ¬ Stranded s p q a) (hqn : q < n) :
    Described (Renewed s p n a) (s n).shared.2.index := by
  induction n, hqn using Nat.le_induction with
  | base =>
    rw [hq]
    exact (described_invalidate hk _).mono fun way e hway ha => absurd ha hway
  | succ n hqn ih =>
    have hold : Described (Renewed s p (n + 1) a) (s n).shared.2.index :=
      ih.mono fun way e he hway r hr ha => (he hway r hr ha).mono (Nat.le_succ n)
    cases h.requests.indexMoment n with
    | rests index _ => rwa [index]
    | invalidates k resolver =>
      rw [resolver]
      exact hold.invalidate k
    | stores i c u e takes stores =>
      rw [takes.shared, stores.index]
      apply hold.populate
      rintro way - - r hr ha
      rcases stores.origin with ⟨flight, due, hc, hv⟩ | hfetch
      · exact (h.seen hno hpq hqn takes.before hc hv hr ha).mono (Nat.le_succ n)
      · exact ha ▸ (h.heldSince (hpq.trans hqn) hfetch.answer hr).mono (Nat.le_succ n)

lemma waysOf_byAccount (ha : a.value ≠ 0) : waysOf (.byAccount a.value) = [.account a] := by
  simp [waysOf, InstallationKey.byAccount, InstallationKey.account?, InstallationKey.installation?,
    InstallationKey.unset, ha]

/-- After a record was put into the store and its account was then invalidated, a request for the
account gets the record or one that was put in later, unless another request was stranded with a
record that was replaced. -/
theorem invalidated_current (h : Maintained config s) (hset : r.accountId.value ≠ 0)
    (hp : Inserts s p r) (hpq : p < q) (hq : Invalidates s q (.byAccount r.accountId.value))
    (hno : ¬ Stranded s p q r.accountId) {i : Nat} {c c' : Resolver.Call} {time : Nat}
    (hi : standing (s (q + 1)) i = some (.planned c)) (hk : c.key = .byAccount r.accountId.value)
    (hn : standing (s n) i = some (.ended c' (.ok record) time))
    (hrecord : record.accountId = r.accountId) :
    record = r ∨ ∃ m, p < m ∧ m < n ∧ Inserts s m record := by
  have hkey : c'.key = .byAccount r.accountId.value := by
    obtain ⟨c₀, hc₀, hk₀⟩ := h.requests.asked hn
    have hfirst := h.chronicle.planned_before hi (Nat.zero_le _)
    rw [hc₀] at hfirst
    cases hfirst
    rw [← hk₀, hk]
  have hways := waysOf_byAccount hset
  have haccount : (InstallationKey.byAccount r.accountId.value).account? = some r.accountId := by
    rw [← account_mem_waysOf, hways]
    exact List.mem_singleton_self _
  have hsince : ∃ m, m < n ∧ HeldSince s p m r.accountId record := by
    obtain ⟨m, hmn, ⟨d, hd, -⟩, hcases⟩ := h.requests.outcome hn (.inl ⟨record, rfl⟩)
    have hqm : q < m := by
      by_contra hle
      have hearly := h.chronicle.planned_before hi (l := m) (by omega)
      rw [hd] at hearly
      cases hearly
    refine ⟨m, hmn, ?_⟩
    rcases hcases with ⟨-, hnot⟩ | ⟨e, left, -, he, hf⟩ | ⟨e, hanswer, he⟩
    · cases hnot
    · obtain ⟨way, hway, hrenewed⟩ :=
        (h.renewed haccount hpq hq hno hqm).probe (probe_of_fresh? hf)
      rw [hkey, hways, List.mem_singleton] at hway
      exact hrenewed hway record (outcome_ok he.symm) hrecord
    · exact hrecord ▸ h.heldSince (hpq.trans hqm) hanswer (outcome_ok he.symm)
  obtain ⟨m, hmn, l, hpl, hlm, hl⟩ := hsince
  rcases h.replaced hp hpl hl with heq | ⟨b, hpb, hbl, hb⟩
  · exact .inl heq
  · exact .inr ⟨b, hpb, hbl.trans (hlm.trans_lt hmn), hb⟩

end Maintained

@[simp]
lemma upkeep_replaceWith (record : AccountRecord) : (replaceWith record).Allowed Upkeep :=
  fun _ => .insert record

@[simp]
lemma upkeep_invalidateKey (k : InstallationKey) : (invalidateKey k).Allowed Upkeep :=
  fun _ => .invalidate k

lemma maintained_errand {ds : List (Deed (World AccountMemory × Resolver))}
    (hds : ∀ d ∈ ds, d.Allowed Upkeep) : Maintained .standard (errand ds) where
  chronicle := chronicle_play _ ds hds
  new := by rw [errand, play_zero]
  fresh := unstarted_errand ds
  filed := by
    rw [errand, play_zero]
    exact filed_empty.insert oldRecord

def latestRecord : AccountRecord :=
  { AccountRecord.new (.byAccount 7) with name := "latest" }

/-- The account is replaced, invalidated and replaced again while one request looks it up and
another one waits for it, and then a third one is made. -/
def overhaulDeeds : List (Deed (World AccountMemory × Resolver)) :=
  [.event (.start 0), .event (.step 0), .event (.start 1), .event (.step 1),
    replaceWith newRecord, invalidateKey (.byAccount 7), replaceWith latestRecord, .pass 10,
    .event (.step 0), .event (.start 2), .event (.step 2)]

theorem invalidated_current_overhaul :
    ∃ m, 4 < m ∧ m < 11 ∧ Inserts (errand overhaulDeeds) m latestRecord := by
  have hmaintained : Maintained .standard (errand overhaulDeeds) :=
    maintained_errand (by simp [overhaulDeeds])
  have hno : ¬ Stranded (errand overhaulDeeds) 4 5 newRecord.accountId := by
    rintro ⟨i, c, flight, due, e, r, -, -, hv, -⟩
    cases hv
  have hend : standing (errand overhaulDeeds 11) 2 =
      some (.ended (.new .plain (.byAccount 7)) (.ok latestRecord) 10) := rfl
  have hlater := invalidated_current hmaintained (r := newRecord) (p := 4) (q := 5)
    (c := .new .plain (.byAccount 7)) (i := 2) (by decide) rfl (by decide) rfl hno rfl rfl hend rfl
  exact hlater.resolve_left (by decide)

/-- A record may be handed out after it was replaced and its account was invalidated. -/
theorem not_invalidated_current :
    ¬ ∀ (config : ResolverConfig) (s : Nat → RequestRun AccountMemory) (p q n i : Nat)
      (r record : AccountRecord) (c c' : Resolver.Call) (time : Nat),
      Maintained config s → r.accountId.value ≠ 0 → Inserts s p r → p < q →
      Invalidates s q (.byAccount r.accountId.value) → standing (s (q + 1)) i = some (.planned c) →
      c.key = .byAccount r.accountId.value →
      standing (s n) i = some (.ended c' (.ok record) time) → record.accountId = r.accountId →
      record = r ∨ ∃ m, p < m ∧ m < n ∧ Inserts s m record := by
  intro hall
  have hmaintained : Maintained .standard handoff :=
    maintained_errand (by simp [handoffDeeds])
  have hend : standing (handoff 11) 2 =
      some (.ended (.new .plain (.byAccount 7)) (.ok oldRecord) 10) := rfl
  have hheld : ∀ m < 11, 6 < m →
      (handoff (m + 1)).shared.1.store.accounts.get? ⟨7⟩ = some newRecord := by decide
  rcases hall .standard handoff 6 7 11 2 newRecord oldRecord _ _ 10 hmaintained (by decide) rfl
    (by decide) rfl rfl rfl hend rfl with heq | ⟨m, hpm, hmn, hm⟩
  · exact absurd heq (by decide)
  · have hput := hheld m hmn hpm
    rw [hm, get?_accounts_insert, if_pos (by decide)] at hput
    exact absurd (Option.some.inj hput) (by decide)

end Tenancy.Proofs
