import Tenancy.Proofs.Instants
import Tenancy.Proofs.Provenance

/-!
# Which entries get lost

A table that has too many entries loses those that were stored first. A request stores what it has
just looked up at the time that the entry bears, so entries that requests look up for themselves
stand in the order in which they were loaded. A request that waited for the lookup of another one
stores it again, at the end of the table, when it gets its turn. What was loaded in between then
stands before an entry that is older, and gets lost before it.
-/

namespace Tenancy.Proofs

open Function Resolver CacheIndex Table

section Shed

variable {K : Type} [DecidableEq K] {t : Table K CacheEntry} {bound : Option Nat} {e : CacheEntry}
  {p : K × CacheEntry} {ks : List K}

/-- The entries that get lost while an entry is stored under some keys, one after another. -/
def shed (bound : Option Nat) (e : CacheEntry) : List K → Table K CacheEntry → Table K CacheEntry
  | [], _ => []
  | k :: ks, t => (t.insert k e).take (put bound t k e).2 ++ shed bound e ks (put bound t k e).1

omit [DecidableEq K] in
lemma take_trim (bound : Option Nat) (t : Table K CacheEntry) :
    t.take (trim bound t).2 ++ (trim bound t).1 = t := by
  cases bound with
  | none => rfl
  | some max => exact List.take_append_drop (t.length - max) t

omit [DecidableEq K] in
lemma length_take_trim (bound : Option Nat) (t : Table K CacheEntry) :
    (t.take (trim bound t).2).length = (trim bound t).2 := by
  rw [List.length_take]
  apply Nat.min_eq_left
  cases bound with
  | none => exact Nat.zero_le _
  | some max => exact Nat.sub_le _ _

lemma length_shed (bound : Option Nat) (e : CacheEntry) (ks : List K) (t : Table K CacheEntry) :
    (shed bound e ks t).length = (putAll bound e ks t).2 := by
  induction ks generalizing t with
  | nil => rfl
  | cons k ks ih =>
    have hput : ((t.insert k e).take (put bound t k e).2).length = (put bound t k e).2 :=
      length_take_trim bound _
    rw [shed, List.length_append, hput, ih]
    rfl

lemma mem_insert_of_mem_put {k : K}
    (h : p ∈ (t.insert k e).take (put bound t k e).2 ∨ p ∈ (put bound t k e).1) :
    p ∈ t ∨ p = (k, e) := by
  have hp : p ∈ t.insert k e := by
    rcases h with h | h
    · exact List.mem_of_mem_take h
    · exact mem_of_mem_trim h
  rw [Table.insert, List.mem_append, List.mem_singleton] at hp
  exact hp.imp_left mem_of_mem_erase

lemma mem_of_mem_shed (h : p ∈ shed bound e ks t) : p ∈ t ∨ p.1 ∈ ks ∧ p.2 = e := by
  induction ks generalizing t with
  | nil => cases h
  | cons k ks ih =>
    rw [shed, List.mem_append] at h
    have hfirst : p ∈ (t.insert k e).take (put bound t k e).2 ∨ p ∈ (put bound t k e).1 →
        p ∈ t ∨ p.1 ∈ k :: ks ∧ p.2 = e := by
      intro hp
      rcases mem_insert_of_mem_put hp with hp | rfl
      · exact .inl hp
      · exact .inr ⟨List.mem_cons_self, rfl⟩
    rcases h with h | h
    · exact hfirst (.inl h)
    · rcases ih h with hp | ⟨hk, he⟩
      · exact hfirst (.inr hp)
      · exact .inr ⟨List.mem_cons_of_mem k hk, he⟩

variable {R : K × CacheEntry → K × CacheEntry → Prop}

/-- What gets lost stood before what is left. -/
lemma pairwise_shed (bound : Option Nat) (ht : t.Pairwise R) (hnew : ∀ p ∈ t, ∀ k ∈ ks, R p (k, e))
    (hsame : ∀ j ∈ ks, ∀ k ∈ ks, R (j, e) (k, e)) :
    (shed bound e ks t ++ (putAll bound e ks t).1).Pairwise R := by
  induction ks generalizing t with
  | nil => exact ht
  | cons k ks ih =>
    have hfirst : ((t.insert k e).take (put bound t k e).2 ++ (put bound t k e).1).Pairwise R := by
      have hsplit : (t.insert k e).take (put bound t k e).2 ++ (put bound t k e).1 =
          t.insert k e := take_trim bound _
      rw [hsplit, Table.insert, List.pairwise_append]
      refine ⟨ht.filter _, List.pairwise_singleton R _, ?_⟩
      intro p hp q hq
      rw [List.mem_singleton.mp hq]
      exact hnew p (mem_of_mem_erase hp) k List.mem_cons_self
    have hbefore : ∀ p, p ∈ (t.insert k e).take (put bound t k e).2 ∨ p ∈ (put bound t k e).1 →
        ∀ j ∈ ks, R p (j, e) := by
      intro p hp j hj
      rcases mem_insert_of_mem_put hp with hp | rfl
      · exact hnew p hp j (List.mem_cons_of_mem k hj)
      · exact hsame k List.mem_cons_self j (List.mem_cons_of_mem k hj)
    obtain ⟨hlost, hkept, hacross⟩ := List.pairwise_append.mp hfirst
    have hrest := ih hkept (fun p hp => hbefore p (.inr hp)) fun i hi j hj =>
      hsame i (List.mem_cons_of_mem k hi) j (List.mem_cons_of_mem k hj)
    rw [shed, List.append_assoc]
    refine List.pairwise_append.mpr ⟨hlost, hrest, ?_⟩
    intro p hp q hq
    have hlater : q ∈ (put bound t k e).1 ∨ q.1 ∈ ks ∧ q.2 = e := by
      rcases List.mem_append.mp hq with hq | hq
      · exact mem_of_mem_shed hq
      · exact mem_of_mem_putAll hq
    rcases hlater with hq | ⟨hj, rfl⟩
    · exact hacross p hp q hq
    · exact hbefore p (.inl hp) q.1 hj

end Shed

/-- An entry stands in an index under a number. -/
def Entered (i : CacheIndex) : Way → CacheEntry → Prop
  | .account a, e => (a, e) ∈ i.byAccount
  | .install p, e => (p, e) ∈ i.byInstall

section Order

variable {i : CacheIndex} {request : InstallationKey} {e : CacheEntry} {bound : Option Nat}
  {R Q : Way → CacheEntry → Way → CacheEntry → Prop}

/-- In both tables of an index every entry has a relation to those that were stored after it. -/
structure Ordered (R : Way → CacheEntry → Way → CacheEntry → Prop) (i : CacheIndex) : Prop where
  byAccount : i.byAccount.Pairwise fun p q => R (.account p.1) p.2 (.account q.1) q.2
  byInstall : i.byInstall.Pairwise fun p q => R (.install p.1) p.2 (.install q.1) q.2

lemma ordered_empty : Ordered R CacheIndex.empty :=
  ⟨List.Pairwise.nil, List.Pairwise.nil⟩

lemma Ordered.mono (h : Ordered R i) (hR : ∀ a e b f, R a e b f → Q a e b f) : Ordered Q i :=
  ⟨h.byAccount.imp (hR _ _ _ _), h.byInstall.imp (hR _ _ _ _)⟩

lemma Ordered.eraseKey (h : Ordered R i) (k : InstallationKey) : Ordered R (i.eraseKey k) where
  byAccount := by
    unfold CacheIndex.eraseKey
    split
    · exact h.byAccount.filter _
    · exact h.byAccount
  byInstall := by
    unfold CacheIndex.eraseKey
    simp only
    split
    · exact h.byInstall.filter _
    · exact h.byInstall

lemma Ordered.invalidate (h : Ordered R i) (k : InstallationKey) : Ordered R (i.invalidate k) := by
  unfold CacheIndex.invalidate
  split
  · exact (h.eraseKey k).eraseKey _
  · exact h.eraseKey k

/-- The entries that get lost when the outcome of a request is stored. -/
def lost (bound : Option Nat) (i : CacheIndex) (request : InstallationKey) (e : CacheEntry) :
    CacheIndex where
  byAccount := shed bound e (accountsOf request e) i.byAccount
  byInstall := shed bound e (installsOf request e) i.byInstall

lemma count_lost (bound : Option Nat) (i : CacheIndex) (request : InstallationKey)
    (e : CacheEntry) : (i.populate bound request e).2 =
      (lost bound i request e).byAccount.length + (lost bound i request e).byInstall.length := by
  rw [lost, length_shed, length_shed]
  rfl

/-- The entries of one index have a relation to those of another one in the same table. -/
structure Precedes (R : Way → CacheEntry → Way → CacheEntry → Prop) (i j : CacheIndex) : Prop where
  byAccount : ∀ p ∈ i.byAccount, ∀ q ∈ j.byAccount, R (.account p.1) p.2 (.account q.1) q.2
  byInstall : ∀ p ∈ i.byInstall, ∀ q ∈ j.byInstall, R (.install p.1) p.2 (.install q.1) q.2

/-- Where an entry may be stored behind all others, the order is kept, and what gets lost stood
before what is left. -/
lemma Ordered.populate (h : Ordered R i)
    (hnew : ∀ a f, Entered i a f → ∀ b ∈ storedUnder request e.found, R a f b e)
    (hsame : ∀ a b, R a e b e) :
    Ordered R (i.populate bound request e).1 ∧
      Precedes R (lost bound i request e) (i.populate bound request e).1 := by
  have haccount := List.pairwise_append.mp <| pairwise_shed bound h.byAccount
    (fun p hp a ha => hnew (.account p.1) p.2 hp _ (mem_accountsOf.mp ha))
    fun a _ b _ => hsame (.account a) (.account b)
  have hinstall := List.pairwise_append.mp <| pairwise_shed bound h.byInstall
    (fun p hp a ha => hnew (.install p.1) p.2 hp _ (mem_installsOf.mp ha))
    fun a _ b _ => hsame (.install a) (.install b)
  exact ⟨⟨haccount.2.1, hinstall.2.1⟩, ⟨haccount.2.2, hinstall.2.2⟩⟩

end Order

/-- What the surroundings of requests may do when the clock never goes back. -/
structure Onward {S : Type} (s s' : World S × Resolver) : Prop where
  clock : s.1.clock.now ≤ s'.1.clock.now
  resolver : Meddled s s'

section Ageing

variable {S : Type} [AccountStore S] {config : ResolverConfig} {s : Nat → RequestRun S} {n m i : Nat}

/-- The course of requests to a new resolver, none of which has begun at first, while the clock
never goes back. -/
structure Ageing (config : ResolverConfig) (s : Nat → RequestRun S) : Prop where
  chronicle : Chronicle Resolver.machine Onward s
  new : (s 0).shared.2 = .new config
  fresh : Unstarted (fun c => c.phase = .arriving) (standing (s 0))

lemma Ageing.requests (h : Ageing config s) : Requests config s :=
  ⟨h.chronicle.mono fun _ _ hs => hs.resolver, h.new, h.fresh⟩

lemma Ageing.monotone_clock (h : Ageing config s) :
    Monotone fun n => (s n).shared.1.clock.now := by
  apply monotone_nat_of_le_succ
  intro n
  cases (h.chronicle n).passage with
  | pass _ shared _ => rw [shared]
  | change _ shared _ => exact shared.clock
  | start j c _ _ shared _ => rw [shared]
  | turn j c u takes => rw [takes.shared, (requestTurn_of_takes takes).clock]
  | drop j c _ _ shared _ =>
    rw [shared]
    exact le_rfl

/-- A request that has waited for the lookup of another one stores what that one has found. -/
def Brings (s : Nat → RequestRun S) (m : Nat) (a : Way) (e : CacheEntry) : Prop :=
  ∃ i c u flight due, Takes Resolver.machine (s m) (s (m + 1)) i c u ∧
    c.phase = .joining flight due ∧ Resolver.sight (s m).shared.2 c flight = .value e ∧
    a ∈ storedUnder c.key e.found

/-- An entry was not loaded later than another one, unless a request that had waited brought that
one while the first entry stood in the index. -/
def Elder (s : Nat → RequestRun S) (n : Nat) (a : Way) (e : CacheEntry) (b : Way) (f : CacheEntry) :
    Prop :=
  e.loadedAt ≤ f.loadedAt ∨ ∃ m < n, Brings s m b f ∧ Entered (s m).shared.2.index a e

lemma Elder.succ {a b : Way} {e f : CacheEntry} (h : Elder s n a e b f) :
    Elder s (n + 1) a e b f := by
  apply h.imp_right
  rintro ⟨m, hm, hbrings⟩
  exact ⟨m, Nat.lt_succ_of_lt hm, hbrings⟩

lemma Ageing.loaded (h : Ageing config s) (n : Nat) :
    Described (fun _ e => e.loadedAt ≤ (s n).shared.1.clock.now) (s n).shared.2.index := by
  apply (h.requests.traced n).mono
  rintro a e ⟨m, hm, k, ⟨j, c, u, -, -, hfetch⟩, -⟩
  rw [hfetch.time]
  exact h.monotone_clock hm.le

lemma Ageing.ordered_turn (h : Ageing config s) {c : Resolver.Call} {u : CallTurn S}
    {e : CacheEntry} (hn : Ordered (Elder s n) (s n).shared.2.index)
    (hu : Takes Resolver.machine (s n) (s (n + 1)) i c u)
    (he : Stores (s n).now (s n).shared.1 (s n).shared.2 c u e) :
    Ordered (Elder s (n + 1)) u.shared.2.index ∧
      Precedes (Elder s (n + 1)) (lost (s n).shared.2.maxEntries (s n).shared.2.index c.key e)
        u.shared.2.index := by
  rw [he.index]
  apply (hn.mono fun _ _ _ _ => Elder.succ).populate
  case hsame => exact fun a b => .inl le_rfl
  case hnew =>
    intro a f hf b hb
    rcases he.origin with ⟨flight, due, hc, hv⟩ | hfetch
    · exact .inr ⟨n, Nat.lt_succ_self n, ⟨i, c, u, flight, due, hu, hc, hv, hb⟩, hf⟩
    · have hloaded : f.loadedAt ≤ (s n).shared.1.clock.now := by
        cases a with
        | account id => exact (h.loaded n).byAccount id f hf
        | install p => exact (h.loaded n).byInstall p f hf
      exact .inl (hfetch.time ▸ hloaded)

lemma Ageing.ordered (h : Ageing config s) (n : Nat) :
    Ordered (Elder s n) (s n).shared.2.index := by
  induction n with
  | zero =>
    rw [h.new]
    exact ordered_empty
  | succ n ih =>
    have hold : Ordered (Elder s (n + 1)) (s n).shared.2.index :=
      ih.mono fun _ _ _ _ => Elder.succ
    cases h.requests.indexMoment n with
    | rests index _ => rwa [index]
    | invalidates k resolver =>
      rw [resolver]
      exact hold.invalidate k
    | stores j c u e takes stores =>
      rw [takes.shared]
      exact (h.ordered_turn ih takes stores).1

/-- Nothing gets lost at a moment: the index stays as it is, or a key is invalidated. -/
def Spares (r r' : Resolver) : Prop :=
  r'.evictions = r.evictions ∧ (r'.index = r.index ∨ ∃ k, r'.index = r.index.invalidate k)

/-- Entries get lost only when a request ends and stores its outcome, and then each of them is
counted and none of them was loaded later than an entry that is left in its table, unless that entry
was brought by a request that had waited for it, while the one that gets lost was there. -/
theorem evicted_loaded_first (h : Ageing config s) (n : Nat) :
    Spares (s n).shared.2 (s (n + 1)).shared.2 ∨
      ∃ i c e, standing (s n) i = some (.running c) ∧
        standing (s (n + 1)) i = some (.ended c e.outcome (s n).now) ∧
        let gone := lost (config.maxEntries.map UInt64.toNat) (s n).shared.2.index c.key e
        (s (n + 1)).shared.2.index = ((s n).shared.2.index.populate
          (config.maxEntries.map UInt64.toNat) c.key e).1 ∧
        (s (n + 1)).shared.2.evictions =
          (s n).shared.2.evictions + gone.byAccount.length + gone.byInstall.length ∧
        Precedes (Elder s (n + 1)) gone (s (n + 1)).shared.2.index := by
  cases (h.chronicle n).passage with
  | pass _ shared _ => exact .inl (by rw [shared]; exact ⟨rfl, .inl rfl⟩)
  | start _ _ _ _ shared _ => exact .inl (by rw [shared]; exact ⟨rfl, .inl rfl⟩)
  | drop j c _ _ shared _ =>
    obtain ⟨co, hco⟩ := abandon_eq (s n).shared.2 c
    have hdrop : (s (n + 1)).shared.2 = { (s n).shared.2 with coalescer := co } := by
      rw [shared]
      exact hco
    exact .inl (by rw [hdrop]; exact ⟨rfl, .inl rfl⟩)
  | change _ shared _ =>
    left
    rcases shared.resolver with hs | ⟨k, hs⟩
    · rw [hs]
      exact ⟨rfl, .inl rfl⟩
    · rw [hs]
      exact ⟨rfl, .inr ⟨k, rfl⟩⟩
  | turn j c u takes =>
    have hbound := (h.requests.settings n).2
    rw [takes.shared]
    rcases (requestTurn_of_takes takes).index with ⟨hsame, hcount⟩ | ⟨e, hstores⟩
    · exact .inl ⟨hcount, .inl hsame⟩
    · right
      have hended : standing (s (n + 1)) j = some (.ended c e.outcome (s n).now) := by
        rw [takes.jobs, update_self, hstores.answer]
        rfl
      refine ⟨j, c, e, takes.before, hended, ?_⟩
      simp only
      rw [← hbound, hstores.evictions, count_lost, Nat.add_assoc]
      exact ⟨hstores.index, rfl, (h.ordered_turn (h.ordered n) takes hstores).2⟩

end Ageing

def standardTwo : ResolverConfig :=
  { ResolverConfig.standard with maxEntries := some 2 }

def minuteLater : Instant :=
  Instant.epoch.advance ⟨60000000000⟩

/-- Four requests to a resolver that keeps two entries, and a store without accounts in which a
lookup takes ten milliseconds. Two accounts are looked up, and a minute passes between the answers.
Then the third request, which has waited for the first one, stores its answer again, and the fourth
one looks up another account. -/
def crush : Nat → RequestRun AccountMemory :=
  play Resolver.machine ⟨0, (⟨{ AccountMemory.empty with latency := 10 }, ⟨.epoch⟩⟩,
      .new standardTwo), [],
    [⟨0, none, .planned (.new .plain (.byAccount 7))⟩,
      ⟨0, none, .planned (.new .plain (.byAccount 8))⟩,
      ⟨0, none, .planned (.new .plain (.byAccount 7))⟩,
      ⟨0, none, .planned (.new .plain (.byAccount 9))⟩]⟩
    [.event (.start 0), .event (.step 0), .event (.start 1), .event (.step 1), .event (.start 2),
      .event (.step 2), .pass 10, .event (.step 0),
      .change fun s => ({ s.1 with clock := ⟨max s.1.clock.now minuteLater⟩ }, s.2),
      .event (.step 1), .event (.step 2), .event (.start 3), .event (.step 3), .pass 20,
      .event (.step 3)]

lemma ageing_crush : Ageing standardTwo crush where
  chronicle := chronicle_play _ _ (by simpa using fun w r => ⟨le_max_left _ _, .inl rfl⟩)
  new := rfl
  fresh := unstarted_of_jobs (by simp [crush, Resolver.Call.new])

theorem evicted_loaded_first_crush :
    ∃ m < 15, Brings crush m (.account ⟨7⟩) ⟨.epoch, none⟩ ∧
      Entered (crush m).shared.2.index (.account ⟨8⟩) ⟨minuteLater, none⟩ := by
  have honly : ∀ i c, standing (crush 14) i = some (.running c) → i = 3 ∧ c.key = .byAccount 9 := by
    intro i c hi
    match i with
    | 0 | 1 | 2 => cases hi
    | 3 =>
      cases hi
      exact ⟨rfl, rfl⟩
    | i + 4 => cases hi
  rcases evicted_loaded_first ageing_crush 14 with ⟨hsame, -⟩ | ⟨i, c, e, hi, hend, -, -, hprecedes⟩
  · exact absurd hsame (by decide)
  · obtain ⟨rfl, hkey⟩ := honly i c hi
    obtain ⟨loadedAt, found⟩ := e
    have hnone : found = none := by
      cases found with
      | none => rfl
      | some r => cases hend
    have hgone : (⟨8⟩, ⟨minuteLater, none⟩) ∈ shed (some 2) ⟨loadedAt, none⟩
        (accountsOf (.byAccount 9) ⟨loadedAt, none⟩) (crush 14).shared.2.index.byAccount :=
      List.mem_singleton_self _
    rw [hkey, hnone] at hprecedes
    exact (hprecedes.byAccount _ hgone (⟨7⟩, ⟨.epoch, none⟩) (by decide)).resolve_left (by decide)

/-- An entry may get lost before one that was loaded earlier. -/
theorem not_evicted_loaded_first :
    ¬ ∀ (config : ResolverConfig) (max : UInt64) (s : Nat → RequestRun AccountMemory) (n i : Nat)
      (c : Resolver.Call) (u : CallTurn AccountMemory) (e : CacheEntry),
      config.maxEntries = some max → 1 ≤ max → config.coalesce = true → Ageing config s →
      Takes Resolver.machine (s n) (s (n + 1)) i c u →
      Stores (s n).now (s n).shared.1 (s n).shared.2 c u e →
      Precedes (fun _ e _ f => e.loadedAt ≤ f.loadedAt)
        (lost (some max.toNat) (s n).shared.2.index c.key e) (s (n + 1)).shared.2.index := by
  intro hall
  let c : Resolver.Call := ⟨.plain, .byAccount 9, none, .loading (some 2) 20⟩
  have hruns : standing (crush 14) 3 = some (.running c) := rfl
  have hturn : crush 15 =
      (crush 14).turn 3 c (endLoad (crush 14).shared.1 (crush 14).shared.2 c (some 2)) := rfl
  have htakes : Takes Resolver.machine (crush 14) (crush 15) 3 c _ :=
    ⟨hruns, .inl rfl, rfl, rfl, by rw [hturn, standing_turn hruns]⟩
  have hstores : Stores (crush 14).now (crush 14).shared.1 (crush 14).shared.2 c
      (endLoad (crush 14).shared.1 (crush 14).shared.2 c (some 2)) ⟨minuteLater, none⟩ :=
    ⟨rfl, rfl, rfl, .inr ⟨⟨_, _, rfl, by decide⟩, rfl, rfl⟩⟩
  have hordered :=
    hall standardTwo 2 crush 14 3 c _ _ rfl (by decide) rfl ageing_crush htakes hstores
  have hgone : (⟨8⟩, ⟨minuteLater, none⟩) ∈ (lost (some 2) (crush 14).shared.2.index
      (.byAccount 9) ⟨minuteLater, none⟩).byAccount := List.mem_singleton_self _
  exact absurd (hordered.byAccount _ hgone (⟨7⟩, ⟨.epoch, none⟩) (by decide)) (by decide)

end Tenancy.Proofs
