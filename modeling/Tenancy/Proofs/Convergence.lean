import Tenancy.Proofs.Deadlines
import Tenancy.Proofs.Evictions
import Tenancy.Proofs.Invalidation

/-!
# Keys that find what was loaded

A request that has looked an account up stores the outcome under each number of its own key and of
the record that was found. Whatever stood in the index before, these entries are the last ones that
were stored, so an index with room for two keeps all of them, and each of these numbers answers the
next request without a lookup.
-/

namespace Tenancy.Proofs

open Function Resolver CacheIndex Table

section Room

variable {K : Type} [DecidableEq K] {t : Table K CacheEntry} {bound : Option Nat} {e : CacheEntry}
  {ks : List K}

lemma put_suffix {js : List K} {k : K}
    (hroom : ∀ max, bound = some max → js.length + 1 ≤ max) (hk : k ∉ js) :
    ∃ t', (put bound (t ++ js.map (·, e)) k e).1 = t' ++ (js ++ [k]).map (·, e) ∧
      ∀ p ∈ t', p ∈ t ∧ p.1 ≠ k := by
  have hinsert : (t ++ js.map (·, e)).insert k e = t.erase k ++ (js ++ [k]).map (·, e) := by
    have hjs : (js.map (·, e)).filter (fun p => p.1 ≠ k) = js.map (·, e) := by
      rw [List.filter_eq_self]
      intro p hp
      obtain ⟨j, hj, rfl⟩ := List.mem_map.mp hp
      simpa using ne_of_mem_of_not_mem hj hk
    rw [Table.insert, Table.erase, List.filter_append, hjs, List.append_assoc, List.map_append]
    rfl
  unfold put
  rw [hinsert]
  cases bound with
  | none => exact ⟨t.erase k, rfl, fun p => mem_erase.mp⟩
  | some max =>
    have hlast : (t.erase k ++ (js ++ [k]).map (·, e)).length - max ≤ (t.erase k).length := by
      have hmax := hroom max rfl
      simp only [List.length_append, List.length_map, List.length_singleton]
      omega
    exact ⟨_, List.drop_append_of_le_length hlast,
      fun p hp => mem_erase.mp (List.mem_of_mem_drop hp)⟩

/-- Entries that are stored under different keys, one after another, stand at the end of a table
that has room for them. -/
lemma putAll_suffix (js : List K)
    (hroom : ∀ max, bound = some max → js.length + ks.length ≤ max)
    (hnew : (js ++ ks).Nodup) (hjs : ∀ p ∈ t, p.1 ∉ js) :
    ∃ t', (putAll bound e ks (t ++ js.map (·, e))).1 = t' ++ (js ++ ks).map (·, e) ∧
      ∀ p ∈ t', p.1 ∉ js ++ ks := by
  induction ks generalizing t js with
  | nil => exact ⟨t, by rw [putAll, List.append_nil], by rwa [List.append_nil]⟩
  | cons k ks ih =>
    have hlen : ∀ max, bound = some max → js.length + (ks.length + 1) ≤ max := by
      intro max hmax
      have hle := hroom max hmax
      rwa [List.length_cons] at hle
    have hfirst : ∀ max, bound = some max → js.length + 1 ≤ max := by
      intro max hmax
      have hle := hlen max hmax
      omega
    have hk : k ∉ js := fun hk => (List.nodup_append.mp hnew).2.2 k hk k List.mem_cons_self rfl
    obtain ⟨t₁, hput, ht₁⟩ := put_suffix (t := t) (e := e) hfirst hk
    have hcons : (putAll bound e (k :: ks) (t ++ js.map (·, e))).1 =
        (putAll bound e ks (t₁ ++ (js ++ [k]).map (·, e))).1 := by
      rw [← hput]
      rfl
    rw [List.append_cons js k ks] at hnew ⊢
    rw [hcons]
    apply ih (js ++ [k]) ?_ hnew
    · intro p hp
      rw [List.mem_append, List.mem_singleton, not_or]
      exact ⟨hjs p (ht₁ p hp).1, (ht₁ p hp).2⟩
    · intro max hmax
      have hle := hlen max hmax
      rw [List.length_append, List.length_singleton]
      omega

lemma get?_putAll_of_room (hroom : ∀ max, bound = some max → ks.length ≤ max) (hks : ks.Nodup)
    {k : K} (hk : k ∈ ks) : get? (putAll bound e ks t).1 k = some e := by
  obtain ⟨t', ht', hnew⟩ := putAll_suffix (t := t) (e := e) [] (by simpa using hroom)
    (by simpa using hks) (by simp)
  rw [List.map_nil, List.append_nil, List.nil_append] at ht'
  have hbefore : get? t' k = none := by
    rw [get?_eq_none]
    intro hmem
    obtain ⟨p, hp, rfl⟩ := List.mem_map.mp hmem
    exact hnew p hp hk
  have hkeys : keys (ks.map (·, e)) = ks := by
    rw [keys, List.map_map]
    exact List.map_id ks
  have hlast : get? (ks.map (·, e)) k = some e :=
    get?_of_mem (hkeys.symm ▸ hks) (List.mem_map_of_mem hk)
  rw [ht', get?_append, hbefore, Option.none_or, hlast]

end Room

lemma nodup_eraseReps_toList {α : Type} [DecidableEq α] (o p : Option α) :
    (o.toList ++ p.toList).eraseReps.Nodup ∧ (o.toList ++ p.toList).eraseReps.length ≤ 2 := by
  cases o with
  | none => cases p <;> simp [List.eraseReps, List.eraseRepsBy, List.eraseRepsBy.loop]
  | some b =>
    cases p with
    | none => simp [List.eraseReps, List.eraseRepsBy, List.eraseRepsBy.loop]
    | some c =>
      by_cases h : b = c
      · simp [List.eraseReps, List.eraseRepsBy, List.eraseRepsBy.loop, h]
      · have hb : (b == c) = false := by simpa using h
        simp [List.eraseReps, List.eraseRepsBy, List.eraseRepsBy.loop, hb, h]

section Index

variable {i : CacheIndex} {k request : InstallationKey} {e : CacheEntry} {bound : Option Nat}

/-- The entry that an index has for a number. -/
def entry? (i : CacheIndex) : Way → Option CacheEntry
  | .account a => i.byAccount.get? a
  | .install p => i.byInstall.get? p

/-- An index with room for two entries has the outcome of a request for each number that it was
stored under. -/
lemma entry?_populate (hroom : ∀ max, bound = some max → 2 ≤ max) {a : Way}
    (ha : a ∈ storedUnder request e.found) :
    entry? (i.populate bound request e).1 a = some e := by
  cases a with
  | account id =>
    obtain ⟨hnodup, hlen⟩ := nodup_eraseReps_toList request.account?
      (e.found.bind fun r => r.key.account?)
    exact get?_putAll_of_room (fun max hmax => hlen.trans (hroom max hmax)) hnodup
      (mem_accountsOf.mpr ha)
  | install p =>
    obtain ⟨hnodup, hlen⟩ := nodup_eraseReps_toList request.installation?
      (e.found.bind fun r => r.key.installation?)
    exact get?_putAll_of_room (fun max hmax => hlen.trans (hroom max hmax)) hnodup
      (mem_installsOf.mpr ha)

lemma probe_of_entries (hk : k.isUsable = true) (he : ∀ a ∈ waysOf k, entry? i a = some e) :
    i.probe k = some e := by
  have haccount : ∀ id, k.account? = some id → i.byAccount.get? id = some e :=
    fun id hid => he _ (account_mem_waysOf.mpr hid)
  have hinstall : ∀ p, k.installation? = some p → i.byInstall.get? p = some e :=
    fun p hp => he _ (install_mem_waysOf.mpr hp)
  unfold CacheIndex.probe
  unfold InstallationKey.isUsable at hk
  cases ha : k.account? with
  | some id => rw [Option.bind_some, haccount id ha, Option.some_or]
  | none =>
    cases hp : k.installation? with
    | some p => rw [Option.bind_none, Option.none_or, Option.bind_some, hinstall p hp]
    | none =>
      rw [ha, hp] at hk
      cases hk

end Index

lemma waysOf_byInstallation {p : InstallPair} (happ : p.app.value ≠ 0)
    (hinstall : p.install.value ≠ 0) :
    waysOf (.byInstallation p.app.value p.install.value) = [.install p] := by
  simp [waysOf, InstallationKey.byInstallation, InstallationKey.account?,
    InstallationKey.installation?, InstallationKey.unset, happ, hinstall]

/-- The keys that name what a request has looked up: the key of the request itself, and each number
of this key and of the record that was found, alone. -/
inductive Names (key : InstallationKey) (found : Option AccountRecord) :
    InstallationKey → Prop where
  | same : Names key found key
  | account {id : AccountId} : .account id ∈ storedUnder key found →
      Names key found (.byAccount id.value)
  | install {p : InstallPair} : .install p ∈ storedUnder key found →
      Names key found (.byInstallation p.app.value p.install.value)

lemma exists_of_mem_storedUnder {key : InstallationKey} {found : Option AccountRecord} {a : Way}
    (h : a ∈ storedUnder key found) : ∃ j, a ∈ waysOf j := by
  rcases mem_storedUnder.mp h with hkey | ⟨r, -, hr⟩
  · exact ⟨key, hkey⟩
  · exact ⟨r.key, hr⟩

lemma Names.stored {key k : InstallationKey} {found : Option AccountRecord}
    (h : Names key found k) (hkey : key.isUsable = true) :
    k.isUsable = true ∧ ∀ a ∈ waysOf k, a ∈ storedUnder key found := by
  have halone : ∀ a, a ∈ storedUnder key found → waysOf k = [a] →
      k.isUsable = true ∧ ∀ b ∈ waysOf k, b ∈ storedUnder key found := by
    intro a ha hways
    rw [hways]
    exact ⟨isUsable_of_mem_waysOf (hways ▸ List.mem_singleton_self a), by simpa using ha⟩
  cases h with
  | same => exact ⟨hkey, fun a ha => mem_storedUnder.mpr (.inl ha)⟩
  | @account id hid =>
    obtain ⟨j, hj⟩ := exists_of_mem_storedUnder hid
    exact halone _ hid (waysOf_byAccount (value_ne_zero_of_account? (account_mem_waysOf.mp hj)))
  | @install p hp =>
    obtain ⟨j, hj⟩ := exists_of_mem_storedUnder hp
    obtain ⟨happ, hinstall⟩ := values_ne_zero_of_installation? (install_mem_waysOf.mp hj)
    exact halone _ hp (waysOf_byInstallation happ hinstall)

lemma span_lt_longest (a b : Instant) : (a - b : Span).nanos < Span.longest.nanos := by
  have hday := a.day_mem
  have hday' := b.day_mem
  have hsecond := a.second_lt
  have hnano := a.nano_lt
  change (Instant.sub a b).nanos < 0x7FFFFFFFFFFFFFFF * 1000000
  unfold Instant.sub
  dsimp only
  split_ifs <;> omega

/-- An age that is less than a duration is less than the span that the duration counts as, because
no two instants lie further apart than the longest span. -/
lemma lt_ofDuration {a b : Instant} {d : Duration} (h : (a - b : Span).nanos < d.nanos) :
    (a - b : Span) < .ofDuration d := by
  unfold Span.ofDuration
  split
  · exact h
  · exact span_lt_longest a b

section Requests

variable {S : Type} [AccountStore S] {config : ResolverConfig} {s : Nat → RequestRun S} {n i : Nat}
  {c : Resolver.Call} {u : CallTurn S} {e : CacheEntry} {flight : Option Nat} {due : Nat}

lemma Requests.isUsable (h : Requests config s) (hn : standing (s n) i = some (.running c))
    (hc : c.phase ≠ .arriving) : c.key.isUsable = true := by
  have horigin : ∀ {m x}, standing (s m) i = some x →
      ∃ c₀, standing (s 0) i = some (.planned c₀) ∧ c₀.phase = .arriving ∧
        (callOf x).key = c₀.key :=
    fun hx => h.chronicle.origin Resolver.Call.key h.fresh
      (fun hu hnext => (framed_turn (hu.does.imp_right And.right)).key _ hnext) hx
  obtain ⟨m, -, c', _, takes, -, hkey, -⟩ := h.misses_of_running hn hc
  obtain ⟨c₀, hc₀, -, hk⟩ := horigin hn
  obtain ⟨c₁, hc₁, -, hk'⟩ := horigin takes.before
  have hsame : c₀ = c₁ := Stand.planned.inj (Option.some.inj (hc₀.symm.trans hc₁))
  rw [show c.key = c'.key from hk.trans (hsame ▸ hk'.symm)]
  exact hkey

lemma RequestTurn.index_of_loading {now : Nat} {w : World S} {r : Resolver}
    (h : RequestTurn now w r c u) (hc : c.phase = .loading flight due)
    (he : e.loadedAt = w.clock.now) (hend : u.next = .ended e.outcome) :
    u.shared.2.index = (r.index.populate r.maxEntries c.key e).1 := by
  obtain ⟨loadedAt, found⟩ := e
  subst he
  cases h with
  | @settle flight _ found' _ _ _ _ =>
    have hfound : found' = found := found_eq_of_outcome (Next.ended.inj hend)
    rw [← hfound]
    cases flight <;> rfl
  | fail _ _ _ hne =>
    cases found with
    | none => exact absurd (Except.error.inj (Next.ended.inj hend)) hne
    | some r => cases Next.ended.inj hend
  | late => cases found <;> cases Next.ended.inj hend
  | receive hp => cases hp.symm.trans hc
  | fallBack hp => cases hp.symm.trans hc
  | refuse hp => cases hp.symm.trans hc
  | hit hp => cases hp.symm.trans hc
  | load hp => cases hp.symm.trans hc
  | join hp => cases hp.symm.trans hc
  | lead hp => cases hp.symm.trans hc

/-- A request that has looked an account up, and found it or not, is followed by one for the same
key, for a number of the key, or for one of the record that was found. That one gets the same
outcome without a lookup: all that it does is to be counted as a hit, as long as the outcome is
trusted and the index has room for two entries. -/
theorem load_converges (h : Requests config s)
    (hroom : ∀ max, config.maxEntries = some max → 2 ≤ max)
    (takes : Takes Resolver.machine (s n) (s (n + 1)) i c u) (hc : c.phase = .loading flight due)
    (he : e.loadedAt = (s n).shared.1.clock.now) (hend : u.next = .ended e.outcome)
    {k : InstallationKey} (hk : Names c.key e.found k) {clock : Clock}
    (hage : (clock.now - e.loadedAt : Span).nanos < config.ttl.nanos) (request : Request)
    (now : Nat) :
    let w : World S := { (s (n + 1)).shared.1 with clock }
    let r := (s (n + 1)).shared.2
    ∃ said, machine.alone now (w, r) (.new request k) =
      some ⟨now, (w, { r with hits := r.hits + 1 }), said, e.outcome⟩ := by
  intro w r
  have hbound : ∀ max, (s n).shared.2.maxEntries = some max → 2 ≤ max := by
    intro max hmax
    rw [(h.settings n).2] at hmax
    obtain ⟨max', hmax', rfl⟩ := Option.map_eq_some_iff.mp hmax
    exact UInt64.le_iff_toNat_le.mp (hroom max' hmax')
  have hindex : r.index =
      ((s n).shared.2.index.populate (s n).shared.2.maxEntries c.key e).1 := by
    have hstored := (requestTurn_of_takes takes).index_of_loading hc he hend
    rwa [← takes.shared] at hstored
  have hkey : c.key.isUsable = true := by
    apply h.isUsable takes.before
    rw [hc]
    simp
  obtain ⟨husable, hstored⟩ := hk.stored hkey
  have hprobe : r.index.probe k = some e := by
    apply probe_of_entries husable
    intro a ha
    rw [hindex]
    exact entry?_populate hbound (hstored a ha)
  have htrust : (w.clock.now - e.loadedAt : Span) < r.ttl := by
    rw [show r.ttl = .ofDuration config.ttl from (h.settings (n + 1)).1]
    exact lt_ofDuration hage
  obtain ⟨left, hfresh⟩ := fresh_of_young hprobe htrust
  exact alone_hit husable hfresh request now

end Requests

/-- Two accounts are looked up that are not there, by a resolver that keeps two entries. Then one of
them is put into the store, and it is looked up by its installation, with the number of a third
account. -/
def arrival : Nat → RequestRun AccountMemory :=
  play Resolver.machine ⟨0, (⟨.empty, ⟨.epoch⟩⟩, .new standardTwo), [],
    [⟨0, none, .planned (.new .plain (.byAccount 5))⟩,
      ⟨0, none, .planned (.new .plain (.byAccount 9))⟩,
      ⟨0, none, .planned (.new .plain strayKey)⟩]⟩
    [.event (.start 0), .event (.step 0), .event (.step 0), .event (.start 1), .event (.step 1),
      .event (.step 1), replaceWith strayRecord, .event (.start 2), .event (.step 2),
      .event (.step 2)]

lemma requests_arrival : Requests standardTwo arrival where
  chronicle := chronicle_play _ _ (by simp)
  new := rfl
  fresh := unstarted_of_jobs (by simp [arrival, Resolver.Call.new])

/-- The account answers to its own number within the last nanosecond, though the index had an entry
by which it does not exist. -/
theorem load_converges_arrival :
    let w : World AccountMemory :=
      { (arrival 10).shared.1 with clock := ⟨Instant.epoch.advance ⟨599999999999⟩⟩ }
    let r := (arrival 10).shared.2
    entry? (arrival 9).shared.2.index (.account ⟨9⟩) = some ⟨.epoch, none⟩ ∧
      ∃ said, machine.alone 0 (w, r) (.new .plain (.byAccount 9)) =
        some ⟨0, (w, { r with hits := r.hits + 1 }), said, .ok strayRecord⟩ := by
  intro w r
  refine ⟨by decide, ?_⟩
  let c : Resolver.Call := ⟨.plain, strayKey, none, .loading (some 2) 0⟩
  have hruns : standing (arrival 9) 2 = some (.running c) := rfl
  have hturn : arrival 10 =
      (arrival 9).turn 2 c (endLoad (arrival 9).shared.1 (arrival 9).shared.2 c (some 2)) := rfl
  have htakes : Takes Resolver.machine (arrival 9) (arrival 10) 2 c _ :=
    ⟨hruns, .inl rfl, rfl, rfl, by rw [hturn, standing_turn hruns]⟩
  have hroom : ∀ max, standardTwo.maxEntries = some max → 2 ≤ max := by
    intro max hmax
    rw [← Option.some.inj hmax]
    decide
  have hown : Names strayKey (some strayRecord) (.byAccount 9) := .account (by decide)
  exact load_converges (e := ⟨.epoch, some strayRecord⟩) requests_arrival hroom htakes rfl rfl rfl
    hown (by decide) .plain 0

end Tenancy.Proofs
