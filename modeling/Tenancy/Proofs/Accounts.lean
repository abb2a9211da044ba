import Tenancy.Proofs.Agreement
import Tenancy.Proofs.Records

/-!
# Accounts in a database

The document of an account is read back as the account, so a store in memory and a database in which
the same accounts are put give the same answers to every key.
-/

namespace Tenancy.Proofs

open Json Json.Reader Table

lemma reads_key (k : InstallationKey) : Reads InstallationKey.reader k.toJson k := by
  refine reads_record "InstallationKey" ?_
  refine .entry rfl (by decide) (((reads_int64 k.accountId.value).map _).map _) ?_
  refine .entry rfl (by decide) (((reads_int64 k.appId.value).map _).map _) ?_
  refine .entry rfl (by decide) (((reads_int64 k.installId.value).map _).map _) ?_
  exact .done rfl

lemma insertName_greatest {name : String} {names : List String} (h : ∀ n ∈ names, n < name) :
    insertName name names = names ++ [name] := by
  induction names with
  | nil => rfl
  | cons n names ih =>
    have hn : n < name := h n List.mem_cons_self
    have hne : ¬ name = n := by
      rintro rfl
      exact Std.lt_irrefl hn
    rw [insertName, if_neg (Std.not_lt.mpr (Std.le_of_lt hn)), if_neg hne,
      ih fun m hm => h m (List.mem_cons_of_mem _ hm), List.cons_append]

lemma names_foldl_insert (fs : Features) {names : List String}
    (h : (fs.names ++ names).Pairwise (· < ·)) :
    ((names.map Feature.mk).foldl Features.insert fs).names = fs.names ++ names := by
  induction names generalizing fs with
  | nil => exact (List.append_nil _).symm
  | cons n names ih =>
    have hlt : ∀ m ∈ fs.names, m < n := fun m hm =>
      (List.pairwise_append.mp h).2.2 m hm n List.mem_cons_self
    have hinsert : (fs.insert ⟨n⟩).names = fs.names ++ [n] := insertName_greatest hlt
    have hrest := ih (fs.insert ⟨n⟩)
    rw [hinsert, List.append_assoc] at hrest
    exact hrest h

lemma ofList_toList (fs : Features) : Features.ofList fs.toList = fs := by
  have hnames : (Features.ofList fs.toList).names = fs.names :=
    names_foldl_insert Features.empty fs.ascending
  obtain ⟨names, hascending⟩ := fs
  revert hnames
  generalize Features.ofList _ = gs
  rintro rfl
  rfl

lemma reads_features (fs : Features) : Reads Features.reader fs.toJson fs := by
  let es : List (Value × Feature) := fs.toList.map fun f => (f.toJson, f)
  have hes : ∀ e ∈ es, Solid e.1 ∧ Reads Feature.reader e.1 e.2 := by
    intro e he
    obtain ⟨f, -, rfl⟩ := List.mem_map.mp he
    exact ⟨solid_text f.name, (reads_text f.name).map _⟩
  have hvalues : es.map Prod.fst = fs.toList.map Feature.toJson := List.map_map
  have hfeatures : es.map Prod.snd = fs.toList := by
    rw [List.map_map]
    exact List.map_id _
  have hlist := (reads_list hes).map Features.ofList
  rw [hvalues, hfeatures, ofList_toList] at hlist
  exact hlist

lemma reads_account (r : AccountRecord) : Reads AccountRecord.reader r.toJson r := by
  refine reads_record "AccountRecord" ?_
  refine .entry rfl (by decide) ((reads_key r.key).map _) ?_
  refine .entry rfl (by decide) (((reads_int64 r.fetchWith.value).map _).map _) ?_
  refine .entry rfl (by decide) ((reads_text r.url).map _) ?_
  refine .entry rfl (by decide) ((reads_text r.name).map _) ?_
  refine .entry rfl (by decide) ((reads_text r.endpoint).map _) ?_
  refine .entry rfl (by decide) ((reads_flag r.active).map _) ?_
  refine .entry rfl (by decide) ((reads_flag r.suspended).map _) ?_
  refine .entry rfl (by decide) ((reads_features r.features).map _) ?_
  exact .done rfl

/-- The document of an account is read back as the account. -/
theorem document_account (r : AccountRecord) :
    AccountRecord.reader.document r.toJson.toBytes = .ok r :=
  (reads_account r).document

lemma pairBytes_injective : Function.Injective InstallPair.bytes := by
  intro p q h
  have hlength : (Text.wordBytes p.app.value).length = (Text.wordBytes q.app.value).length := by
    rw [Text.wordBytes, Text.wordBytes, Text.length_bytesBE, Text.length_bytesBE]
  obtain ⟨happ, hinstall⟩ := List.append_inj h hlength
  obtain ⟨⟨m⟩, ⟨n⟩⟩ := p
  obtain ⟨⟨m'⟩, ⟨n'⟩⟩ := q
  obtain rfl : m = m' := wordBytes_injective happ
  obtain rfl : n = n' := wordBytes_injective hinstall
  rfl

/-- A directory holds the accounts and the installations that a store in memory holds, and the
store is neither slow nor told to fail. -/
structure Mirrors (m : AccountMemory) (d : Directory) : Prop where
  accounts : ∀ a, get? d.accounts (AccountId.bytes a) =
    (get? m.accounts a).map fun r => r.toJson.toBytes
  installations : ∀ p, get? d.installations (InstallPair.bytes p) =
    (get? m.installations p).map AccountId.bytes
  further : d.further = []
  swift : m.latency = 0
  sound : m.failures = []

variable {m : AccountMemory} {d : Directory} {b : Database}

lemma mirrors_empty : Mirrors .empty .empty :=
  ⟨fun _ => rfl, fun _ => rfl, rfl, rfl, rfl⟩

lemma get?_put {m : ByteMap} {J V : Type} [DecidableEq J] {f : J → List UInt8}
    (hf : Function.Injective f) {t : Table J V} {g : V → List UInt8}
    (h : ∀ j, get? m (f j) = (get? t j).map g) (k : J) (v : V) (j : J) :
    get? (m.put (f k) (g v)) (f j) = (get? (Table.insert t k v) j).map g := by
  rw [ByteMap.put, get?_insertSorted, get?_insert, h]
  by_cases hj : j = k
  · rw [if_pos hj, if_pos (congrArg f hj), Option.map_some]
  · rw [if_neg hj, if_neg (hf.ne hj)]

lemma Mirrors.insert (h : Mirrors m d) (r : AccountRecord) :
    Mirrors (m.insert r) (Database.storeAccount d r) := by
  have haccounts := get?_put bytes_injective h.accounts r.accountId r
  unfold Database.storeAccount AccountMemory.insert
  cases r.key.installation? with
  | none => exact ⟨haccounts, h.installations, h.further, h.swift, h.sound⟩
  | some p =>
    exact ⟨haccounts, get?_put pairBytes_injective h.installations p r.accountId, h.further,
      h.swift, h.sound⟩

lemma Mirrors.account? (h : Mirrors m b.directory) (a : AccountId) :
    b.account? a = .ok (get? m.accounts a) := by
  rw [Database.account?, h.accounts]
  cases get? m.accounts a with
  | none => rfl
  | some r =>
    simp only [Option.map_some, document_account]
    rfl

lemma Mirrors.installed? (h : Mirrors m b.directory) (k : InstallationKey) (p : InstallPair) :
    b.installed? k p = .ok (get? m.installations p) := by
  rw [Database.installed?, h.installations]
  cases get? m.installations p with
  | none => rfl
  | some a => simp only [Option.map_some, ofBytes?_bytes]

lemma Mirrors.byInstallation (h : Mirrors m b.directory) (k : InstallationKey) :
    b.byInstallation k = .ok ((k.installation?.bind (get? m.installations)).bind
      (get? m.accounts)) := by
  unfold Database.byInstallation
  cases k.installation? with
  | none => rfl
  | some p =>
    simp only [h.installed?, Option.bind_some]
    cases get? m.installations p with
    | none => rfl
    | some a => exact h.account? a

/-- Both stores give the same answer to a key. -/
theorem Mirrors.answer (h : Mirrors m b.directory) (k : InstallationKey) :
    b.answer k = m.answer k := by
  have hnumber : b.byAccount k = .ok (k.account?.bind (get? m.accounts)) := by
    unfold Database.byAccount
    cases k.account? with
    | none => rfl
    | some a => exact h.account? a
  unfold Database.answer AccountMemory.answer AccountMemory.find?
  rw [hnumber, h.byInstallation]
  cases k.validate with
  | error e => rfl
  | ok =>
    cases k.account?.bind (get? m.accounts) with
    | some r => rfl
    | none =>
      cases (k.installation?.bind (get? m.installations)).bind (get? m.accounts) with
      | none => rfl
      | some r => rfl

/-- What is done with a store of accounts. -/
inductive Handling where
  | put (r : AccountRecord)
  | look (request : Request) (k : InstallationKey)
  /-- A database is closed and opened with columns; a store in memory stays as it is. -/
  | reopen (schema : ProgressSchema)

/-- What an operation on accounts may be answered. -/
inductive Answered : Handling → Answer (Except Error Unit) → Prop
  | put (r : AccountRecord) : Answered (.put r) (.changed (.ok ()))
  | found {k : InstallationKey} (hk : k.isUsable = true) (request : Request) (r : AccountRecord) :
      Answered (.look request k) (.account r)
  | missing {k : InstallationKey} (hk : k.isUsable = true) (request : Request) :
      Answered (.look request k) (.failed .notFound)
  | refused {k : InstallationKey} (hk : k.isUsable = false) (request : Request) :
      Answered (.look request k) (.failed (.invalidKey (.unusable k)))
  | reopen (schema : ProgressSchema) : Answered (.reopen schema) (.changed (.ok ()))

/-- The answer to a command that is put to a service on which nothing else runs, and the service
after it. -/
def askAlone {S A : Type} [AccountStore S] [RowStore S] (now : Nat) (s : Service S)
    (c : Command S A) : Option (Answer A × Service S) :=
  (Service.machine.alone now s c).map fun f => (f.result, f.shared)

/-- The same on the database of a session, which must be open. -/
def askSession {A : Type} (now : Nat) (y : Session) (c : Command Database A) :
    Option (Answer A × Session) :=
  y.service.bind fun s => (askAlone now s c).map fun r => (r.1, { y with service := some r.2 })

namespace Handling

/-- An operation, with the instant at which it comes, on a service with a store in memory. -/
def inMemory (s : Service Memory) (e : Nat × Handling) :
    Option (Answer (Except Error Unit) × Service Memory) :=
  match e.2 with
  | .put r => askAlone e.1 s (.change fun m => (.ok (), m.mapAccounts (·.insert r)))
  | .look request k => askAlone e.1 s (.fetch ⟨request, k, none⟩)
  | .reopen _ => some (.changed (.ok ()), s)

/-- An operation on a session with a database. -/
def inSession (y : Session) (e : Nat × Handling) :
    Option (Answer (Except Error Unit) × Session) :=
  match e.2 with
  | .put r => askSession e.1 y (.change fun b => b.putAccount r)
  | .look request k => askSession e.1 y (.fetch ⟨request, k, none⟩)
  | .reopen schema =>
    let (answer, y) := y.reopen schema
    some (.changed answer, y)

end Handling

section Services

variable {S A : Type} [AccountStore S] [RowStore S]

lemma askAlone_change (now : Nat) (s : Service S) (f : S → A × S) :
    askAlone now s (.change f) =
      some (.changed (f s.world.store).1, s.withStore (f s.world.store).2) :=
  rfl

/-- A store that is not slow answers at once, whatever the time limit. -/
lemma askAlone_fetch {s : Service S}
    (hs : AccountStore.latency (AccountStore.begin s.world.store) = 0) (request : Request)
    (k : InstallationKey) (now : Nat) :
    askAlone (A := A) now s (.fetch ⟨request, k, none⟩) =
      some (.ofExcept .account (AccountStore.lookup (AccountStore.begin s.world.store) k).1,
        s.withStore (AccountStore.lookup (AccountStore.begin s.world.store) k).2) := by
  have hbegin : Service.step (A := A) now s (.fetch ⟨request, k, none⟩) =
      some ⟨s.withStore (AccountStore.begin s.world.store), [], .running (.fetch ⟨request, k,
        some (request.timeout.map fun t => now + Request.limitMillis t, now)⟩)⟩ := by
    simp only [Service.step, Resolver.stepFetch, hs]
    rfl
  have hend : ∀ deadline, Service.step (A := A) now
      (s.withStore (AccountStore.begin s.world.store))
      (.fetch ⟨request, k, some (deadline, now)⟩) =
      some ⟨s.withStore (AccountStore.lookup (AccountStore.begin s.world.store) k).2, [],
        .ended (.ofExcept .account
          (AccountStore.lookup (AccountStore.begin s.world.store) k).1)⟩ := by
    intro deadline
    simp only [Service.step, Resolver.stepFetch, Nat.lt_irrefl, if_false]
    rfl
  unfold askAlone Machine.alone
  rw [aloneFrom_running hbegin, aloneFrom_ended (hend _), Option.map_some]

end Services

lemma askSession_of_open {A : Type} {y : Session} {s s' : Service Database}
    (hs : y.service = some s) {now : Nat} {c : Command Database A} {answer : Answer A}
    (h : askAlone now s c = some (answer, s')) :
    askSession now y c = some (answer, { y with service := some s' }) := by
  rw [askSession, hs, Option.bind_some, h, Option.map_some]

variable {s : Service Memory} {y : Session}

/-- The database of a session is open and mirrors a store in memory. -/
def Stands (m : AccountMemory) (y : Session) : Prop :=
  ∃ s, y.service = some s ∧ Mirrors m s.world.store.directory

lemma answered_look (request : Request) (k : InstallationKey) :
    Answered (.look request k) (.ofExcept .account (m.answer k)) := by
  unfold AccountMemory.answer
  by_cases hk : k.isUsable = true
  · have hvalid : k.validate = .ok () := if_pos hk
    rw [hvalid]
    cases m.find? k with
    | none => exact .missing hk request
    | some r => exact .found hk request r
  · have hinvalid : k.validate = .error (.invalidKey (.unusable k)) := if_neg hk
    rw [hinvalid]
    exact .refused (Bool.eq_false_iff.mpr hk) request

lemma lookup_memory {m : Memory} (h : m.accounts.failures = []) (k : InstallationKey) :
    AccountStore.lookup (AccountStore.begin m) k = (m.accounts.answer k, AccountStore.begin m) := by
  have hlookup : (AccountStore.begin m.accounts).lookup k =
      (m.accounts.answer k, AccountStore.begin m.accounts) := by
    unfold AccountMemory.lookup
    rw [show (AccountStore.begin m.accounts).failures = [] from h]
    rfl
  change (((AccountStore.begin m.accounts).lookup k).1,
    { AccountStore.begin m with accounts := ((AccountStore.begin m.accounts).lookup k).2 }) = _
  rw [hlookup]
  rfl

/-- One operation is answered alike and leaves the database a mirror of the store in memory. -/
theorem Stands.handle (h : Stands s.world.store.accounts y) {op : Handling}
    (hop : ∀ r, op = .put r → r.key.isUsable = true) (now : Nat) :
    ∃ answer s' y', Handling.inMemory s (now, op) = some (answer, s') ∧
      Handling.inSession y (now, op) = some (answer, y') ∧ Answered op answer ∧
      Stands s'.world.store.accounts y' := by
  obtain ⟨t, ht, hm⟩ := h
  cases op with
  | put r =>
    have hput : t.world.store.putAccount r = (.ok (), t.world.store.withDirectory
        (Database.storeAccount t.world.store.directory r)) := by
      rw [Database.putAccount, InstallationKey.validate, if_pos (hop r rfl)]
    have hdatabase := askAlone_change now t fun b => b.putAccount r
    rw [hput] at hdatabase
    exact ⟨_, _, _, askAlone_change now s _, askSession_of_open ht hdatabase, .put r, _, rfl,
      hm.insert r⟩
  | look request k =>
    have hmemory := askAlone_fetch (A := Except Error Unit) (s := s) hm.swift request k now
    rw [lookup_memory hm.sound] at hmemory
    have hdatabase := askAlone_fetch (A := Except Error Unit) (s := t) rfl request k now
    rw [show AccountStore.lookup (AccountStore.begin t.world.store) k =
      (t.world.store.answer k, t.world.store) from rfl, hm.answer] at hdatabase
    exact ⟨_, _, _, hmemory, askSession_of_open ht hdatabase, answered_look request k, _, rfl,
      ⟨hm.accounts, hm.installations, hm.further, hm.swift, hm.sound⟩⟩
  | reopen schema =>
    rw [Handling.inMemory, Handling.inSession]
    simp only [reopen_open ht hm.further]
    exact ⟨_, _, _, rfl, rfl, .reopen schema, _, rfl, hm⟩

theorem agree_of_stands (h : Stands s.world.store.accounts y) {ops : List (Nat × Handling)}
    (hops : ∀ r, .put r ∈ ops.map Prod.snd → r.key.isUsable = true) :
    ∃ answers, replies Handling.inMemory s ops = some answers ∧
      replies Handling.inSession y ops = some answers ∧
      List.Forall₂ Answered (ops.map Prod.snd) answers := by
  induction ops generalizing s y with
  | nil => exact ⟨[], rfl, rfl, .nil⟩
  | cons e ops ih =>
    obtain ⟨now, op⟩ := e
    have hop : ∀ r, op = .put r → r.key.isUsable = true :=
      fun r hr => hops r (List.mem_cons.mpr (.inl hr.symm))
    obtain ⟨answer, s', y', hmemory, hsession, hanswer, h'⟩ := h.handle hop now
    obtain ⟨answers, hm, hd, hanswers⟩ := ih h' fun r hr => hops r (List.mem_cons_of_mem _ hr)
    refine ⟨answer :: answers, ?_, ?_, .cons hanswer hanswers⟩
    · rw [replies, hmemory, Option.bind_some, hm]
      rfl
    · rw [replies, hsession, Option.bind_some, hd]
      rfl

/-- A store in memory that is not told to fail and a database that is empty at first give the same
answers to every key, whatever accounts with usable keys are put in both and however often the
database is closed and opened in between: every account is put, and a key finds an account, or
nothing, or is refused because neither way to know an account is set. -/
theorem accounts_agree (schema : ProgressSchema) (start : Instant) {ops : List (Nat × Handling)}
    (hops : ∀ r, .put r ∈ ops.map Prod.snd → r.key.isUsable = true) :
    ∃ answers,
      replies Handling.inMemory (.new (.empty schema) start .standard) ops = some answers ∧
        replies Handling.inSession (Session.new schema start).openClosed.2 ops = some answers ∧
        List.Forall₂ Answered (ops.map Prod.snd) answers := by
  have hfirst : Stands .empty (Session.new schema start).openClosed.2 :=
    ⟨.new ⟨.empty, schema⟩ start .standard, rfl, mirrors_empty⟩
  exact agree_of_stands (s := .new (.empty schema) start .standard) hfirst hops

/-- An account without a number. -/
def unnumbered : AccountRecord :=
  { AccountRecord.new (.byInstallation 7 (-9223372036854775808)) with
    name := "a \"name\"\n\u0001 of 4 ¢ 𝄞", features := .ofList [.noStatus, .enterprise] }

/-- An account that is known in both ways; one of them is that of the account without a number. -/
def renumbered : AccountRecord :=
  { unnumbered with
    key := ⟨⟨-1⟩, ⟨7⟩, ⟨-9223372036854775808⟩⟩, fetchWith := ⟨5⟩, suspended := true }

/-- An account is put without a number, and then with one in its place; keys are looked for between
and behind, and after the database was opened again. -/
def removals : List (Nat × Handling) :=
  [.put unnumbered, .look .plain (.byInstallation 7 (-9223372036854775808)),
    .look .plain (.byAccount (-1)), .put renumbered,
    .look .plain (.byInstallation 7 (-9223372036854775808)), .reopen .current,
    .look .plain (.byAccount (-1)), .look .plain .unset].zipIdx.map Prod.swap

theorem accounts_agree_removals :
    (∀ r, .put r ∈ removals.map Prod.snd → r.key.isUsable = true) ∧
      replies Handling.inSession (Session.new .current .epoch).openClosed.2 removals =
        some [.changed (.ok ()), .account unnumbered, .failed .notFound, .changed (.ok ()),
          .account renumbered, .changed (.ok ()), .account renumbered,
          .failed (.invalidKey (.unusable .unset))] := by
  have husable : ∀ r, .put r ∈ removals.map Prod.snd → r.key.isUsable = true := by
    intro r hr
    simp only [removals, List.zipIdx_cons, List.zipIdx_nil, List.map_cons, Prod.swap_prod_mk,
      List.map_nil, List.mem_cons, Handling.put.injEq, reduceCtorEq, List.not_mem_nil, or_false,
      false_or] at hr
    rcases hr with rfl | rfl <;> rfl
  obtain ⟨answers, hmemory, hsession, -⟩ := accounts_agree .current .epoch husable
  refine ⟨husable, ?_⟩
  rw [hsession, ← hmemory]
  rfl

end Tenancy.Proofs
