import Tenancy.Proofs.Recording

/-!
# Events that are delivered again

A stream of events with instants of their own is recorded by updates that run one after another.
When the whole stream is delivered again, accounts are moved back to where they were before and
instants are overwritten, and yet the rows end up as they were after the first time: the last run
of visits of a stage begins in the second delivery where it began in the first one.
-/

namespace Tenancy.Proofs

open Function Table

section Runs

variable {α : Type} {p : α → Bool} {xs ys : List α}

lemma rtakeWhile_append_of_all (h : ∀ y ∈ ys, p y) :
    (xs ++ ys).rtakeWhile p = xs.rtakeWhile p ++ ys := by
  unfold List.rtakeWhile
  rw [List.reverse_append, List.takeWhile_append_of_pos (by simpa using h), List.reverse_append,
    List.reverse_reverse]

lemma rtakeWhile_append_of_not_all (h : ¬ ∀ y ∈ ys, p y) :
    (xs ++ ys).rtakeWhile p = ys.rtakeWhile p := by
  have hshort : (ys.reverse.takeWhile p).length ≠ ys.reverse.length := by
    intro hlength
    refine h fun y hy => ?_
    have hall := (List.takeWhile_sublist (l := ys.reverse) p).eq_of_length hlength
    exact List.takeWhile_eq_self_iff.mp hall y (List.mem_reverse.mpr hy)
  unfold List.rtakeWhile
  rw [List.reverse_append, List.takeWhile_append, if_neg hshort]

end Runs

variable {schema : ProgressSchema} {a : AccountId} {s : Stage} {v : StageVisit}
  {vs xs ys : List StageVisit}

lemma lastRun_split (hys : ∀ w ∈ ys, w.stage ≠ v.stage) :
    lastRun v.stage (xs ++ v :: ys) = (xs.rtakeWhile fun w => w.stage = v.stage) ++ [v] := by
  induction ys using List.reverseRecOn with
  | nil => exact lastRun_concat_self xs v
  | append_singleton ys w ih =>
    have hlast : w.stage ≠ v.stage := hys w (by simp)
    rw [← List.cons_append, ← List.append_assoc, lastRun_concat_of_ne hlast]
    exact ih fun u hu => hys u (List.mem_append_left _ hu)

lemma lastRun_of_unvisited (h : ∀ w ∈ vs, w.stage ≠ s) : lastRun s vs = [] := by
  unfold lastRun
  rw [List.rdropWhile_eq_nil_iff.mpr (by simpa using h), List.rtakeWhile_nil]

lemma exists_last_visit (h : ∃ w ∈ vs, w.stage = s) :
    ∃ xs v ys, vs = xs ++ v :: ys ∧ v.stage = s ∧ ∀ w ∈ ys, w.stage ≠ s := by
  obtain ⟨w, hw, hs⟩ := h
  cases hfind : vs.reverse.find? fun v => v.stage = s with
  | none => exact absurd hs (by simpa using List.find?_eq_none.mp hfind w (by simpa using hw))
  | some v =>
    obtain ⟨hv, later, earlier, hvs, hlater⟩ := List.find?_eq_some_iff_append.mp hfind
    refine ⟨earlier.reverse, v, later.reverse, ?_, by simpa using hv, by simpa using hlater⟩
    rw [← vs.reverse_reverse, hvs]
    simp

/-- The last run of a stage begins where it did when all visits are made again. -/
theorem lastEntry_append_self (s : Stage) (vs : List StageVisit) :
    lastEntry s (vs ++ vs) = lastEntry s vs := by
  by_cases h : ∃ w ∈ vs, w.stage = s
  · obtain ⟨xs, v, ys, hvs, rfl, hys⟩ := exists_last_visit h
    have htwice : vs ++ vs = (vs ++ xs) ++ v :: ys := by rw [List.append_assoc, ← hvs]
    have honce : lastRun v.stage vs = (xs.rtakeWhile fun w => w.stage = v.stage) ++ [v] := by
      rw [hvs, lastRun_split hys]
    rw [lastEntry, lastEntry, htwice, lastRun_split hys, honce]
    by_cases hall : ∀ w ∈ xs, w.stage = v.stage
    · -- Nothing but the stage is visited up to `v`: the run goes back to the first delivery only if
      -- nothing else is visited after `v`, and then it begins with the first visit of all.
      have hself : (xs.rtakeWhile fun w => w.stage = v.stage) = xs :=
        List.rtakeWhile_eq_self_iff.mpr (by simpa using hall)
      rw [rtakeWhile_append_of_all (by simpa using hall), hself]
      cases ys using List.reverseRecOn with
      | nil =>
        have hwhole : (vs.rtakeWhile fun w => w.stage = v.stage) = xs ++ [v] := by
          rw [hvs, List.rtakeWhile_concat_pos _ _ v (by simp), hself]
        rw [hwhole, List.append_assoc, List.head?_append]
        cases xs <;> rfl
      | append_singleton ys w =>
        have hnone : (vs.rtakeWhile fun w => w.stage = v.stage) = [] := by
          rw [hvs, ← List.cons_append, ← List.append_assoc,
            List.rtakeWhile_concat_neg _ _ w (by simpa using hys w (by simp))]
        rw [hnone, List.nil_append]
    · rw [rtakeWhile_append_of_not_all (by simpa using hall)]
  · push Not at h
    rw [lastEntry, lastEntry, lastRun_of_unvisited h, lastRun_of_unvisited (by simpa using h)]

/-- An account is left as it was when all its visits are made again. -/
theorem recordOf_append_self (schema : ProgressSchema) (a : AccountId) (vs : List StageVisit) :
    recordOf schema a (vs ++ vs) = recordOf schema a vs := by
  have hentries : lastEntries schema (vs ++ vs) = lastEntries schema vs := by
    funext s
    rw [lastEntries, lastEntries, lastEntry_append_self]
  have hlast : (vs ++ vs).getLast? = vs.getLast? := by
    rw [List.getLast?_append, Option.or_self]
  rw [recordOf, recordOf, hentries, hlast]

/-- A book is as it was when all visits are made again. -/
lemma foldl_visit_again (schema : ProgressSchema) (es : List (AccountId × StageVisit)) :
    es.foldl (Book.visit schema) (es.foldl (Book.visit schema) fun _ => none) =
      es.foldl (Book.visit schema) fun _ => none := by
  funext a
  have hvisits : visitsOf a (es ++ es) = visitsOf a es ++ visitsOf a es := by
    simp [visitsOf]
  rw [← List.foldl_append, foldl_visit_empty, foldl_visit_empty, hvisits, recordOf_append_self]

/-- An event that is delivered: when and in which request, and who comes to a stage. -/
structure Delivery where
  now : Nat
  request : Request
  account : AccountId
  visit : StageVisit

namespace Delivery

def event (d : Delivery) : AccountId × StageVisit :=
  (d.account, d.visit)

def update (d : Delivery) : Tracker.Update :=
  .new d.request d.account d.visit.stage (some d.visit.instant)

end Delivery

/-- The ledger after a delivery, if its update succeeds. -/
def deliver {S : Type} [RowStore S] (l : Ledger S) (d : Delivery) : Option (Ledger S) :=
  match Tracker.machine.alone d.now l d.update with
  | some ⟨_, l', _, .ok _⟩ => some l'
  | _ => none

/-- The ledger after deliveries one after another, if all of them succeed. -/
def deliverAll {S : Type} [RowStore S] (l : Ledger S) (ds : List Delivery) : Option (Ledger S) :=
  ds.foldlM deliver l

variable {b : Book} {l l' : Ledger ProgressMemory} {ds ds' : List Delivery}

lemma Holding.deliver (h : Holding schema b l) (d : Delivery) :
    ∃ l', Proofs.deliver l d = some l' ∧ Holding schema (b.visit schema d.event) l' := by
  obtain ⟨l', said, halone, h'⟩ := h.update (u := d.update) rfl d.now
  refine ⟨l', ?_, h'⟩
  rw [Proofs.deliver, halone]

lemma Holding.deliverAll (h : Holding schema b l) (ds : List Delivery) :
    ∃ l', Proofs.deliverAll l ds = some l' ∧
      Holding schema ((ds.map Delivery.event).foldl (Book.visit schema) b) l' := by
  induction ds generalizing b l with
  | nil => exact ⟨l, rfl, h⟩
  | cons d ds ih =>
    obtain ⟨l₁, hfirst, h₁⟩ := h.deliver d
    obtain ⟨l₂, hrest, h₂⟩ := ih h₁
    refine ⟨l₂, ?_, h₂⟩
    rw [Proofs.deliverAll, List.foldlM_cons, hfirst]
    exact hrest

lemma Holding.sorted (h : Holding schema b l) (h' : Holding schema b l') :
    l'.store.sorted = l.store.sorted := by
  have hlisted := listing_rowsOf h.stocked
  have hlisted' := listing_rowsOf h'.stocked
  rw [← row_progressMemory, h.rows] at hlisted
  rw [← row_progressMemory, h'.rows] at hlisted'
  exact hlisted'.unique hlisted

/-- A stream of events is recorded in a store in memory that is empty at first, and then the same
stream once more: every update succeeds, and the rows are the same after the second time as after
the first one. -/
theorem redelivered (schema : ProgressSchema) (clock : Clock)
    (h : ds'.map Delivery.event = ds.map Delivery.event) :
    ∃ l l', deliverAll (emptyLedger schema clock) ds = some l ∧ deliverAll l ds' = some l' ∧
      (∀ a, RowStore.row l'.store a = RowStore.row l.store a) ∧
      RowStore.rows l'.store = RowStore.rows l.store := by
  obtain ⟨l, hfirst, hl⟩ := (holding_empty schema clock).deliverAll ds
  obtain ⟨l', hsecond, hl'⟩ := hl.deliverAll ds'
  rw [h, foldl_visit_again] at hl'
  refine ⟨l, l', hfirst, hsecond, fun a => ?_, congrArg Except.ok (hl.sorted hl')⟩
  rw [hl.rows, hl'.rows]

/-- An account comes to a stage, leaves it and comes back, while another one stays. -/
def roundTrip (now : Nat) (request : Request) : List Delivery :=
  [⟨now, request, ⟨7⟩, ⟨.fetchStarted, .epoch⟩⟩, ⟨now, request, ⟨8⟩, ⟨.fetchStarted, .epoch⟩⟩,
    ⟨now, request, ⟨7⟩, ⟨.fetchCompleted, .epoch⟩⟩, ⟨now, request, ⟨7⟩, ⟨.fetchStarted, .last⟩⟩,
    ⟨now, request, ⟨8⟩, ⟨.fetchStarted, .last⟩⟩]

theorem redelivered_roundTrip :
    ∃ l l', deliverAll (emptyLedger .current ⟨.epoch⟩) (roundTrip 0 .plain) = some l ∧
      deliverAll l (roundTrip 5 { Request.plain with timeout := some ⟨0⟩ }) = some l' ∧
      (RowStore.row l'.store ⟨7⟩).toOption = some ⟨⟨7⟩,
        StageMap.ofList [(.fetchStarted, .last), (.fetchCompleted, .epoch)], .fetchStarted⟩ := by
  have hsame : (roundTrip 5 { Request.plain with timeout := some ⟨0⟩ }).map Delivery.event =
      (roundTrip 0 .plain).map Delivery.event := rfl
  obtain ⟨l, l', hfirst, hsecond, hrows, -⟩ := redelivered .current ⟨.epoch⟩ hsame
  obtain ⟨l₀, hfirst₀, hl⟩ := (holding_empty .current ⟨.epoch⟩).deliverAll (roundTrip 0 .plain)
  obtain rfl : l₀ = l := Option.some.inj (hfirst₀.symm.trans hfirst)
  have hbook : ((roundTrip 0 .plain).map Delivery.event).foldl (Book.visit .current)
      (fun _ => none) ⟨7⟩ = some ⟨⟨7⟩,
        StageMap.ofList [(.fetchStarted, .last), (.fetchCompleted, .epoch)], .fetchStarted⟩ := by
    have hentries : lastEntries .current [⟨.fetchStarted, .epoch⟩, ⟨.fetchCompleted, .epoch⟩,
        ⟨.fetchStarted, .last⟩] =
          StageMap.ofList [(.fetchStarted, .last), (.fetchCompleted, .epoch)] := by decide
    rw [foldl_visit_empty]
    exact congrArg (fun m => some (⟨⟨7⟩, m, .fetchStarted⟩ : ProgressRecord)) hentries
  refine ⟨l₀, l', hfirst, hsecond, ?_⟩
  rw [hrows, hl.rows, Book.rows, hbook]
  rfl

end Tenancy.Proofs
