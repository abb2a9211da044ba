/-!
# Tables

Finite maps as lists of entries in which a key stands at most once. `insert` puts an entry at the
end, so a table remembers the order in which its keys were last written; `insertSorted` keeps the
keys in ascending order.
-/

namespace Tenancy

abbrev Table (K V : Type) := List (K × V)

namespace Table

variable {K V : Type} [DecidableEq K]

def get? (t : Table K V) (k : K) : Option V :=
  (t.find? fun e => e.1 = k).map (·.2)

def has (t : Table K V) (k : K) : Bool :=
  t.any fun e => e.1 = k

/-- The table without a key. -/
def erase (t : Table K V) (k : K) : Table K V :=
  t.filter fun e => e.1 ≠ k

/-- The table with a value for a key, which becomes the last one. -/
def insert (t : Table K V) (k : K) (v : V) : Table K V :=
  t.erase k ++ [(k, v)]

/-- The table in ascending order of its keys with a value for a key. -/
def insertSorted (lt : K → K → Bool) (k : K) (v : V) : Table K V → Table K V
  | [] => [(k, v)]
  | e :: t =>
    if k = e.1 then (k, v) :: t
    else if lt k e.1 then (k, v) :: e :: t
    else e :: insertSorted lt k v t

theorem get?_cons (e : K × V) (t : Table K V) (k : K) :
    get? (e :: t) k = if e.1 = k then some e.2 else get? t k := by
  by_cases h : e.1 = k <;> simp [get?, List.find?, h]

theorem get?_erase (t : Table K V) (k j : K) :
    get? (erase t k) j = if j = k then none else get? t j := by
  induction t with
  | nil => simp [get?, erase]
  | cons e t ih =>
    unfold erase at ih ⊢
    by_cases h : e.1 = k
    · rw [List.filter_cons_of_neg (by simpa using h), ih, get?_cons]
      by_cases hj : j = k
      · simp [hj]
      · simp [hj, h, Ne.symm hj]
    · rw [List.filter_cons_of_pos (by simpa using h), get?_cons, ih, get?_cons]
      by_cases hj : j = k
      · subst hj
        simp [h]
      · simp [hj]

theorem get?_append (s t : Table K V) (k : K) :
    get? (s ++ t) k = (get? s k).or (get? t k) := by
  induction s with
  | nil => simp [get?]
  | cons e s ih =>
    rw [List.cons_append, get?_cons, get?_cons, ih]
    by_cases h : e.1 = k <;> simp [h]

theorem get?_insert (t : Table K V) (k j : K) (v : V) :
    get? (insert t k v) j = if j = k then some v else get? t j := by
  rw [insert, get?_append, get?_erase]
  by_cases h : j = k
  · subst h
    simp [get?]
  · simp [h, get?, Ne.symm h]

end Table

end Tenancy
