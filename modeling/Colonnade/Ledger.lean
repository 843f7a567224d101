/-!
# Ledgers: tables in order of first arrival

A map from text keys in the order the keys first arrived: writing a present key replaces its value
in place, a new key is appended, and an erased key forgets its place. The type carries that no key
stands twice.
-/

namespace Colonnade

/-- A table from text keys to values, in the order in which keys first arrived. -/
structure Ledger (α : Type) where
  entries : List (String × α) := []
  nodup : (entries.map Prod.fst).Nodup := by first | exact List.nodup_nil | simp
  deriving DecidableEq, Repr

namespace Ledger

variable {α : Type}

def empty : Ledger α := {}

/-- Replaces the value of the first entry with key `k`, or appends the entry. -/
def upsert (k : String) (v : α) : List (String × α) → List (String × α)
  | [] => [(k, v)]
  | e :: es => if e.1 = k then (k, v) :: es else e :: upsert k v es

theorem upsert_keys (k : String) (v : α) (es : List (String × α)) :
    (upsert k v es).map Prod.fst =
      if k ∈ es.map Prod.fst then es.map Prod.fst else es.map Prod.fst ++ [k] := by
  induction es with
  | nil => simp [upsert]
  | cons e es ih =>
    unfold upsert
    by_cases h : e.1 = k
    · simp [h]
    · simp only [h, if_false, List.map_cons, ih, List.mem_cons]
      by_cases hk : k ∈ es.map Prod.fst
      · simp [hk]
      · simp [hk, Ne.symm h]

def get? (l : Ledger α) (k : String) : Option α := l.entries.lookup k

def contains (l : Ledger α) (k : String) : Bool := (l.get? k).isSome

theorem upsert_nodup (k : String) (v : α) (es : List (String × α))
    (h : (es.map Prod.fst).Nodup) : ((upsert k v es).map Prod.fst).Nodup := by
  rw [upsert_keys]
  split
  · exact h
  · rename_i hk
    exact List.nodup_append.2 ⟨h, by simp, fun a ha b hb => by
      simp only [List.mem_singleton] at hb
      subst hb
      exact fun e => hk (e ▸ ha)⟩

/-- Writes a value under a key, keeping the key's place if it has one. -/
def insert (l : Ledger α) (k : String) (v : α) : Ledger α :=
  ⟨upsert k v l.entries, upsert_nodup k v l.entries l.nodup⟩

def erase (l : Ledger α) (k : String) : Ledger α :=
  ⟨l.entries.filter (fun e => e.1 != k), l.nodup.sublist (List.filter_sublist.map _)⟩

def keys (l : Ledger α) : List String := l.entries.map Prod.fst

def values (l : Ledger α) : List α := l.entries.map Prod.snd

def size (l : Ledger α) : Nat := l.entries.length

def ofList (es : List (String × α)) : Ledger α := es.foldl (fun l e => l.insert e.1 e.2) {}

theorem upsert_lookup_self (k : String) (v : α) (es : List (String × α)) :
    (upsert k v es).lookup k = some v := by
  induction es with
  | nil => simp [upsert]
  | cons e es ih =>
    obtain ⟨a, b⟩ := e
    unfold upsert
    split
    · simp
    · rename_i h
      have h' : (k == a) = false := beq_false_of_ne (fun hk => h hk.symm)
      simp [List.lookup_cons, ih, h']

theorem upsert_lookup_of_ne {k j : String} (v : α) (es : List (String × α)) (h : j ≠ k) :
    (upsert k v es).lookup j = es.lookup j := by
  induction es with
  | nil =>
    simp [upsert, List.lookup_cons, show (j == k) = false from by simpa using h]
  | cons e es ih =>
    obtain ⟨a, b⟩ := e
    unfold upsert
    split
    · rename_i he
      subst he
      simp [List.lookup_cons, show (j == a) = false from by simpa using h]
    · simp [List.lookup_cons, ih]

@[simp] theorem get?_empty (k : String) : ({} : Ledger α).get? k = none := rfl

@[simp] theorem get?_insert_self (l : Ledger α) (k : String) (v : α) :
    (l.insert k v).get? k = some v :=
  upsert_lookup_self k v l.entries

theorem get?_insert_of_ne (l : Ledger α) {k j : String} (v : α) (h : j ≠ k) :
    (l.insert k v).get? j = l.get? j :=
  upsert_lookup_of_ne v l.entries h

theorem mem_upsert {k : String} {v : α} {e : String × α} {es : List (String × α)}
    (h : e ∈ upsert k v es) : e = (k, v) ∨ e ∈ es := by
  induction es with
  | nil => simpa [upsert] using h
  | cons x xs ih =>
    unfold upsert at h
    split at h
    · rcases List.mem_cons.1 h with rfl | h
      · exact .inl rfl
      · exact .inr (List.mem_cons_of_mem _ h)
    · rcases List.mem_cons.1 h with rfl | h
      · exact .inr List.mem_cons_self
      · exact (ih h).imp_right (List.mem_cons_of_mem _)

/-- A write adds its value to the values and may replace one; it brings in no other. -/
theorem mem_values_insert {l : Ledger α} {k : String} {v r : α} (h : r ∈ (l.insert k v).values) :
    r = v ∨ r ∈ l.values := by
  obtain ⟨⟨j, r'⟩, he, rfl⟩ := List.mem_map.1 h
  rcases mem_upsert he with he | he
  · exact .inl (Prod.mk.inj he).2
  · exact .inr (List.mem_map.2 ⟨_, he, rfl⟩)

theorem mem_values_of_get? {l : Ledger α} {k : String} {v : α} (h : l.get? k = some v) :
    v ∈ l.values := by
  obtain ⟨l₁, l₂, hl, -⟩ := List.lookup_eq_some_iff.mp h
  simp [values, hl]

theorem mem_keys_of_get? {l : Ledger α} {k : String} {v : α} (h : l.get? k = some v) :
    k ∈ l.keys := by
  obtain ⟨l₁, l₂, hl, -⟩ := List.lookup_eq_some_iff.mp h
  simp [keys, hl]

/-- A write keeps the order of keys and appends a key that is new. -/
theorem keys_insert (l : Ledger α) (k : String) (v : α) :
    (l.insert k v).keys = if k ∈ l.keys then l.keys else l.keys ++ [k] :=
  upsert_keys k v l.entries

theorem lookup_filter_ne (k j : String) (es : List (String × α)) :
    (es.filter (fun e => e.1 != k)).lookup j = if j = k then none else es.lookup j := by
  induction es with
  | nil => split <;> rfl
  | cons e es ih =>
    obtain ⟨a, b⟩ := e
    by_cases ha : a = k
    · -- the entry of `k` is dropped
      subst ha
      rw [List.filter_cons_of_neg (by simp), ih]
      by_cases hj : j = a
      · simp [hj]
      · simp [hj, List.lookup_cons, show (j == a) = false from by simpa using hj]
    · rw [List.filter_cons_of_pos (by simpa using ha)]
      by_cases hj : j = a
      · subst hj
        simp [ha]
      · simp only [List.lookup_cons, show (j == a) = false from by simpa using hj, ih]

/-- Erasing a key forgets its value and keeps every other. -/
theorem get?_erase (l : Ledger α) (k j : String) :
    (l.erase k).get? j = if j = k then none else l.get? j :=
  lookup_filter_ne k j l.entries

/-- Erasing a key takes it out of the order and keeps the order of the others. -/
theorem keys_erase (l : Ledger α) (k : String) : (l.erase k).keys = l.keys.filter (· != k) := by
  rw [keys, keys, List.filter_map]
  rfl

theorem mem_keys_iff (l : Ledger α) (k : String) : k ∈ l.keys ↔ (l.get? k).isSome := by
  rw [get?, List.lookup_isSome_iff]
  simp [keys]

/-- A write commutes with changing every value by one function. -/
theorem upsert_map {β : Type} (f : α → β) (k : String) (v : α) (es : List (String × α)) :
    (upsert k v es).map (fun e => (e.1, f e.2)) =
      upsert k (f v) (es.map fun e => (e.1, f e.2)) := by
  induction es with
  | nil => rfl
  | cons e es ih =>
    unfold upsert
    by_cases h : e.1 = k
    · simp [h]
    · simp [h, ih]

/-- A write under a key that a filter keeps commutes with the filter. -/
theorem upsert_filter_of_pos {p : String → Bool} {k : String} (hk : p k = true) (v : α)
    (es : List (String × α)) :
    (upsert k v es).filter (fun e => p e.1) = upsert k v (es.filter fun e => p e.1) := by
  induction es with
  | nil => simp [upsert, hk]
  | cons e es ih =>
    by_cases h : e.1 = k
    · simp [upsert, h, hk]
    · by_cases he : p e.1 = true
      · simp [upsert, h, he, ih]
      · simp [upsert, h, he, ih]

/-- A write under a key that a filter drops is lost to the filter. -/
theorem upsert_filter_of_neg {p : String → Bool} {k : String} (hk : p k = false) (v : α)
    (es : List (String × α)) :
    (upsert k v es).filter (fun e => p e.1) = es.filter fun e => p e.1 := by
  induction es with
  | nil => simp [upsert, hk]
  | cons e es ih =>
    by_cases h : e.1 = k
    · simp [upsert, h, hk]
    · by_cases he : p e.1 = true
      · simp [upsert, h, he, ih]
      · simp [upsert, h, he, ih]

end Ledger

end Colonnade
