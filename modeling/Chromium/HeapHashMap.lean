import Mathlib.Data.List.Basic

/-! `WTF::HashMap`, the table behind every `HeapHashMap`, as its callers observe it: the live
entries in iteration order, no two with equal keys under the map's key equality. Unlike `Set`,
`insert` never overwrites the value of a key that is already present. -/

namespace Chromium

structure HeapHashMap (K V : Type) [BEq K] where
  entries : List (K × V)
  distinct : entries.Pairwise (fun a b => (a.1 == b.1) = false)

namespace HeapHashMap

variable {K V : Type} [BEq K]

instance : EmptyCollection (HeapHashMap K V) := ⟨⟨[], .nil⟩⟩

@[simp] theorem entries_empty : (∅ : HeapHashMap K V).entries = [] := rfl

def size (map : HeapHashMap K V) : Nat := map.entries.length

def empty (map : HeapHashMap K V) : Bool := map.entries.isEmpty

/-- `find`: the entry its iterator designates, `none` for `end()`. -/
def find (map : HeapHashMap K V) (key : K) : Option (K × V) :=
  map.entries.find? (fun entry => entry.1 == key)

structure AddResult (K V : Type) where
  storedValue : K × V
  isNewEntry : Bool
  deriving DecidableEq, Repr

private theorem distinct_append_of_find_none {map : HeapHashMap K V} {key : K} (value : V)
    (absent : map.find key = none) :
    (map.entries ++ [(key, value)]).Pairwise (fun a b => (a.1 == b.1) = false) := by
  refine List.pairwise_append.2 ⟨map.distinct, List.pairwise_singleton _ _, ?_⟩
  intro entry member other single
  rw [List.mem_singleton.1 single]
  simpa using List.find?_eq_none.1 absent entry member

def insert (map : HeapHashMap K V) (key : K) (value : V) : AddResult K V × HeapHashMap K V :=
  match absent : map.find key with
  | some entry => (⟨entry, false⟩, map)
  | none =>
      (⟨(key, value), true⟩,
        ⟨map.entries ++ [(key, value)], distinct_append_of_find_none value absent⟩)

variable {map : HeapHashMap K V} {key : K}

theorem insert_of_find_eq_some {entry : K × V} (value : V) (present : map.find key = some entry) :
    map.insert key value = (⟨entry, false⟩, map) := by
  unfold insert
  split <;> simp_all

theorem insert_of_find_eq_none (value : V) (absent : map.find key = none) :
    (map.insert key value).1 = ⟨(key, value), true⟩ ∧
      (map.insert key value).2.entries = map.entries ++ [(key, value)] := by
  unfold insert
  split <;> simp_all

theorem beq_of_find_eq_some {entry : K × V} (present : map.find key = some entry) :
    (entry.1 == key) = true := by
  unfold find at present
  simpa using List.find?_some present

theorem addResult_insert (value : V) :
    (map.insert key value).1 = ⟨(map.find key).getD (key, value), (map.find key).isNone⟩ := by
  cases found : map.find key with
  | some entry => simp [insert_of_find_eq_some value found]
  | none => simp [(insert_of_find_eq_none value found).1]

theorem empty_insert (value : V) : (map.insert key value).2.empty = false := by
  cases found : map.find key with
  | some entry =>
      rw [insert_of_find_eq_some value found, empty, List.isEmpty_eq_false]
      exact List.ne_nil_of_mem (List.mem_of_find?_eq_some found)
  | none => simp [empty, (insert_of_find_eq_none value found).2]

/-- A key that is already present blocks exactly the keys equal to it, so a lookup after
`insert` sees the old entries first and the new pair only for a fresh key. -/
theorem find_insert [EquivBEq K] (value : V) (other : K) :
    (map.insert key value).2.find other =
      (map.find other).or (if key == other then some (key, value) else none) := by
  cases found : map.find key with
  | none => simp [find, (insert_of_find_eq_none value found).2, List.find?_append]
  | some entry =>
      rw [insert_of_find_eq_some value found]
      cases otherFound : map.find other with
      | some _ => rfl
      | none =>
          have blocked : (key == other) = false := by
            rw [Bool.eq_false_iff]
            intro same
            have reaches := BEq.trans (beq_of_find_eq_some found) same
            simp only [find, List.find?_eq_none] at otherFound
            exact otherFound entry (List.mem_of_find?_eq_some found) reaches
          simp [blocked]

def insertAll (map : HeapHashMap K V) : List (K × V) → List (AddResult K V) × HeapHashMap K V
  | [] => ([], map)
  | (key, value) :: rest =>
      let step := map.insert key value
      let after := step.2.insertAll rest
      (step.1 :: after.1, after.2)

@[simp] theorem insertAll_nil : map.insertAll [] = ([], map) := rfl

@[simp] theorem insertAll_cons (value : V) (rest : List (K × V)) :
    map.insertAll ((key, value) :: rest) =
      ((map.insert key value).1 :: ((map.insert key value).2.insertAll rest).1,
        ((map.insert key value).2.insertAll rest).2) := rfl

theorem length_insertAll (run : List (K × V)) : (map.insertAll run).1.length = run.length := by
  induction run generalizing map with
  | nil => rfl
  | cons pair rest ih => simp [insertAll, ih]

/-- `map` holds, for every key, the first pair of `history` whose key is equal to it. -/
def Records (map : HeapHashMap K V) (history : List (K × V)) : Prop :=
  ∀ key, map.find key = history.find? (fun entry => entry.1 == key)

theorem records_empty : Records (∅ : HeapHashMap K V) [] := fun _ => rfl

private theorem isEmpty_eq_of_find?_eq [ReflBEq K] {l l' : List (K × V)}
    (same : ∀ key, l.find? (fun entry => entry.1 == key) = l'.find? (fun entry => entry.1 == key)) :
    l.isEmpty = l'.isEmpty :=
  match l, l' with
  | [], [] => rfl
  | [], entry :: _ => by simpa using same entry.1
  | entry :: _, [] => by simpa using same entry.1
  | _ :: _, _ :: _ => rfl

variable [EquivBEq K] {history : List (K × V)}

theorem Records.empty_eq (records : Records map history) : map.empty = history.isEmpty :=
  isEmpty_eq_of_find?_eq records

theorem Records.insert (records : Records map history) (key : K) (value : V) :
    Records (map.insert key value).2 (history ++ [(key, value)]) := by
  intro other
  rw [find_insert, records other, List.find?_append, List.find?_singleton]

theorem Records.insertAll (records : Records map history) (run : List (K × V)) :
    Records (map.insertAll run).2 (history ++ run) := by
  induction run generalizing map history with
  | nil => simpa using records
  | cons pair rest ih =>
      simpa using ih (records.insert pair.1 pair.2)

/-- The insert at position `pre.length` of a run reports the first pair stored under an equal
key, and whether there was none. -/
theorem Records.insertAll_getElem? (records : Records map history)
    (pre post : List (K × V)) (value : V) :
    (map.insertAll (pre ++ (key, value) :: post)).1[pre.length]? =
      some ⟨((history ++ pre).find? (fun entry => entry.1 == key)).getD (key, value),
        ((history ++ pre).find? (fun entry => entry.1 == key)).isNone⟩ := by
  induction pre generalizing map history with
  | nil => simp [addResult_insert, records key]
  | cons pair pre ih =>
      obtain ⟨first, stored⟩ := pair
      simpa using ih (records.insert first stored)

end HeapHashMap

end Chromium
