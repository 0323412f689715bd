import Chromium.AnchorQuery
import Mathlib.Logic.Function.Iterate

/-! `AnchorQueryBase::Iterator`, a pair of map iterators that walks the named map and then the
implicit map. A map iterator is a position in its map's iteration order and `end()` is the
map's size; `operator*` at a map's `end()` reads nothing. -/

namespace Chromium

namespace AnchorQueryBase

variable {N L R : Type} [BEq N] [BEq L]

structure Iterator (N L R : Type) [BEq N] [BEq L] where
  anchorQuery : AnchorQueryBase N L R
  namedMapIterator : Nat
  implicitMapIterator : Nat

structure Entry (N L R : Type) where
  key : AnchorKey N L
  value : R

namespace Iterator

/-- `operator*`; `none` is a read at the `end()` of a map. -/
def deref (it : Iterator N L R) : Option (Entry N L R) :=
  if it.namedMapIterator ≠ it.anchorQuery.namedAnchors.size then
    it.anchorQuery.namedAnchors.entries[it.namedMapIterator]?.map
      fun entry => ⟨.name entry.1, entry.2⟩
  else
    it.anchorQuery.implicitAnchors.entries[it.implicitMapIterator]?.map
      fun entry => ⟨.layoutObject entry.1, entry.2⟩

/-- `operator==` compares the two map iterators, not the query. -/
instance : BEq (Iterator N L R) where
  beq it other := it.namedMapIterator == other.namedMapIterator &&
    it.implicitMapIterator == other.implicitMapIterator

/-- `operator++`. -/
def increment (it : Iterator N L R) : Iterator N L R :=
  if it.namedMapIterator ≠ it.anchorQuery.namedAnchors.size then
    { it with namedMapIterator := it.namedMapIterator + 1 }
  else
    { it with implicitMapIterator := it.implicitMapIterator + 1 }

end Iterator

def begin (query : AnchorQueryBase N L R) : Iterator N L R := ⟨query, 0, 0⟩

def «end» (query : AnchorQueryBase N L R) : Iterator N L R :=
  ⟨query, query.namedAnchors.size, query.implicitAnchors.size⟩

/-- A range-for over `query` from `it` to `last`, allowed `fuel` turns of the loop; `none` when
the fuel runs out or an entry cannot be read. -/
def rangeFor (fuel : Nat) (it last : Iterator N L R) : Option (List (Entry N L R)) :=
  if it == last then some []
  else
    match fuel with
    | 0 => none
    | fuel + 1 => do
        let entry ← it.deref
        let rest ← rangeFor fuel it.increment last
        pure (entry :: rest)

/-- The stored pairs in the order a walk should visit them: the named map, then the implicit
map. -/
def entries (query : AnchorQueryBase N L R) : List (Entry N L R) :=
  query.namedAnchors.entries.map (fun entry => ⟨.name entry.1, entry.2⟩) ++
    query.implicitAnchors.entries.map (fun entry => ⟨.layoutObject entry.1, entry.2⟩)

variable (query : AnchorQueryBase N L R)

theorem length_entries :
    query.entries.length = query.namedAnchors.size + query.implicitAnchors.size := by
  simp [entries, HeapHashMap.size]

/-- After `steps` increments from `begin()` the named iterator has moved `min steps n` places
and the implicit one the rest. -/
theorem increment_iterate_begin (steps : Nat) :
    Iterator.increment^[steps] query.begin =
      ⟨query, min steps query.namedAnchors.size, steps - query.namedAnchors.size⟩ := by
  induction steps with
  | zero => simp [begin]
  | succ steps ih =>
      rw [Function.iterate_succ_apply', ih]
      simp only [Iterator.increment]
      split <;> congr 1 <;> omega

theorem increment_iterate_begin_beq_end (steps : Nat) :
    (Iterator.increment^[steps] query.begin == query.end) =
      decide (steps = query.namedAnchors.size + query.implicitAnchors.size) := by
  rw [increment_iterate_begin]
  simp only [BEq.beq, «end», ← Bool.decide_and, decide_eq_decide]
  omega

theorem deref_increment_iterate_begin (steps : Nat) :
    (Iterator.increment^[steps] query.begin).deref = query.entries[steps]? := by
  rw [increment_iterate_begin, Iterator.deref, entries]
  by_cases named : steps < query.namedAnchors.size
  · simp only [HeapHashMap.size] at named
    simp [Nat.min_def, HeapHashMap.size, named, Nat.le_of_lt named, Nat.ne_of_lt named,
      List.getElem?_append_left]
  · simp only [HeapHashMap.size] at named
    simp [Nat.min_def, HeapHashMap.size, named, List.getElem?_append_right, Nat.le_of_not_lt named]

/-- From the iterator after `steps` increments, `remaining` turns of the loop visit the rest. -/
theorem rangeFor_increment_iterate_begin (remaining steps : Nat)
    (total : steps + remaining = query.namedAnchors.size + query.implicitAnchors.size) :
    rangeFor remaining (Iterator.increment^[steps] query.begin) query.end =
      some (query.entries.drop steps) := by
  induction remaining generalizing steps with
  | zero =>
      rw [rangeFor, if_pos (by simp [increment_iterate_begin_beq_end, ← total])]
      simp [length_entries, ← total]
  | succ remaining ih =>
      have before : steps < query.namedAnchors.size + query.implicitAnchors.size := by omega
      have visit := deref_increment_iterate_begin query steps
      rw [← length_entries] at before
      rw [rangeFor, if_neg (by simp [increment_iterate_begin_beq_end]; omega), visit,
        List.getElem?_eq_getElem before]
      simp only [Option.bind_eq_bind, Option.some_bind]
      rw [← Function.iterate_succ_apply' Iterator.increment, ih (steps + 1) (by omega),
        List.drop_eq_getElem_cons before]
      rfl

theorem increment_iterate_begin_le_end (steps : Nat)
    (within : steps ≤ query.namedAnchors.size + query.implicitAnchors.size) :
    (Iterator.increment^[steps] query.begin).namedMapIterator ≤ query.namedAnchors.size ∧
      (Iterator.increment^[steps] query.begin).implicitMapIterator ≤ query.implicitAnchors.size := by
  rw [increment_iterate_begin]
  exact ⟨Nat.min_le_right _ _, show steps - _ ≤ _ by omega⟩

/-- A walk from `begin()` reaches `end()` after exactly as many increments as the two maps hold
entries, keeps both map iterators within their maps, reads an entry at every step before the end,
and yields the named entries and then the implicit ones: a range-for visits each stored pair
once. -/
theorem iterator_walk_visits_named_then_implicit :
    let size := query.namedAnchors.size + query.implicitAnchors.size
    (Iterator.increment^[size] query.begin == query.end) = true ∧
    (∀ steps < size, (Iterator.increment^[steps] query.begin == query.end) = false) ∧
    (∀ steps ≤ size,
      (Iterator.increment^[steps] query.begin).namedMapIterator ≤ query.namedAnchors.size ∧
        (Iterator.increment^[steps] query.begin).implicitMapIterator ≤
          query.implicitAnchors.size) ∧
    (∀ steps < size, ∃ entry, (Iterator.increment^[steps] query.begin).deref = some entry ∧
      query.entries[steps]? = some entry) ∧
    rangeFor size query.begin query.end = some query.entries := by
  refine ⟨by simp [increment_iterate_begin_beq_end], fun steps before => ?_,
    increment_iterate_begin_le_end query, fun steps before => ?_, ?_⟩
  · simpa [increment_iterate_begin_beq_end] using Nat.ne_of_lt before
  · rw [← length_entries] at before
    rw [deref_increment_iterate_begin, List.getElem?_eq_getElem before]
    exact ⟨_, rfl, rfl⟩
  · simpa using rangeFor_increment_iterate_begin query _ 0 (Nat.zero_add _)

end AnchorQueryBase

end Chromium
