import Chromium.HeapHashMap

/-! `AnchorQueryBase` of `anchor_evaluator_impl.h`: a map from `AnchorKey` kept as two hash
maps, one per alternative of the key, to save a pointer per key. It refines the one map with the
unified key type that the header's comment describes, and so the first-insert map of its run. -/

namespace Chromium

/-- `AnchorKey`, the variant `absl::variant<const ScopedCSSName*, const LayoutObject*>`. -/
inductive AnchorKey (N L : Type) where
  | name (name : N)
  | layoutObject (object : L)
  deriving Repr

namespace AnchorKey

variable {N L : Type} [BEq N] [BEq L]

/-- Keys of one alternative compare as that alternative's map compares them. -/
instance : BEq (AnchorKey N L) where
  beq
    | name a, name b => a == b
    | layoutObject a, layoutObject b => a == b
    | _, _ => false

@[simp] theorem name_beq_name (a b : N) : (name a == (name b : AnchorKey N L)) = (a == b) := rfl

@[simp] theorem layoutObject_beq_layoutObject (a b : L) :
    (layoutObject a == (layoutObject b : AnchorKey N L)) = (a == b) := rfl

@[simp] theorem name_beq_layoutObject (a : N) (b : L) :
    (name a == (layoutObject b : AnchorKey N L)) = false := rfl

@[simp] theorem layoutObject_beq_name (a : L) (b : N) :
    (layoutObject a == (name b : AnchorKey N L)) = false := rfl

instance [EquivBEq N] [EquivBEq L] : EquivBEq (AnchorKey N L) where
  refl {a} := by cases a <;> simp
  symm {a b} := by cases a <;> cases b <;> simp <;> exact BEq.symm
  trans {a b c} := by cases a <;> cases b <;> cases c <;> simp <;> exact BEq.trans

end AnchorKey

structure AnchorQueryBase (N L R : Type) [BEq N] [BEq L] where
  namedAnchors : HeapHashMap N R
  implicitAnchors : HeapHashMap L R

namespace AnchorQueryBase

variable {N L R : Type} [BEq N] [BEq L]

instance : EmptyCollection (AnchorQueryBase N L R) := ⟨⟨∅, ∅⟩⟩

/-- `AddResult`: the slot that now holds the key's reference, and whether the key was new. -/
structure AddResult (R : Type) where
  storedValue : R
  isNewEntry : Bool
  deriving DecidableEq, Repr

section Helpers

variable {K : Type} [BEq K]

/-- The static helper `GetAnchorReference(anchors, key)`. -/
def getAnchorReferenceIn (anchors : HeapHashMap K R) (key : K) : Option R :=
  match anchors.find key with
  | some entry => some entry.2
  | none => none

/-- The `AddResult` the helper builds from the map's: `&result.stored_value->value`. -/
def AddResult.ofMap (result : HeapHashMap.AddResult K R) : AddResult R :=
  ⟨result.storedValue.2, result.isNewEntry⟩

/-- The static helper `insert(anchors, key, reference)`. -/
def insertIn (anchors : HeapHashMap K R) (key : K) (reference : R) :
    AddResult R × HeapHashMap K R :=
  let result := anchors.insert key reference
  (AddResult.ofMap result.1, result.2)

theorem getAnchorReferenceIn_eq (anchors : HeapHashMap K R) (key : K) :
    getAnchorReferenceIn anchors key = (anchors.find key).map Prod.snd := by
  unfold getAnchorReferenceIn
  split <;> simp_all

theorem insertIn_fst (anchors : HeapHashMap K R) (key : K) (reference : R) :
    (insertIn anchors key reference).1 =
      ⟨(getAnchorReferenceIn anchors key).getD reference,
        (getAnchorReferenceIn anchors key).isNone⟩ := by
  cases found : anchors.find key <;>
    simp [insertIn, AddResult.ofMap, HeapHashMap.addResult_insert, getAnchorReferenceIn_eq, found]

theorem getAnchorReferenceIn_insert [EquivBEq K] (anchors : HeapHashMap K R)
    (key : K) (reference : R) (other : K) :
    getAnchorReferenceIn (insertIn anchors key reference).2 other =
      (getAnchorReferenceIn anchors other).or
        (if key == other then some reference else none) := by
  simp only [insertIn, getAnchorReferenceIn_eq, HeapHashMap.find_insert]
  cases anchors.find other <;> split <;> rfl

end Helpers

def isEmpty (query : AnchorQueryBase N L R) : Bool :=
  query.namedAnchors.empty && query.implicitAnchors.empty

def getAnchorReference (query : AnchorQueryBase N L R) : AnchorKey N L → Option R
  | .name name => getAnchorReferenceIn query.namedAnchors name
  | .layoutObject object => getAnchorReferenceIn query.implicitAnchors object

def insert (query : AnchorQueryBase N L R) : AnchorKey N L → R → AddResult R × AnchorQueryBase N L R
  | .name name, reference =>
      let result := insertIn query.namedAnchors name reference
      (result.1, { query with namedAnchors := result.2 })
  | .layoutObject object, reference =>
      let result := insertIn query.implicitAnchors object reference
      (result.1, { query with implicitAnchors := result.2 })

def insertAll (query : AnchorQueryBase N L R) :
    List (AnchorKey N L × R) → List (AddResult R) × AnchorQueryBase N L R
  | [] => ([], query)
  | (key, reference) :: rest =>
      let step := query.insert key reference
      let after := step.2.insertAll rest
      (step.1 :: after.1, after.2)

/-- The one map of a run: the reference of the first insert whose key is equal to `key`. -/
def firstReference (history : List (AnchorKey N L × R)) (key : AnchorKey N L) : Option R :=
  (history.find? (fun entry => entry.1 == key)).map Prod.snd

variable {query : AnchorQueryBase N L R}

theorem getAnchorReference_insert [EquivBEq N] [EquivBEq L] (key : AnchorKey N L) (reference : R)
    (other : AnchorKey N L) :
    (query.insert key reference).2.getAnchorReference other =
      (query.getAnchorReference other).or (if key == other then some reference else none) := by
  cases key <;> cases other <;> simp [insert, getAnchorReference, getAnchorReferenceIn_insert]

theorem insert_fst (key : AnchorKey N L) (reference : R) :
    (query.insert key reference).1 =
      ⟨(query.getAnchorReference key).getD reference, (query.getAnchorReference key).isNone⟩ := by
  cases key <;> simp [insert, getAnchorReference, insertIn_fst]

theorem isEmpty_insert (key : AnchorKey N L) (reference : R) :
    (query.insert key reference).2.isEmpty = false := by
  cases key <;> simp [insert, isEmpty, insertIn, HeapHashMap.empty_insert]

/-- `query` answers as the one map `unified` keyed by the whole `AnchorKey` would. -/
structure Represents (query : AnchorQueryBase N L R) (unified : HeapHashMap (AnchorKey N L) R) :
    Prop where
  lookup : ∀ key, query.getAnchorReference key = getAnchorReferenceIn unified key
  isEmpty : query.isEmpty = unified.empty

theorem represents_empty : Represents (∅ : AnchorQueryBase N L R) ∅ :=
  ⟨fun key => by cases key <;> rfl, rfl⟩

variable [EquivBEq N] [EquivBEq L] {unified : HeapHashMap (AnchorKey N L) R}

theorem Represents.insert (represents : Represents query unified) (key : AnchorKey N L)
    (reference : R) :
    (query.insert key reference).1 = (insertIn unified key reference).1 ∧
      Represents (query.insert key reference).2 (insertIn unified key reference).2 := by
  refine ⟨by rw [insert_fst, insertIn_fst, represents.lookup], fun other => ?_, ?_⟩
  · rw [getAnchorReference_insert, getAnchorReferenceIn_insert, represents.lookup]
  · simp [isEmpty_insert, insertIn, HeapHashMap.empty_insert]

theorem Represents.insertAll (represents : Represents query unified)
    (run : List (AnchorKey N L × R)) :
    (query.insertAll run).1 = (unified.insertAll run).1.map AddResult.ofMap ∧
      Represents (query.insertAll run).2 (unified.insertAll run).2 := by
  induction run generalizing query unified with
  | nil => exact ⟨rfl, represents⟩
  | cons pair rest ih =>
      obtain ⟨key, reference⟩ := pair
      obtain ⟨result, next⟩ := represents.insert key reference
      obtain ⟨results, final⟩ := ih next
      exact ⟨by simp [insertAll, result, results, insertIn], final⟩

private theorem isNone_find?_eq_not_any {α : Type} (l : List α) (p : α → Bool) :
    (l.find? p).isNone = !l.any p := by
  induction l with
  | nil => rfl
  | cons head tail ih => cases h : p head <;> simp [List.find?_cons, h, ih]

/-- A run of `insert` calls on an empty query behaves as one map that keeps the first reference
inserted under each key: every lookup, every `AddResult` and `IsEmpty` agree with it. -/
theorem insertAll_refines_first_insert_map (run : List (AnchorKey N L × R)) :
    let result := (∅ : AnchorQueryBase N L R).insertAll run
    (∀ key, result.2.getAnchorReference key = firstReference run key) ∧
    (result.2.isEmpty = true ↔ run = []) ∧
    result.1.length = run.length ∧
    ∀ pre key reference post, run = pre ++ (key, reference) :: post →
      result.1[pre.length]? =
        some ⟨(firstReference pre key).getD reference, !pre.any (fun entry => entry.1 == key)⟩ := by
  obtain ⟨results, represents⟩ :=
    (represents_empty : Represents (∅ : AnchorQueryBase N L R) ∅).insertAll run
  have records :=
    (HeapHashMap.records_empty : HeapHashMap.Records (∅ : HeapHashMap (AnchorKey N L) R) []).insertAll run
  rw [List.nil_append] at records
  refine ⟨fun key => ?_, ?_, ?_, ?_⟩
  · rw [represents.lookup, getAnchorReferenceIn_eq, records key]
    rfl
  · rw [represents.isEmpty, records.empty_eq, List.isEmpty_iff]
  · rw [results, List.length_map, HeapHashMap.length_insertAll]
  · rintro pre key reference post rfl
    rw [results, List.getElem?_map, HeapHashMap.records_empty.insertAll_getElem?]
    simp [AddResult.ofMap, firstReference, isNone_find?_eq_not_any]
    cases pre.find? (fun entry => entry.1 == key) <;> rfl

theorem insertAll_refines_first_insert_map_interleaved :
    let run : List (AnchorKey Nat Nat × Nat) := [(.name 1, 10), (.layoutObject 1, 20), (.name 1, 30)]
    let result := (∅ : AnchorQueryBase Nat Nat Nat).insertAll run
    (∀ key, result.2.getAnchorReference key = firstReference run key) ∧
    (result.2.isEmpty = true ↔ run = []) ∧
    result.1.length = run.length ∧
    ∀ pre key reference post, run = pre ++ (key, reference) :: post →
      result.1[pre.length]? =
        some ⟨(firstReference pre key).getD reference, !pre.any (fun entry => entry.1 == key)⟩ :=
  insertAll_refines_first_insert_map _

end AnchorQueryBase

end Chromium
