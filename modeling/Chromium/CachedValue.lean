import Mathlib.Logic.Basic

/-! `AnchorEvaluatorImpl::CachedValue`, the single-slot cache in front of
`PositionAreaModifiedContainingBlock`, `DefaultAnchor` and `DefaultAnchorScrollContainerLayer`.
A hit returns the stored value, after a `DCHECK_EQ` against a fresh `create()`; a miss stores
the key and what `create()` returns. -/

namespace Chromium

/-- `base::ValuesEquivalent` on pointers, a pointer being `none` (null) or an address whose
pointee `pointee` gives. -/
def valuesEquivalent {A T : Type} [BEq A] [BEq T] (pointee : A → T) (a b : Option A) : Bool :=
  if a == b then true
  else
    match a, b with
    | some a, some b => pointee a == pointee b
    | _, _ => false

/-- A value computed from a pointer key through its pointee alone, as `DefaultAnchor` reads the
name behind `position_anchor`, gives equal values on keys that `ValuesEquivalent` identifies. -/
theorem valuesEquivalent_respected {A T V : Type} [BEq A] [LawfulBEq A] [BEq T] [LawfulBEq T]
    (pointee : A → T) (lookup : Option T → V) (a b : Option A)
    (equivalent : valuesEquivalent pointee a b = true) :
    lookup (a.map pointee) = lookup (b.map pointee) := by
  unfold valuesEquivalent at equivalent
  split at equivalent
  next same => rw [eq_of_beq same]
  next =>
    match a, b, equivalent with
    | some a, some b, equal => simp only [Option.map_some', eq_of_beq equal]

structure CachedValue (K V : Type) where
  key : K
  value : Option V

namespace CachedValue

variable {K V : Type}

/-- A new cache: `KeyType key_{}` and an empty `std::optional`. -/
def init [Inhabited K] : CachedValue K V := ⟨default, none⟩

/-- The miss path of `Get`: `key_ = key; value_ = create();`. -/
def store (key : K) (create : Unit → V) : V × CachedValue K V :=
  let value := create ()
  (value, ⟨key, some value⟩)

/-- `Get(key, create)`, with `Equals` passed as `equals`; `none` is a failed `DCHECK_EQ`. -/
def get [DecidableEq V] (equals : K → K → Bool) (cache : CachedValue K V) (key : K)
    (create : Unit → V) : Option (V × CachedValue K V) :=
  match cache.value with
  | some value =>
      if equals cache.key key then
        if value = create () then some (value, cache) else none
      else some (store key create)
  | none => some (store key create)

/-- `Get` on each key in turn, each call's `create` returning `compute` of its key. -/
def getAll [DecidableEq V] (equals : K → K → Bool) (compute : K → V) (cache : CachedValue K V) :
    List K → Option (List V × CachedValue K V)
  | [] => some ([], cache)
  | key :: rest =>
      (cache.get equals key fun _ => compute key).bind fun step =>
        (getAll equals compute step.2 rest).map fun after => (step.1 :: after.1, after.2)

/-- The slot holds what `compute` gives for the slot's key. -/
def Consistent (compute : K → V) (cache : CachedValue K V) : Prop :=
  ∀ value, cache.value = some value → value = compute cache.key

variable {equals : K → K → Bool} {compute : K → V} {cache : CachedValue K V}

theorem consistent_init [Inhabited K] : Consistent compute (init : CachedValue K V) :=
  fun _ stored => nomatch stored

theorem consistent_store (key : K) : Consistent compute (store key fun _ => compute key).2 :=
  fun _ stored => (Option.some.inj stored).symm

section Transparent

variable [DecidableEq V] (respects : ∀ a b, equals a b = true → compute a = compute b)
include respects

/-- One `Get` from a consistent slot returns `compute key`, passes its `DCHECK_EQ`, and leaves
the slot consistent. -/
theorem Consistent.get (consistent : Consistent compute cache) (key : K) :
    ∃ next, cache.get equals key (fun _ => compute key) = some (compute key, next) ∧
      Consistent compute next := by
  unfold CachedValue.get
  split
  next value stored =>
    by_cases hit : equals cache.key key
    · have same : value = compute key := (consistent value stored).trans (respects _ _ hit)
      exact ⟨cache, by simp [hit, same], consistent⟩
    · exact ⟨_, by simp [hit, store], consistent_store key⟩
  next => exact ⟨_, rfl, consistent_store key⟩

theorem Consistent.getAll (consistent : Consistent compute cache) (keys : List K) :
    ∃ next, getAll equals compute cache keys = some (keys.map compute, next) ∧
      Consistent compute next := by
  induction keys generalizing cache with
  | nil => exact ⟨cache, rfl, consistent⟩
  | cons key rest ih =>
      obtain ⟨step, stepped, stepConsistent⟩ := consistent.get respects key
      obtain ⟨next, ran, nextConsistent⟩ := ih stepConsistent
      exact ⟨next, by simp [getAll, stepped, ran], nextConsistent⟩

/-- From a new cache, every call of a run of `Get` returns what `create` would, no `DCHECK_EQ`
fails, and every state reached keeps its value equal to `compute` of its key. -/
theorem getAll_init_transparent [Inhabited K] (keys : List K) :
    ∃ final, getAll equals compute init keys = some (keys.map compute, final) ∧
      Consistent compute final :=
  consistent_init.getAll respects keys

end Transparent

theorem getAll_init_transparent_on_equal_pointees :
    ∃ final, getAll (valuesEquivalent fun address : Nat => address % 2)
        (fun key : Option Nat => id (key.map fun address => address % 2)) init
        [some 1, some 3, none, some 2, some 4] =
        some ([some 1, some 1, none, some 0, some 0], final) ∧
      Consistent (fun key : Option Nat => id (key.map fun address => address % 2)) final :=
  getAll_init_transparent (valuesEquivalent_respected _ id) _

end CachedValue

end Chromium
