import Mathlib.Tactic.Common

/-! The browser state that `ExtensionTabUtil` walks: the `BrowserList` in order, each browser with
its profile, its window and its `TabStripModel`. Only what the modelled functions read is kept.
`P` stands for a `Profile*`, `C` for a `WebContents*`, `G` for a `TabGroupId` and `D` for a
group's visual data; pointers are compared by identity, so `P` and `C` have decidable equality
where the code compares them. A browser is named by its place in the list. -/

namespace Chromium

/-- The first element of a list for which `f` gives a result, with its place: the loops of the
lookups, which return from inside on their first hit. -/
def findSomeWithIndex {α β : Type} (f : α → Option β) : List α → Option (Nat × β)
  | [] => none
  | a :: rest =>
      match f a with
      | some b => some (0, b)
      | none => (findSomeWithIndex f rest).map fun found => (found.1 + 1, found.2)

section FindSomeWithIndex

variable {α β : Type} {f : α → Option β} {list : List α}

theorem findSomeWithIndex_eq_some_iff {index : Nat} {b : β} :
    findSomeWithIndex f list = some (index, b) ↔
      list[index]?.bind f = some b ∧ ∀ earlier < index, list[earlier]?.bind f = none := by
  induction list generalizing index with
  | nil => simp [findSomeWithIndex]
  | cons a rest ih =>
      cases index with
      | zero => cases hit : f a <;> simp [findSomeWithIndex, hit]
      | succ index =>
          rw [Nat.forall_lt_succ_left]
          cases hit : f a <;> simp [findSomeWithIndex, hit, ih]

theorem findSomeWithIndex_eq_none_iff :
    findSomeWithIndex f list = none ↔ ∀ a ∈ list, f a = none := by
  induction list with
  | nil => simp [findSomeWithIndex]
  | cons a rest ih => cases hit : f a <;> simp [findSomeWithIndex, hit, ih]

end FindSomeWithIndex

/-- What is read of a tab of a `TabStripModel`: its contents, whether it is selected and pinned,
its group, and the contents of its opener. -/
structure TabModel (C G : Type) where
  contents : C
  selected : Bool
  pinned : Bool
  group : Option G
  opener : Option C

/-- What is read of a `TabStripModel`: its tabs in order, the active index, whether it supports
groups, and the groups its group model lists, each with its visual data. -/
structure TabStripModel (C G D : Type) where
  tabs : List (TabModel C G)
  activeIndex : Int
  supportsTabGroups : Bool
  tabGroups : List (G × D)

namespace TabStripModel

variable {C G D : Type}

def kNoTab : Int := -1

def count (tabStrip : TabStripModel C G D) : Nat := tabStrip.tabs.length

/-- `GetIndexOfWebContents`: the first tab showing `contents`, or `kNoTab`. -/
def getIndexOfWebContents [DecidableEq C] (tabStrip : TabStripModel C G D) (contents : C) : Int :=
  match tabStrip.tabs.findIdx? (fun tab => tab.contents = contents) with
  | some index => index
  | none => kNoTab

end TabStripModel

/-- What is read of a `Browser`: its profile, the id of its window, its type, whether it is
closing, whether it has a window, and its tab strip. -/
structure Browser (P C G D : Type) where
  profile : P
  windowId : Int
  isTypeNormal : Bool
  isTypeDevtools : Bool
  isAttemptingToCloseBrowser : Bool
  hasWindow : Bool
  tabStripModel : TabStripModel C G D

end Chromium
