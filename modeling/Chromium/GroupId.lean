import Chromium.BrowserList

/-! Tab group ids of `ExtensionTabUtil`. `GetGroupId` hashes a `TabGroupId` to an `int` that
`CreateTabObject` and `CreateTabGroupObject` give to extensions and that `GetGroupById` looks
up, `-1` standing for no group. `persistentHash id` is `base::PersistentHash(id.ToString())`.
An `int` operation whose result `int` cannot hold is undefined, written `none`. -/

namespace Chromium

namespace ExtensionTabUtil

def intMin : Int := -2147483648

def intMax : Int := 2147483647

/-- `static_cast<int>` of a `uint32_t`: the same bits read in two's complement. -/
def staticCastInt (value : UInt32) : Int :=
  if value.toNat < 2147483648 then value.toNat else value.toNat - 4294967296

/-- `std::abs` on `int`, undefined at `INT_MIN`, whose negation `int` cannot hold. -/
def stdAbs (value : Int) : Option Int :=
  if value = intMin then none else some (if value < 0 then -value else value)

variable {G : Type} (persistentHash : G → UInt32)

def getGroupId (id : G) : Option Int :=
  stdAbs (staticCastInt (persistentHash id))

theorem staticCastInt_bounds (value : UInt32) :
    intMin ≤ staticCastInt value ∧ staticCastInt value ≤ intMax := by
  have below : value.toNat < 4294967296 := value.toNat_lt_size
  unfold staticCastInt intMin intMax
  split <;> omega

theorem staticCastInt_eq_intMin_iff (value : UInt32) :
    staticCastInt value = intMin ↔ value = 2147483648 := by
  have below : value.toNat < 4294967296 := value.toNat_lt_size
  have bits : value = 2147483648 ↔ value.toNat = 2147483648 :=
    ⟨fun same => same ▸ rfl, fun same => UInt32.toNat.inj same⟩
  rw [bits]
  unfold staticCastInt intMin
  split <;> omega

/-- `GetGroupId` is undefined exactly for the ids whose hash is `0x80000000`, the bits of
`INT_MIN`. -/
theorem getGroupId_eq_none_iff (id : G) :
    getGroupId persistentHash id = none ↔ persistentHash id = 2147483648 := by
  rw [getGroupId, stdAbs, ← staticCastInt_eq_intMin_iff]
  split <;> simp_all

theorem getGroupId_int_min_hash : getGroupId (fun hash : UInt32 => hash) 2147483648 = none := by
  decide

theorem getGroupId_mem_range {id : G} {value : Int}
    (defined : getGroupId persistentHash id = some value) : 0 ≤ value ∧ value ≤ intMax := by
  have bounds := staticCastInt_bounds (persistentHash id)
  unfold getGroupId stdAbs at defined
  split at defined
  · cases defined
  · simp only [Option.some.injEq] at defined
    unfold intMin intMax at *
    split at defined <;> omega

/-- `GetGroupId` is undefined exactly for the ids whose hash has the bits of `INT_MIN`, and
otherwise gives an id in `[0, INT_MAX]`. -/
theorem getGroupId_spec (id : G) :
    (getGroupId persistentHash id = none ↔ persistentHash id = 2147483648) ∧
      ∀ value, getGroupId persistentHash id = some value → 0 ≤ value ∧ value ≤ intMax :=
  ⟨getGroupId_eq_none_iff persistentHash id, fun _ => getGroupId_mem_range persistentHash⟩

/-- The `group_id` of the `Tab` that `CreateTabObject` builds, `group` being the tab's group
when it is in a tab strip that gives it one. -/
def tabObjectGroupId (group : Option G) : Option Int :=
  match group with
  | some group => getGroupId persistentHash group
  | none => some (-1)

theorem tabObjectGroupId_isSome_iff (group : Option G) :
    (tabObjectGroupId persistentHash group).isSome ↔
      ∀ id, group = some id → persistentHash id ≠ 2147483648 := by
  cases group with
  | none => simp [tabObjectGroupId]
  | some id =>
      simp only [tabObjectGroupId, Option.isSome_iff_ne_none, ne_eq, getGroupId_eq_none_iff,
        Option.some.injEq, forall_eq']

/-- `-1` marks exactly the tabs without a group: no group's id is `-1`, nor undefined as `-1`. -/
theorem tabObjectGroupId_eq_none_sentinel_iff (group : Option G) :
    tabObjectGroupId persistentHash group = some (-1) ↔ group = none := by
  cases group with
  | none => simp [tabObjectGroupId]
  | some group =>
      simp only [tabObjectGroupId, reduceCtorEq, iff_false]
      intro defined
      have := (getGroupId_mem_range persistentHash defined).1
      omega

theorem stdAbs_neg {value : Int} (inside : intMin < value ∧ value ≤ intMax) :
    stdAbs (-value) = stdAbs value := by
  unfold stdAbs intMin intMax at *
  have negatedInside : -value ≠ -2147483648 := by omega
  have valueInside : value ≠ -2147483648 := by omega
  rw [if_neg negatedInside, if_neg valueInside]
  congr 1
  split <;> split <;> omega

/-- `GetGroupId` folds the hashes `h` and `2^32 - h` onto one id, so distinct groups can share
an id even when their hashes differ. -/
theorem getGroupId_eq_of_negated_hash {id other : G}
    (negated : (persistentHash id).toNat + (persistentHash other).toNat = 4294967296) :
    getGroupId persistentHash id = getGroupId persistentHash other := by
  have below : (persistentHash other).toNat < 4294967296 := (persistentHash other).toNat_lt_size
  by_cases middle : (persistentHash id).toNat = 2147483648
  · have otherMiddle : (persistentHash other).toNat = 2147483648 := by omega
    have both : persistentHash id = 2147483648 ∧ persistentHash other = 2147483648 :=
      ⟨UInt32.toNat.inj (by rw [middle]; rfl), UInt32.toNat.inj (by rw [otherMiddle]; rfl)⟩
    rw [(getGroupId_eq_none_iff persistentHash id).2 both.1,
      (getGroupId_eq_none_iff persistentHash other).2 both.2]
  · have cast : staticCastInt (persistentHash other) = -staticCastInt (persistentHash id) := by
      unfold staticCastInt
      split <;> split <;> omega
    have notMin : staticCastInt (persistentHash id) ≠ intMin := by
      rw [Ne, staticCastInt_eq_intMin_iff]
      exact fun same => middle (by rw [same]; rfl)
    have inside := staticCastInt_bounds (persistentHash id)
    rw [getGroupId, getGroupId, cast, stdAbs_neg ⟨by omega, inside.2⟩]

theorem getGroupId_eq_of_negated_hash_one :
    (1 : UInt32).toNat + (4294967295 : UInt32).toNat = 4294967296 ∧
      getGroupId (fun hash : UInt32 => hash) 1 = getGroupId (fun hash : UInt32 => hash) 4294967295 :=
  ⟨rfl, getGroupId_eq_of_negated_hash (fun hash : UInt32 => hash) rfl⟩

/-- The outcome of `GetGroupById`: its out-parameters when it returns `true`, and what it wrote
to `error` when it returns `false`. -/
inductive GroupByIdResult (P C G D : Type) where
  | found (browser : Browser P C G D) (id : G) (visualData : D)
  | notFound (error : Option String)

def kGroupNotFoundError : String := "No group with id: *."

def replaceFirstStar (argument : List Char) : List Char → List Char
  | [] => []
  | '*' :: rest => argument ++ rest
  | c :: rest => c :: replaceFirstStar argument rest

/-- `ErrorUtils::FormatErrorMessage` with one argument (not under `src/`): the first `*` of the
format becomes the argument. -/
def formatErrorMessage (format argument : String) : String :=
  ⟨replaceFirstStar argument.data format.data⟩

theorem formatErrorMessage_kGroupNotFoundError (argument : String) :
    formatErrorMessage kGroupNotFoundError argument = "No group with id: " ++ argument ++ "." :=
  rfl

variable {P C D : Type} [DecidableEq P]

/-- The loop over one browser's groups: the first whose id is `groupId`, or `none` inside when
there is none; `none` outside when an id it computes is undefined. -/
def findTabGroup (groupId : Int) : List (G × D) → Option (Option (G × D))
  | [] => some none
  | group :: rest =>
      (getGroupId persistentHash group.1).bind fun candidate =>
        if candidate = groupId then some (some group) else findTabGroup groupId rest

/-- The loop over the browser list of `GetGroupById`. -/
def findGroupInBrowsers (groupId : Int) (profile : P) (incognitoProfile : Option P) :
    List (Browser P C G D) → Option (GroupByIdResult P C G D)
  | [] => some (.notFound (some (formatErrorMessage kGroupNotFoundError (toString groupId))))
  | browser :: rest =>
      if browser.profile = profile ∨ some browser.profile = incognitoProfile then
        if !browser.tabStripModel.supportsTabGroups then
          findGroupInBrowsers groupId profile incognitoProfile rest
        else
          (findTabGroup persistentHash groupId browser.tabStripModel.tabGroups).bind fun
            | some group => some (.found browser group.1 group.2)
            | none => findGroupInBrowsers groupId profile incognitoProfile rest
      else findGroupInBrowsers groupId profile incognitoProfile rest

/-- `GetGroupById`; `incognitoProfile` is the primary off-the-record profile when incognito groups
are included and one exists. -/
def getGroupById (groupId : Int) (profile : P) (incognitoProfile : Option P)
    (browsers : List (Browser P C G D)) : Option (GroupByIdResult P C G D) :=
  if groupId = -1 then some (.notFound none)
  else findGroupInBrowsers persistentHash groupId profile incognitoProfile browsers

variable {groupId : Int} {profile : P} {incognitoProfile : Option P}

theorem findTabGroup_sound {groups : List (G × D)} {group : G × D}
    (found : findTabGroup persistentHash groupId groups = some (some group)) :
    group ∈ groups ∧ getGroupId persistentHash group.1 = some groupId := by
  induction groups with
  | nil => cases found
  | cons head rest ih =>
      simp only [findTabGroup] at found
      cases computed : getGroupId persistentHash head.1 with
      | none => simp [computed] at found
      | some candidate =>
          simp only [computed, Option.some_bind] at found
          split at found
          · cases found
            simp_all
          · obtain ⟨member, assigned⟩ := ih found
            exact ⟨List.mem_cons_of_mem _ member, assigned⟩

theorem findGroupInBrowsers_sound {browsers : List (Browser P C G D)} {browser : Browser P C G D}
    {group : G} {data : D}
    (found : findGroupInBrowsers persistentHash groupId profile incognitoProfile browsers =
      some (.found browser group data)) :
    browser ∈ browsers ∧ (browser.profile = profile ∨ some browser.profile = incognitoProfile) ∧
      browser.tabStripModel.supportsTabGroups = true ∧
      (group, data) ∈ browser.tabStripModel.tabGroups ∧
      getGroupId persistentHash group = some groupId := by
  induction browsers with
  | nil => cases found
  | cons head rest ih =>
      have later := fun inRest => (ih inRest).imp_left (List.mem_cons_of_mem head)
      simp only [findGroupInBrowsers] at found
      split at found
      next visible =>
        split at found
        next => exact later found
        next supports =>
          cases searched : findTabGroup persistentHash groupId head.tabStripModel.tabGroups with
          | none => simp [searched] at found
          | some result =>
              rw [searched, Option.some_bind] at found
              cases result with
              | none => exact later found
              | some pair =>
                  cases found
                  obtain ⟨member, assigned⟩ := findTabGroup_sound persistentHash searched
                  exact ⟨List.mem_cons_self _ _, visible, by simpa using supports, member, assigned⟩
      next => exact later found

theorem findGroupInBrowsers_notFound {browsers : List (Browser P C G D)} {error : Option String}
    (missing : findGroupInBrowsers persistentHash groupId profile incognitoProfile browsers =
      some (.notFound error)) :
    error = some (formatErrorMessage kGroupNotFoundError (toString groupId)) := by
  induction browsers with
  | nil => cases missing; rfl
  | cons head rest ih =>
      simp only [findGroupInBrowsers] at missing
      split at missing
      next =>
        split at missing
        next => exact ih missing
        next =>
          cases searched : findTabGroup persistentHash groupId head.tabStripModel.tabGroups with
          | none => simp [searched] at missing
          | some result =>
              rw [searched, Option.some_bind] at missing
              cases result with
              | none => exact ih missing
              | some pair => cases missing
      next => exact ih missing

/-- A group that `GetGroupById` reports has the id asked for, which is not `-1`, and belongs to a
browser of the profile (or its incognito profile) whose tab strip supports groups. -/
theorem getGroupById_found_sound {browsers : List (Browser P C G D)} {browser : Browser P C G D}
    {group : G} {data : D}
    (found : getGroupById persistentHash groupId profile incognitoProfile browsers =
      some (.found browser group data)) :
    groupId ≠ -1 ∧ browser ∈ browsers ∧
      (browser.profile = profile ∨ some browser.profile = incognitoProfile) ∧
      browser.tabStripModel.supportsTabGroups = true ∧
      (group, data) ∈ browser.tabStripModel.tabGroups ∧
      getGroupId persistentHash group = some groupId := by
  unfold getGroupById at found
  split at found
  · cases found
  · exact ⟨‹_›, findGroupInBrowsers_sound persistentHash found⟩

theorem getGroupById_found_sound_second_browser :
    let browser : Browser Nat Nat Nat Unit :=
      ⟨0, 2, true, false, false, true, ⟨[], -1, true, [(5, ()), (3, ())]⟩⟩
    let browsers := [⟨1, 1, true, false, false, true, ⟨[], -1, true, [(3, ())]⟩⟩, browser]
    (3 : Int) ≠ -1 ∧ browser ∈ browsers ∧ (browser.profile = 0 ∨ some browser.profile = none) ∧
      browser.tabStripModel.supportsTabGroups = true ∧
      ((3 : Nat), ()) ∈ browser.tabStripModel.tabGroups ∧
      getGroupId (fun group : Nat => UInt32.ofNat group) 3 = some 3 :=
  getGroupById_found_sound (fun group : Nat => UInt32.ofNat group) (by rfl)

/-- On `false`, `GetGroupById` has written `No group with id: <id>.` to `error`, except for the
`-1` of a tab without a group, where it writes nothing. -/
theorem getGroupById_notFound_error {browsers : List (Browser P C G D)} {error : Option String}
    (missing : getGroupById persistentHash groupId profile incognitoProfile browsers =
      some (.notFound error)) :
    error = if groupId = -1 then none else some ("No group with id: " ++ toString groupId ++ ".") := by
  unfold getGroupById at missing
  split at missing
  · cases missing
    simp [*]
  · rw [if_neg ‹_›, findGroupInBrowsers_notFound persistentHash missing,
      formatErrorMessage_kGroupNotFoundError]

end ExtensionTabUtil

end Chromium
