import Chromium.TabLookup
import Mathlib.Data.String.Basic

/-! `ExtensionTabUtil::CreateTabObject`: the `api::tabs::Tab` an extension is given for a
`WebContents`, with `GetLoadingStatus`, `CreateMutedInfo` and `GetTabIdForExtensions` behind it,
scrubbed at the end by `ScrubTabForExtension`. What it reads of the `WebContents` and of its
helpers comes from outside this file, and a URL is its spec. The undefined `GetGroupId`, a failed
`DCHECK`, and a tab index outside the tab strip, which the tab strip's accessors check (not
under `src/`), are faults, written `none`. `last_accessed` is not modelled. -/

namespace Chromium

namespace ExtensionTabUtil

inductive TabStatus where
  | kUnloaded | kLoading | kComplete
  deriving DecidableEq, Repr

/-- `TabMutedReason` (not under `src/`), with the cases `CreateMutedInfo` tells apart. -/
inductive TabMutedReason where
  | NONE | AUDIO_INDICATOR | CONTENT_SETTING | CONTENT_SETTING_CHROME | EXTENSION
  deriving DecidableEq, Repr

inductive MutedInfoReason where
  | kUser | kExtension
  deriving DecidableEq, Repr

structure MutedInfo where
  muted : Bool
  reason : Option MutedInfoReason
  extensionId : Option String
  deriving DecidableEq, Repr

/-- What `TabLifecycleUnitExternal` tells of a tab. -/
structure LifecycleUnit where
  isDiscarded : Bool
  isAutoDiscardable : Bool
  deriving DecidableEq, Repr

/-- The favicon of a navigation entry. -/
structure Favicon where
  valid : Bool
  url : String
  deriving DecidableEq, Repr

/-- What `CreateTabObject` reads of a `WebContents` besides its place in a tab strip: the window
id `SessionTabHelper` gives, loading and process state, the `RecentlyAudibleHelper` answer if
there is a helper, the lifecycle unit if there is one, muting with the extension id of the
`LastMuteMetadata` if there is one, the profile, the size, the committed URL, the virtual URL of
the pending entry, the title and the favicon of the visible entry. -/
structure WebContentsState where
  windowIdOfTab : Int
  isLoading : Bool
  processIsReady : Bool
  processIsInitializedAndNotDead : Bool
  wasDiscarded : Bool
  recentlyAudible : Option Bool
  isCurrentlyAudible : Bool
  lifecycleUnit : Option LifecycleUnit
  isAudioMuted : Bool
  mutedReason : TabMutedReason
  lastMuteExtensionId : Option String
  isOffTheRecord : Bool
  width : Int
  height : Int
  lastCommittedUrl : String
  pendingEntryUrl : Option String
  title : String
  visibleEntryFavicon : Option Favicon
  deriving DecidableEq, Repr

/-- The `api::tabs::Tab` that `CreateTabObject` fills; `info` holds the fields scrubbing touches. -/
structure TabObject where
  id : Int
  index : Int
  windowId : Int
  status : TabStatus
  active : Bool
  selected : Bool
  highlighted : Bool
  pinned : Bool
  groupId : Int
  audible : Bool
  discarded : Bool
  autoDiscardable : Bool
  mutedInfo : MutedInfo
  incognito : Bool
  width : Int
  height : Int
  info : Tab
  openerTabId : Option Int
  deriving DecidableEq, Repr

def hasValidMainFrameProcess (state : WebContentsState) : Bool :=
  state.processIsReady && state.processIsInitializedAndNotDead

def getLoadingStatus (state : WebContentsState) : TabStatus :=
  if state.isLoading then .kLoading
  else if !hasValidMainFrameProcess state || state.wasDiscarded then .kUnloaded
  else .kComplete

theorem getLoadingStatus_eq_kUnloaded_iff (state : WebContentsState) :
    getLoadingStatus state = .kUnloaded ↔
      state.isLoading = false ∧ (hasValidMainFrameProcess state = false ∨ state.wasDiscarded = true) := by
  unfold getLoadingStatus
  cases state.isLoading <;> cases hasValidMainFrameProcess state <;> cases state.wasDiscarded <;>
    simp

/-- `CreateMutedInfo`: undefined when the reason is an extension and the `LastMuteMetadata` it
dereferences is missing, and a failed `DCHECK` when that extension id is empty. -/
def createMutedInfo (state : WebContentsState) : Option MutedInfo :=
  match state.mutedReason with
  | .NONE => some ⟨state.isAudioMuted, none, none⟩
  | .AUDIO_INDICATOR | .CONTENT_SETTING | .CONTENT_SETTING_CHROME =>
      some ⟨state.isAudioMuted, some .kUser, none⟩
  | .EXTENSION =>
      state.lastMuteExtensionId.bind fun extensionId =>
        if extensionId.isEmpty then none
        else some ⟨state.isAudioMuted, some .kExtension, some extensionId⟩

theorem createMutedInfo_isSome_iff (state : WebContentsState) :
    (createMutedInfo state).isSome ↔ (state.mutedReason = .EXTENSION →
      ∃ extensionId, state.lastMuteExtensionId = some extensionId ∧ extensionId ≠ "") := by
  unfold createMutedInfo
  cases state.mutedReason <;> cases state.lastMuteExtensionId <;> simp [String.isEmpty_iff]

/-- The committed and pending fields as `CreateTabObject` fills them, before scrubbing. -/
def tabInfo (state : WebContentsState) : Tab :=
  ⟨some state.lastCommittedUrl, state.pendingEntryUrl, some state.title,
    state.visibleEntryFavicon.bind fun favicon => if favicon.valid then some favicon.url else none⟩

/-- Scrubbing the fields `CreateTabObject` fills never faults: the committed URL is always there
to be cut to its origin. -/
theorem scrubTabForExtension_tabInfo_isSome (origin : String → String) (state : WebContentsState)
    (behavior : ScrubTabBehavior) :
    (scrubTabForExtension origin (tabInfo state) behavior).isSome := by
  unfold scrubTabForExtension
  cases behavior.committedInfo <;> simp [scrubCommittedInfo, tabInfo]

/-- The tab a non-null tab strip has at `tabIndex`, read by `IsTabSelected`, `IsTabPinned`,
`GetTabGroupForTab` and `GetOpenerOfTabAt`; an index outside the tab strip faults. -/
def readTab {C G D : Type} (tabStrip : Option (TabStripModel C G D)) (tabIndex : Int) :
    Option (Option (TabModel C G)) :=
  match tabStrip with
  | some tabStrip => if 0 ≤ tabIndex then (tabStrip.tabs[tabIndex.toNat]?).map some else none
  | none => some none

theorem readTab_some_eq_some_iff {C G D : Type} {tabStrip : TabStripModel C G D} {tabIndex : Int}
    {tab : Option (TabModel C G)} :
    readTab (some tabStrip) tabIndex = some tab ↔
      0 ≤ tabIndex ∧ ∃ read, tabStrip.tabs[tabIndex.toNat]? = some read ∧ tab = some read := by
  by_cases nonneg : 0 ≤ tabIndex
  · simp only [readTab, nonneg, if_true, Option.map_eq_some', true_and]
    exact ⟨fun ⟨read, found, same⟩ => ⟨read, found, same.symm⟩,
      fun ⟨read, found, same⟩ => ⟨read, found, same.symm⟩⟩
  · simp [readTab, nonneg]

theorem exists_readTab_groupId_isSome_iff {C G D : Type} (persistentHash : G → UInt32)
    (tabStrip : Option (TabStripModel C G D)) (tabIndex : Int) :
    (∃ tab, readTab tabStrip tabIndex = some tab ∧
        (tabObjectGroupId persistentHash (tab.bind TabModel.group)).isSome) ↔
      ∀ strip ∈ tabStrip, 0 ≤ tabIndex ∧ ∃ tab, strip.tabs[tabIndex.toNat]? = some tab ∧
        ∀ group, tab.group = some group → persistentHash group ≠ 2147483648 := by
  cases tabStrip with
  | none => simp [readTab, tabObjectGroupId]
  | some strip =>
      simp only [readTab_some_eq_some_iff, tabObjectGroupId_isSome_iff, Option.mem_def,
        Option.some.injEq, forall_eq']
      constructor
      · rintro ⟨_, ⟨nonneg, read, found, rfl⟩, grouped⟩
        exact ⟨nonneg, read, found, fun group member => grouped group member⟩
      · rintro ⟨nonneg, read, found, grouped⟩
        exact ⟨some read, ⟨nonneg, read, found, rfl⟩, fun group member => grouped group member⟩

variable {P C G D : Type} [DecidableEq C] (process : BrowserProcess P C G D)

/-- `chrome::FindBrowserWithTab` (not under `src/`): the first browser whose tab strip shows
`contents`. -/
def findBrowserWithTab (contents : C) : Option (Browser P C G D) :=
  process.browserList.find? fun browser =>
    browser.tabStripModel.tabs.any fun tab => tab.contents = contents

/-- `GetTabIdForExtensions`: `-1` for a tab of a browser that does not support tabs, a devtools
one. -/
def getTabIdForExtensions (contents : C) : Int :=
  match findBrowserWithTab process contents with
  | some browser => if browser.isTypeDevtools then -1 else process.idForTab contents
  | none => process.idForTab contents

/-- The tab strip and index `CreateTabObject` reads: the ones given, or for a null `tab_strip`
what `GetTabStripModel` finds, the index staying as given when it finds nothing. -/
def locateTabStrip (contents : C) (tabStrip : Option (TabStripModel C G D)) (tabIndex : Int) :
    Option (TabStripModel C G D) × Int :=
  match tabStrip with
  | some tabStrip => (some tabStrip, tabIndex)
  | none =>
      match getTabStripModel process contents with
      | some (place, index) => ((process.browserList[place]?).map Browser.tabStripModel, index)
      | none => (none, tabIndex)

variable (persistentHash : G → UInt32) (origin : String → String)
  (contentsState : C → WebContentsState)

def createTabObject (contents : C) (behavior : ScrubTabBehavior)
    (tabStrip : Option (TabStripModel C G D)) (tabIndex : Int) : Option TabObject := do
  let located := locateTabStrip process contents tabStrip tabIndex
  let state := contentsState contents
  let status := getLoadingStatus state
  let tab ← readTab located.1 located.2
  let active := located.1.any fun tabStrip => located.2 = tabStrip.activeIndex
  let groupId ← tabObjectGroupId persistentHash (tab.bind TabModel.group)
  let discarded := state.lifecycleUnit.any LifecycleUnit.isDiscarded
  guard (discarded = false ∨ status = .kUnloaded)
  let mutedInfo ← createMutedInfo state
  let info ← scrubTabForExtension origin (tabInfo state) behavior
  pure
    { id := getTabIdForExtensions process contents
      index := located.2
      windowId := state.windowIdOfTab
      status := status
      active := active
      selected := active
      highlighted := tab.any TabModel.selected
      pinned := tab.any TabModel.pinned
      groupId := groupId
      audible := state.recentlyAudible.getD state.isCurrentlyAudible
      discarded := discarded
      autoDiscardable := state.lifecycleUnit.all LifecycleUnit.isAutoDiscardable
      mutedInfo := mutedInfo
      incognito := state.isOffTheRecord
      width := state.width
      height := state.height
      info := info
      openerTabId := (tab.bind TabModel.opener).map (getTabIdForExtensions process) }

section CreateTabObject

variable {contents : C} {behavior : ScrubTabBehavior} {tabStrip : Option (TabStripModel C G D)}
  {tabIndex : Int} {object : TabObject}

/-- What `CreateTabObject` has read and checked when it returns a tab. -/
theorem createTabObject_eq_some_iff :
    createTabObject process persistentHash origin contentsState contents behavior tabStrip tabIndex =
        some object ↔
      let located := locateTabStrip process contents tabStrip tabIndex
      let state := contentsState contents
      ∃ tab groupId mutedInfo info,
        readTab located.1 located.2 = some tab ∧
        tabObjectGroupId persistentHash (tab.bind TabModel.group) = some groupId ∧
        (state.lifecycleUnit.any LifecycleUnit.isDiscarded = false ∨
          getLoadingStatus state = .kUnloaded) ∧
        createMutedInfo state = some mutedInfo ∧
        scrubTabForExtension origin (tabInfo state) behavior = some info ∧
        object =
          { id := getTabIdForExtensions process contents
            index := located.2
            windowId := state.windowIdOfTab
            status := getLoadingStatus state
            active := located.1.any fun tabStrip => located.2 = tabStrip.activeIndex
            selected := located.1.any fun tabStrip => located.2 = tabStrip.activeIndex
            highlighted := tab.any TabModel.selected
            pinned := tab.any TabModel.pinned
            groupId := groupId
            audible := state.recentlyAudible.getD state.isCurrentlyAudible
            discarded := state.lifecycleUnit.any LifecycleUnit.isDiscarded
            autoDiscardable := state.lifecycleUnit.all LifecycleUnit.isAutoDiscardable
            mutedInfo := mutedInfo
            incognito := state.isOffTheRecord
            width := state.width
            height := state.height
            info := info
            openerTabId := (tab.bind TabModel.opener).map (getTabIdForExtensions process) } := by
  unfold createTabObject
  simp only [bind, Option.bind_eq_some, Option.guard_eq_some', exists_const, pure,
    Option.some.injEq]
  constructor
  · rintro ⟨tab, readOk, groupId, groupOk, dcheck, mutedInfo, mutedOk, info, infoOk, rfl⟩
    exact ⟨tab, groupId, mutedInfo, info, readOk, groupOk, dcheck, mutedOk, infoOk, rfl⟩
  · rintro ⟨tab, groupId, mutedInfo, info, readOk, groupOk, dcheck, mutedOk, infoOk, rfl⟩
    exact ⟨tab, readOk, groupId, groupOk, dcheck, mutedInfo, mutedOk, info, infoOk, rfl⟩

/-- `CreateTabObject` is defined exactly when each of its steps is: reading the tab and its group
id, the `DCHECK` on a discarded tab's status, and `CreateMutedInfo`. -/
theorem createTabObject_isSome_iff_steps :
    (createTabObject process persistentHash origin contentsState contents behavior tabStrip
        tabIndex).isSome ↔
      let located := locateTabStrip process contents tabStrip tabIndex
      let state := contentsState contents
      (∃ tab, readTab located.1 located.2 = some tab ∧
        (tabObjectGroupId persistentHash (tab.bind TabModel.group)).isSome) ∧
      (state.lifecycleUnit.any LifecycleUnit.isDiscarded = true →
        getLoadingStatus state = .kUnloaded) ∧
      (createMutedInfo state).isSome := by
  rw [Option.isSome_iff_exists]
  constructor
  · rintro ⟨_, built⟩
    obtain ⟨tab, groupId, mutedInfo, info, readOk, groupOk, dcheck, mutedOk, -, -⟩ :=
      (createTabObject_eq_some_iff process persistentHash origin contentsState).1 built
    refine ⟨⟨tab, readOk, by simp [groupOk]⟩, fun discarded => ?_, by simp [mutedOk]⟩
    exact dcheck.resolve_left (by simp [discarded])
  · rintro ⟨⟨tab, readOk, grouped⟩, dcheck, muted⟩
    obtain ⟨groupId, groupOk⟩ := Option.isSome_iff_exists.1 grouped
    obtain ⟨mutedInfo, mutedOk⟩ := Option.isSome_iff_exists.1 muted
    obtain ⟨info, infoOk⟩ := Option.isSome_iff_exists.1
      (scrubTabForExtension_tabInfo_isSome origin (contentsState contents) behavior)
    exact ⟨_, (createTabObject_eq_some_iff process persistentHash origin contentsState).2
      ⟨tab, groupId, mutedInfo, info, readOk, groupOk,
        (Bool.eq_false_or_eq_true _).symm.imp_right dcheck, mutedOk, infoOk, rfl⟩⟩

/-- `CreateTabObject` is defined exactly when the tab strip it reads, if any, has a tab at the
index whose group, if any, does not hash to the bits of `INT_MIN`; a discarded tab's status is
`kUnloaded`, which takes a tab that is not loading and whose main frame process is not ready or
that the `WebContents` itself calls discarded; and a tab muted by an extension has a non-empty
extension id on record. -/
theorem createTabObject_isSome_iff :
    (createTabObject process persistentHash origin contentsState contents behavior tabStrip
        tabIndex).isSome ↔
      let located := locateTabStrip process contents tabStrip tabIndex
      let state := contentsState contents
      (∀ strip ∈ located.1, 0 ≤ located.2 ∧ ∃ tab, strip.tabs[located.2.toNat]? = some tab ∧
        ∀ group, tab.group = some group → persistentHash group ≠ 2147483648) ∧
      (state.lifecycleUnit.any LifecycleUnit.isDiscarded = true →
        state.isLoading = false ∧
          (hasValidMainFrameProcess state = false ∨ state.wasDiscarded = true)) ∧
      (state.mutedReason = .EXTENSION →
        ∃ extensionId, state.lastMuteExtensionId = some extensionId ∧ extensionId ≠ "") := by
  rw [createTabObject_isSome_iff_steps]
  dsimp only
  rw [exists_readTab_groupId_isSome_iff, createMutedInfo_isSome_iff,
    getLoadingStatus_eq_kUnloaded_iff]

/-- Given a tab strip, `CreateTabObject` reports the index it was given; the tab as active and
as selected exactly when that index is the tab strip's active one; the tab's selection, pinning
and opener's id; its group's id, `-1` without a group; and a discarded tab only as unloaded. -/
theorem createTabObject_reads_tab_strip {strip : TabStripModel C G D}
    (built : createTabObject process persistentHash origin contentsState contents behavior
      (some strip) tabIndex = some object) :
    object.id = getTabIdForExtensions process contents ∧ object.index = tabIndex ∧
      object.selected = object.active ∧ (object.active = true ↔ tabIndex = strip.activeIndex) ∧
      (∃ tab, 0 ≤ tabIndex ∧ strip.tabs[tabIndex.toNat]? = some tab ∧
        object.highlighted = tab.selected ∧ object.pinned = tab.pinned ∧
        (tab.group = none → object.groupId = -1) ∧
        (∀ group, tab.group = some group → getGroupId persistentHash group = some object.groupId) ∧
        object.openerTabId = tab.opener.map (getTabIdForExtensions process)) ∧
      (object.discarded = true → object.status = .kUnloaded) := by
  obtain ⟨tab, groupId, mutedInfo, info, readOk, groupOk, dcheck, -, -, rfl⟩ :=
    (createTabObject_eq_some_iff process persistentHash origin contentsState).1 built
  obtain ⟨nonneg, read, found, rfl⟩ := readTab_some_eq_some_iff.1 readOk
  have groupOk : tabObjectGroupId persistentHash read.group = some groupId := groupOk
  refine ⟨rfl, rfl, rfl, by simp [locateTabStrip],
    ⟨read, nonneg, found, rfl, rfl, fun ungrouped => ?_, fun group grouped => ?_, rfl⟩,
    fun discarded => dcheck.resolve_left fun kept => Bool.noConfusion (discarded.symm.trans kept)⟩
  · simpa [ungrouped, tabObjectGroupId] using groupOk.symm
  · simpa [grouped, tabObjectGroupId] using groupOk

theorem createTabObject_eq_of_locateTabStrip_eq {otherStrip : Option (TabStripModel C G D)}
    {otherIndex : Int}
    (same : locateTabStrip process contents tabStrip tabIndex =
      locateTabStrip process contents otherStrip otherIndex) :
    createTabObject process persistentHash origin contentsState contents behavior tabStrip tabIndex =
      createTabObject process persistentHash origin contentsState contents behavior otherStrip
        otherIndex := by
  simp only [createTabObject, same]

/-- For a null tab strip, `CreateTabObject` reads the first browser whose tab strip shows the
contents, at the contents' index there. When no tab strip shows it, the tab is reported at the
index given, neither active, selected, highlighted nor pinned, with group id `-1` and no
opener. -/
theorem createTabObject_of_null_tab_strip :
    (∀ place index, getTabStripModel process contents = some (place, index) →
      ∃ browser, process.browserList[place]? = some browser ∧
        createTabObject process persistentHash origin contentsState contents behavior none
            tabIndex =
          createTabObject process persistentHash origin contentsState contents behavior
            (some browser.tabStripModel) index) ∧
    (getTabStripModel process contents = none → ∀ object,
      createTabObject process persistentHash origin contentsState contents behavior none tabIndex =
          some object →
        object.index = tabIndex ∧ object.active = false ∧ object.selected = false ∧
          object.highlighted = false ∧ object.pinned = false ∧ object.groupId = -1 ∧
          object.openerTabId = none) := by
  refine ⟨fun place index found => ?_, fun missing object built => ?_⟩
  · obtain ⟨listed, -⟩ := findSomeWithIndex_eq_some_iff.1 found
    obtain ⟨browser, placed, -⟩ := Option.bind_eq_some.1 listed
    refine ⟨browser, placed, createTabObject_eq_of_locateTabStrip_eq process persistentHash origin
      contentsState ?_⟩
    simp [locateTabStrip, found, placed]
  · obtain ⟨tab, groupId, mutedInfo, info, readOk, groupOk, -, -, -, rfl⟩ :=
      (createTabObject_eq_some_iff process persistentHash origin contentsState).1 built
    simp only [locateTabStrip, missing, readTab, Option.some.injEq] at readOk groupOk ⊢
    subst readOk
    simp only [Option.none_bind, tabObjectGroupId, Option.some.injEq] at groupOk
    simp [groupOk]

/-- With the behaviour `GetScrubTabBehavior` computes for the contents, as `OpenTab` passes it,
the tab gives the committed URL, the title and the favicon exactly when the caller may see the
committed URL, and the pending URL exactly when it may see the pending one. -/
theorem createTabObject_info_visible (extension : Option (ExtensionPermissions String))
    (context : ContextType)
    (built : createTabObject process persistentHash origin contentsState contents
      (getScrubTabBehavior "" extension context
        ⟨process.idForTab contents, (contentsState contents).lastCommittedUrl,
          (contentsState contents).pendingEntryUrl⟩) tabStrip tabIndex = some object) :
    let state := contentsState contents
    let visible := MaySee extension context (process.idForTab contents)
    object.info =
      { url := if visible state.lastCommittedUrl then some state.lastCommittedUrl else none
        pendingUrl :=
          if visible (state.pendingEntryUrl.getD "") then state.pendingEntryUrl else none
        title := if visible state.lastCommittedUrl then some state.title else none
        favIconUrl :=
          if visible state.lastCommittedUrl then (tabInfo state).favIconUrl else none } := by
  intro state visible
  obtain ⟨_, _, _, info, -, -, -, -, scrubbed, rfl⟩ :=
    (createTabObject_eq_some_iff process persistentHash origin contentsState).1 built
  rw [scrubTabForExtension_eq origin _ _ (getScrubTabBehaviorImpl_ne_urlToOrigin _ _ _ _)
    (getScrubTabBehaviorImpl_ne_urlToOrigin _ _ _ _), Option.some.injEq] at scrubbed
  subst scrubbed
  simp only [getScrubTabBehavior, getScrubTabBehaviorImpl_eq]
  by_cases seen : visible state.lastCommittedUrl <;>
    by_cases pendingSeen : visible (state.pendingEntryUrl.getD "") <;>
    simp_all [visible, state, tabInfo]

/-- An extension with host access to `https://a/` only sees the committed URL, not the pending
one. -/
theorem createTabObject_info_visible_for_host_access :
    let strip : TabStripModel Nat Nat Unit := ⟨[⟨5, true, false, none, none⟩], 0, true, []⟩
    let process : BrowserProcess Nat Nat Nat Unit :=
      ⟨[⟨0, 1, true, false, false, true, strip⟩], [], false, fun contents => contents + 100,
        fun _ => none, fun _ _ => false⟩
    let state : WebContentsState := ⟨9, true, true, true, false, some true, false, none, false,
      .NONE, none, false, 800, 600, "https://a/", some "https://b/", "A", some ⟨true, "icon"⟩⟩
    let extension : Option (ExtensionPermissions String) :=
      some ⟨false, fun _ => false, fun url => url == "https://a/"⟩
    ∃ object, createTabObject process UInt32.ofNat id (fun _ => state) 5
        (getScrubTabBehavior "" extension .kOther
          ⟨process.idForTab 5, state.lastCommittedUrl, state.pendingEntryUrl⟩) none 0 = some object ∧
      object.info =
        { url := if MaySee extension .kOther (process.idForTab 5) state.lastCommittedUrl then
            some state.lastCommittedUrl else none
          pendingUrl := if MaySee extension .kOther (process.idForTab 5)
            (state.pendingEntryUrl.getD "") then state.pendingEntryUrl else none
          title := if MaySee extension .kOther (process.idForTab 5) state.lastCommittedUrl then
            some state.title else none
          favIconUrl := if MaySee extension .kOther (process.idForTab 5) state.lastCommittedUrl then
            (tabInfo state).favIconUrl else none } := by
  intro strip process state extension
  exact ⟨_, rfl, @createTabObject_info_visible _ _ _ _ _ process UInt32.ofNat id (fun _ => state)
    5 none 0 _ extension .kOther rfl⟩

end CreateTabObject

end ExtensionTabUtil

end Chromium
