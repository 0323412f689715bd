import Chromium.OpenTab
import Chromium.TabObject

/-! `ExtensionTabUtil::OpenTab` from its `Navigate` call on: the opener it sets on the new tab
when the opener is in the same tab strip, and the tab object `CreateTabObject` makes of the new
contents with the behaviour `GetScrubTabBehavior` computes for them. `Navigate` is not under
`src/`: it is a parameter, giving the browser process it leaves, the browser
`navigate_params.browser` then points to, and the contents it inserted. The final theorems
follow one call of `OpenTab` from its parameters to the tab it returns and the browser process
it leaves, to the error it gives, or to its fault. -/

namespace Chromium

namespace TabStripModel

variable {C G D : Type}

/-- `SetOpenerOfWebContentsAt` (not under `src/`), which `CHECK`s that the index is in the tab
strip. `OpenTab` calls it only for an opener the tab strip shows, as its other `CHECK` asks. -/
def setOpenerOfWebContentsAt (tabStrip : TabStripModel C G D) (index : Int) (opener : C) :
    Option (TabStripModel C G D) := do
  let tab ← if 0 ≤ index then tabStrip.tabs[index.toNat]? else none
  pure { tabStrip with tabs := tabStrip.tabs.set index.toNat { tab with opener := some opener } }

theorem setOpenerOfWebContentsAt_eq_some_iff {tabStrip updated : TabStripModel C G D}
    {index : Int} {opener : C} :
    tabStrip.setOpenerOfWebContentsAt index opener = some updated ↔
      0 ≤ index ∧ ∃ tab, tabStrip.tabs[index.toNat]? = some tab ∧
        updated = { tabStrip with
          tabs := tabStrip.tabs.set index.toNat { tab with opener := some opener } } := by
  by_cases nonneg : 0 ≤ index
  · simp only [setOpenerOfWebContentsAt, nonneg, if_true, bind, pure, Option.bind_eq_some,
      Option.some.injEq, true_and]
    exact ⟨fun ⟨tab, found, same⟩ => ⟨tab, found, same.symm⟩,
      fun ⟨tab, found, same⟩ => ⟨tab, found, same.symm⟩⟩
  · simp [setOpenerOfWebContentsAt, nonneg]

/-- The tab `GetIndexOfWebContents` finds shows the contents. -/
theorem getElem?_getIndexOfWebContents [DecidableEq C] {tabStrip : TabStripModel C G D}
    {contents : C} (shown : 0 ≤ tabStrip.getIndexOfWebContents contents) :
    (tabStrip.tabs[(tabStrip.getIndexOfWebContents contents).toNat]?).map TabModel.contents =
      some contents := by
  unfold getIndexOfWebContents at shown ⊢
  split
  · next index found =>
      obtain ⟨bound, matched, -⟩ := List.findIdx?_eq_some_iff_getElem.1 found
      simp [List.getElem?_eq_getElem bound, of_decide_eq_true matched]
  · next missing => simp [missing, kNoTab] at shown

end TabStripModel

/-- A tab with its opener forgotten: what setting an opener leaves as it was. -/
def TabModel.withoutOpener {C G : Type} (tab : TabModel C G) : TabModel C G :=
  { tab with opener := none }

/-- What a function of a tab other than its opener reads is the same for two tabs that agree but
for their openers. -/
theorem TabModel.map_eq_of_withoutOpener {C G β : Type} (f : TabModel C G → β)
    (factors : ∀ tab, f tab.withoutOpener = f tab) {x y : Option (TabModel C G)}
    (same : x.map TabModel.withoutOpener = y.map TabModel.withoutOpener) : x.map f = y.map f := by
  simpa [Option.map_map, Function.comp_def, factors] using congrArg (Option.map f) same

namespace ExtensionTabUtil

variable {P C G D : Type}

/-- What `OpenTab` reads after `Navigate`: the browser process it leaves, the place in its list
of the browser `navigate_params.browser` points to, which `Navigate` may have changed to another
window, and `navigated_or_inserted_contents`, null in locked fullscreen mode. -/
structure Navigated (P C G D : Type) where
  process : BrowserProcess P C G D
  browser : Nat
  contents : Option C

/-- What `GetTabIdForExtensions` reads of a browser: whether it is a devtools one, and the
contents its tabs show. -/
def tabLayout (browser : Browser P C G D) : Bool × List C :=
  (browser.isTypeDevtools, browser.tabStripModel.tabs.map TabModel.contents)

theorem map_tabLayout_set {browsers : List (Browser P C G D)} {place : Nat}
    {browser updated : Browser P C G D} (listed : browsers[place]? = some browser)
    (same : tabLayout updated = tabLayout browser) :
    (browsers.set place updated).map tabLayout = browsers.map tabLayout := by
  obtain ⟨bound, rfl⟩ := List.getElem?_eq_some_iff.1 listed
  rw [List.map_set, same]
  refine List.ext_getElem? fun index => ?_
  by_cases here : place = index
  · subst here
    simp [List.getElem?_set, bound]
  · rw [List.getElem?_set_ne here]

/-- Replacing a browser's tab strip by one that differs only in openers moves no tab. -/
theorem map_tabLayout_set_tabStrip {navigated : Navigated P C G D} {browser : Browser P C G D}
    {updated : TabStripModel C G D}
    (listed : navigated.process.browserList[navigated.browser]? = some browser)
    (same : ∀ index : Nat, (updated.tabs[index]?).map TabModel.withoutOpener =
      (browser.tabStripModel.tabs[index]?).map TabModel.withoutOpener) :
    (navigated.process.browserList.set navigated.browser
        { browser with tabStripModel := updated }).map tabLayout =
      navigated.process.browserList.map tabLayout := by
  refine map_tabLayout_set listed ?_
  have contentsSame : updated.tabs.map TabModel.contents =
      browser.tabStripModel.tabs.map TabModel.contents :=
    List.ext_getElem? fun index => by
      simpa using TabModel.map_eq_of_withoutOpener TabModel.contents (fun _ => rfl) (same index)
  simp [tabLayout, contentsSame]

variable [DecidableEq C]

theorem findBrowserWithTab_map_isTypeDevtools (process : BrowserProcess P C G D) (contents : C) :
    (findBrowserWithTab process contents).map Browser.isTypeDevtools =
      ((process.browserList.map tabLayout).find? fun layout => contents ∈ layout.2).map
        Prod.fst := by
  rw [List.find?_map, Option.map_map]
  simp [findBrowserWithTab, tabLayout, Function.comp_def, List.any_eq]

/-- `GetTabIdForExtensions` reads the browser list only through `tabLayout`, so a change to a
tab that keeps every tab's contents in place, such as setting an opener, changes no tab id. -/
theorem getTabIdForExtensions_eq_of_tabLayout {process other : BrowserProcess P C G D}
    (layout : process.browserList.map tabLayout = other.browserList.map tabLayout)
    (ids : process.idForTab = other.idForTab) (contents : C) :
    getTabIdForExtensions process contents = getTabIdForExtensions other contents := by
  have devtools := findBrowserWithTab_map_isTypeDevtools process contents
  rw [layout, ← findBrowserWithTab_map_isTypeDevtools] at devtools
  unfold getTabIdForExtensions
  rw [ids]
  cases found : findBrowserWithTab process contents <;>
    cases foundOther : findBrowserWithTab other contents <;> simp_all

/-- The `if (opener)` block of `OpenTab`: the opener is set on the tab at `newIndex` only when the
tab strip shows it. -/
def setOpener (tabStrip : TabStripModel C G D) (newIndex : Int) :
    Option C → Option (TabStripModel C G D)
  | some opener =>
      if tabStrip.getIndexOfWebContents opener ≠ TabStripModel.kNoTab then
        tabStrip.setOpenerOfWebContentsAt newIndex opener
      else some tabStrip
  | none => some tabStrip

/-- Setting the opener changes nothing but the opener of the tab at `newIndex`, which becomes
the opener when the tab strip shows it. -/
theorem setOpener_eq_some {tabStrip updated : TabStripModel C G D} {newIndex : Int}
    {opener : Option C} (set : setOpener tabStrip newIndex opener = some updated) :
    updated.activeIndex = tabStrip.activeIndex ∧
      (∀ index : Nat, (updated.tabs[index]?).map TabModel.withoutOpener =
        (tabStrip.tabs[index]?).map TabModel.withoutOpener) ∧
      ∀ shown, opener = some shown → tabStrip.getIndexOfWebContents shown ≠ TabStripModel.kNoTab →
        (updated.tabs[newIndex.toNat]?).map TabModel.opener = some (some shown) := by
  cases opener with
  | none =>
      cases set
      exact ⟨rfl, fun _ => rfl, fun _ absent => nomatch absent⟩
  | some opener =>
      by_cases sameStrip : tabStrip.getIndexOfWebContents opener ≠ TabStripModel.kNoTab
      · rw [setOpener, if_pos sameStrip, TabStripModel.setOpenerOfWebContentsAt_eq_some_iff] at set
        obtain ⟨-, tab, found, rfl⟩ := set
        have bound := (List.getElem?_eq_some_iff.1 found).1
        refine ⟨rfl, fun index => ?_, fun shown given _ => ?_⟩
        · by_cases here : newIndex.toNat = index
          · subst here
            simp [List.getElem?_set, bound, found, TabModel.withoutOpener]
          · rw [List.getElem?_set_ne here]
        · cases given
          simp [List.getElem?_set, bound]
      · rw [setOpener, if_neg sameStrip, Option.some.injEq] at set
        subst set
        exact ⟨rfl, fun _ => rfl, fun shown given inStrip => absurd (by cases given; exact inStrip)
          sameStrip⟩

/-- Setting the opener keeps the group of the tab at each index. -/
theorem setOpener_exists_group_iff {tabStrip updated : TabStripModel C G D} {newIndex : Int}
    {opener : Option C} (set : setOpener tabStrip newIndex opener = some updated) (index : Nat)
    (p : Option G → Prop) :
    (∃ tab, updated.tabs[index]? = some tab ∧ p tab.group) ↔
      ∃ tab, tabStrip.tabs[index]? = some tab ∧ p tab.group := by
  have groups := TabModel.map_eq_of_withoutOpener TabModel.group (fun _ => rfl)
    ((setOpener_eq_some set).2.1 index)
  cases updatedTab : updated.tabs[index]? <;> cases originalTab : tabStrip.tabs[index]? <;>
    simp_all

/-- The opener is set without a fault when the index is that of a tab of the tab strip. -/
theorem setOpener_isSome {tabStrip : TabStripModel C G D} {newIndex : Int} (opener : Option C)
    (nonneg : 0 ≤ newIndex) (bound : newIndex.toNat < tabStrip.tabs.length) :
    (setOpener tabStrip newIndex opener).isSome := by
  cases opener with
  | none => rfl
  | some opener =>
      by_cases sameStrip : tabStrip.getIndexOfWebContents opener ≠ TabStripModel.kNoTab
      · simp [setOpener, sameStrip, TabStripModel.setOpenerOfWebContentsAt, nonneg,
          List.getElem?_eq_getElem bound]
      · simp [setOpener, sameStrip]

variable (persistentHash : G → UInt32) (origin : String → String)
  (contentsState : C → WebContentsState) (extension : Option (ExtensionPermissions String))
  (context : ContextType)

/-- `OpenTab` after a `Navigate` that inserted `contents`: the new index in the tab strip of
`navigate_params.browser`, the opener, and `CreateTabObject` with the behaviour
`GetScrubTabBehavior` gives, with the browser process the call leaves; `SetInitialFocus` changes
nothing read here. A place outside the list would be a dangling `navigate_params.browser`. -/
def openNavigatedTab (navigated : Navigated P C G D) (contents : C) (opener : Option C) :
    Option (TabObject × BrowserProcess P C G D) := do
  let browser ← navigated.process.browserList[navigated.browser]?
  let newIndex := browser.tabStripModel.getIndexOfWebContents contents
  let tabStrip ← setOpener browser.tabStripModel newIndex opener
  let process := { navigated.process with
    browserList := navigated.process.browserList.set navigated.browser
      { browser with tabStripModel := tabStrip } }
  let behavior := getScrubTabBehavior "" extension context
    ⟨process.idForTab contents, (contentsState contents).lastCommittedUrl,
      (contentsState contents).pendingEntryUrl⟩
  let object ← createTabObject process persistentHash origin contentsState contents behavior
    (some tabStrip) newIndex
  pure (object, process)

/-- The steps of `openNavigatedTab` when it returns. -/
theorem openNavigatedTab_eq_some {navigated : Navigated P C G D} {contents : C}
    {opener : Option C} {object : TabObject} {process : BrowserProcess P C G D}
    (opened : openNavigatedTab persistentHash origin contentsState extension context navigated
      contents opener = some (object, process)) :
    ∃ browser updated,
      navigated.process.browserList[navigated.browser]? = some browser ∧
      setOpener browser.tabStripModel (browser.tabStripModel.getIndexOfWebContents contents)
        opener = some updated ∧
      process = { navigated.process with
        browserList := navigated.process.browserList.set navigated.browser
          { browser with tabStripModel := updated } } ∧
      createTabObject process persistentHash origin contentsState contents
        (getScrubTabBehavior "" extension context
          ⟨process.idForTab contents, (contentsState contents).lastCommittedUrl,
            (contentsState contents).pendingEntryUrl⟩)
        (some updated) (browser.tabStripModel.getIndexOfWebContents contents) = some object := by
  simp only [openNavigatedTab, bind, Option.bind_eq_some, pure, Option.some.injEq,
    Prod.mk.injEq] at opened
  obtain ⟨browser, listed, updated, set, object, created, rfl, rfl⟩ := opened
  exact ⟨browser, updated, listed, set, rfl, created⟩

/-- `OpenTab` after `Navigate` runs without a fault exactly when the tab strip of
`navigate_params.browser` shows the contents and `CreateTabObject` is defined for the tab there:
the `CHECK` of `SetOpenerOfWebContentsAt` then holds. -/
theorem openNavigatedTab_isSome_iff (navigated : Navigated P C G D) (contents : C)
    (opener : Option C) :
    (openNavigatedTab persistentHash origin contentsState extension context navigated contents
        opener).isSome ↔
      let state := contentsState contents
      ∃ browser tab, navigated.process.browserList[navigated.browser]? = some browser ∧
        0 ≤ browser.tabStripModel.getIndexOfWebContents contents ∧
        browser.tabStripModel.tabs[(browser.tabStripModel.getIndexOfWebContents contents).toNat]? =
          some tab ∧
        (∀ group, tab.group = some group → persistentHash group ≠ 2147483648) ∧
        (state.lifecycleUnit.any LifecycleUnit.isDiscarded = true →
          state.isLoading = false ∧
            (hasValidMainFrameProcess state = false ∨ state.wasDiscarded = true)) ∧
        (state.mutedReason = .EXTENSION →
          ∃ extensionId, state.lastMuteExtensionId = some extensionId ∧ extensionId ≠ "") := by
  dsimp only
  constructor
  · intro defined
    obtain ⟨_, opened⟩ := Option.isSome_iff_exists.1 defined
    obtain ⟨browser, updated, listed, set, -, created⟩ :=
      openNavigatedTab_eq_some persistentHash origin contentsState extension context opened
    obtain ⟨readOk, dcheck, muted⟩ := (createTabObject_isSome_iff_steps _ persistentHash origin
      contentsState).1 (Option.isSome_iff_exists.2 ⟨_, created⟩)
    obtain ⟨nonneg, shown⟩ := (exists_readTab_groupId_isSome_iff persistentHash _ _).1 readOk updated rfl
    obtain ⟨tab, found, grouped⟩ := (setOpener_exists_group_iff set _
      fun group => ∀ g, group = some g → persistentHash g ≠ 2147483648).1 shown
    exact ⟨browser, tab, listed, nonneg, found, grouped,
      (getLoadingStatus_eq_kUnloaded_iff _).1 ∘ dcheck, (createMutedInfo_isSome_iff _).1 muted⟩
  · rintro ⟨browser, tab, listed, nonneg, found, grouped, dcheck, muted⟩
    obtain ⟨updated, set⟩ := Option.isSome_iff_exists.1
      (setOpener_isSome opener nonneg (List.getElem?_eq_some_iff.1 found).1)
    have shown := (setOpener_exists_group_iff set _
      fun group => ∀ g, group = some g → persistentHash g ≠ 2147483648).2 ⟨tab, found, grouped⟩
    have bindSome : ∀ (x : Option TabObject) (g : TabObject → TabObject × BrowserProcess P C G D),
        (x.bind fun object => some (g object)).isSome = x.isSome := fun x _ => by cases x <;> rfl
    simp only [openNavigatedTab, listed, set, bind, Option.some_bind, pure]
    rw [bindSome, createTabObject_isSome_iff_steps]
    dsimp only [locateTabStrip]
    rw [exists_readTab_groupId_isSome_iff, createMutedInfo_isSome_iff,
      getLoadingStatus_eq_kUnloaded_iff]
    simp only [Option.mem_def, Option.some.injEq, forall_eq']
    exact ⟨⟨nonneg, shown⟩, dcheck, muted⟩

variable (env : OpenTabEnvironment P C G D) [DecidableEq P]
  (navigate : NavigateParams P C G D → Navigated P C G D)

/-- `ExtensionTabUtil::OpenTab`, with the tab it returns and the browser process it leaves; `none`
is a fault: a window controller without a browser, the `DCHECK` of `IsKillURL`, a failed `CHECK`
of the tab strip or undefined behaviour in `CreateTabObject`. -/
def openTab (function : CallingFunction P) (params : OpenTabParams) :
    Option (Except OpenTabError (TabObject × BrowserProcess P C G D)) :=
  match (openTabNavigateParams env function params).run with
  | none => none
  | some (.error error) => some (.error error)
  | some (.ok (navigateParams, opener)) =>
      let navigated := navigate navigateParams
      match navigated.contents with
      | none => some (.error .kLockedFullscreenModeNewTabError)
      | some contents =>
          (openNavigatedTab persistentHash origin contentsState extension context navigated
            contents opener).map .ok

section OpenTab

variable {function : CallingFunction P} {params : OpenTabParams}

/-- The steps of `openTab` when it returns a tab. -/
theorem openTab_eq_ok {result : TabObject × BrowserProcess P C G D}
    (opened : openTab persistentHash origin contentsState extension context env navigate function
      params = some (.ok result)) :
    ∃ navigateParams opener contents,
      (openTabNavigateParams env function params).run = some (.ok (navigateParams, opener)) ∧
      (navigate navigateParams).contents = some contents ∧
      openNavigatedTab persistentHash origin contentsState extension context
        (navigate navigateParams) contents opener = some result := by
  unfold openTab at opened
  split at opened
  · cases opened
  · cases opened
  · next navigateParams opener prepared =>
      dsimp only at opened
      split at opened
      · cases opened
      · next contents inserted =>
          obtain ⟨_, built, found⟩ := Option.map_eq_some'.1 opened
          cases found
          exact ⟨navigateParams, opener, contents, prepared, inserted, built⟩

/-- The tab `OpenTab` returns is the contents `Navigate` inserted, at its index in the tab strip
of `navigate_params.browser`, which shows it: with the id `GetTabIdForExtensions` gives it after
the navigation, active exactly at the tab strip's active index, and with the opener `OpenTab`
resolved, by its id, when that tab strip shows the opener, which is then the new tab's opener in
the browser process it leaves. That process shows every tab where `Navigate` left it. -/
theorem openTab_returns_inserted_tab {object : TabObject} {process : BrowserProcess P C G D}
    (opened : openTab persistentHash origin contentsState extension context env navigate function
      params = some (.ok (object, process))) :
    ∃ navigateParams opener navigated contents browser,
      (openTabNavigateParams env function params).run = some (.ok (navigateParams, opener)) ∧
      navigate navigateParams = navigated ∧ navigated.contents = some contents ∧
      navigated.process.browserList[navigated.browser]? = some browser ∧
      object.index = browser.tabStripModel.getIndexOfWebContents contents ∧ 0 ≤ object.index ∧
      (browser.tabStripModel.tabs[object.index.toNat]?).map TabModel.contents = some contents ∧
      object.id = getTabIdForExtensions navigated.process contents ∧
      (object.active = true ↔ object.index = browser.tabStripModel.activeIndex) ∧
      process.idForTab = navigated.process.idForTab ∧
      process.browserList.map tabLayout = navigated.process.browserList.map tabLayout ∧
      ∀ shown, opener = some shown →
        browser.tabStripModel.getIndexOfWebContents shown ≠ TabStripModel.kNoTab →
        object.openerTabId = some (getTabIdForExtensions navigated.process shown) ∧
        ((process.browserList[navigated.browser]?).bind fun browser =>
          browser.tabStripModel.tabs[object.index.toNat]?).map TabModel.opener =
            some (some shown) := by
  obtain ⟨navigateParams, opener, contents, prepared, inserted, built⟩ :=
    openTab_eq_ok persistentHash origin contentsState extension context env navigate opened
  obtain ⟨browser, updated, listed, set, processEq, created⟩ :=
    openNavigatedTab_eq_some persistentHash origin contentsState extension context built
  obtain ⟨activeSame, tabsSame, openerSet⟩ := setOpener_eq_some set
  have layout : process.browserList.map tabLayout =
      (navigate navigateParams).process.browserList.map tabLayout := by
    rw [processEq]
    exact map_tabLayout_set_tabStrip listed tabsSame
  have sameIds := getTabIdForExtensions_eq_of_tabLayout layout (by rw [processEq])
  obtain ⟨tab, groupId, mutedInfo, info, readOk, -, -, -, -, rfl⟩ :=
    (createTabObject_eq_some_iff _ persistentHash origin contentsState).1 created
  obtain ⟨nonneg, read, readFound, rfl⟩ := readTab_some_eq_some_iff.1 readOk
  dsimp only [locateTabStrip] at nonneg readFound ⊢
  refine ⟨navigateParams, opener, _, contents, browser, prepared, rfl, inserted, listed, rfl,
    nonneg, TabStripModel.getElem?_getIndexOfWebContents nonneg, sameIds contents, ?_,
    by rw [processEq], layout, fun shown given inStrip => ?_⟩
  · simp [activeSame]
  · have openerRead := openerSet shown given inStrip
    simp only [readFound, Option.map_some', Option.some.injEq] at openerRead
    refine ⟨by simp [openerRead, sameIds], ?_⟩
    simp [processEq, List.getElem?_set, (List.getElem?_eq_some_iff.1 listed).1, readFound,
      openerRead]

/-- A `Navigate` for `sampleEnvironment` that opens tab `6` after tab `5` and makes it active. -/
def sampleNavigate (_ : NavigateParams Nat Nat Unit Unit) : Navigated Nat Nat Unit Unit :=
  ⟨{ sampleEnvironment.process with
      browserList := [⟨0, 1, true, false, false, true,
        ⟨[⟨5, false, false, none, none⟩, ⟨6, true, true, none, none⟩], 1, false, []⟩⟩] },
    0, some 6⟩

/-- A loaded tab showing `https://example.com/`. -/
def sampleContentsState (_ : Nat) : WebContentsState :=
  ⟨1, false, true, true, false, none, false, none, false, .NONE, none, false, 800, 600,
    "https://example.com/", none, "Example", none⟩

/-- The sample call opens tab `6` at index `1`, with tab `5` as its opener. -/
theorem openTab_returns_inserted_tab_of_sample :
    ∃ object process,
      openTab (fun _ => 0) id sampleContentsState none .kOther sampleEnvironment sampleNavigate
          sampleFunction sampleParams = some (.ok (object, process)) ∧
      ∃ navigateParams opener navigated contents browser,
        (openTabNavigateParams sampleEnvironment sampleFunction sampleParams).run =
          some (.ok (navigateParams, opener)) ∧
        sampleNavigate navigateParams = navigated ∧ navigated.contents = some contents ∧
        navigated.process.browserList[navigated.browser]? = some browser ∧
        object.index = browser.tabStripModel.getIndexOfWebContents contents ∧ 0 ≤ object.index ∧
        (browser.tabStripModel.tabs[object.index.toNat]?).map TabModel.contents = some contents ∧
        object.id = getTabIdForExtensions navigated.process contents ∧
        (object.active = true ↔ object.index = browser.tabStripModel.activeIndex) ∧
        process.idForTab = navigated.process.idForTab ∧
        process.browserList.map tabLayout = navigated.process.browserList.map tabLayout ∧
        ∀ shown, opener = some shown →
          browser.tabStripModel.getIndexOfWebContents shown ≠ TabStripModel.kNoTab →
          object.openerTabId = some (getTabIdForExtensions navigated.process shown) ∧
          ((process.browserList[navigated.browser]?).bind fun browser =>
            browser.tabStripModel.tabs[object.index.toNat]?).map TabModel.opener =
              some (some shown) :=
  ⟨_, _, rfl, openTab_returns_inserted_tab (fun _ => 0) id sampleContentsState none .kOther
    sampleEnvironment sampleNavigate rfl⟩

theorem openTab_eq_error_iff {error : OpenTabError} :
    openTab persistentHash origin contentsState extension context env navigate function params =
        some (.error error) ↔
      (openTabNavigateParams env function params).run = some (.error error) ∨
        error = .kLockedFullscreenModeNewTabError ∧ ∃ navigateParams opener,
          (openTabNavigateParams env function params).run = some (.ok (navigateParams, opener)) ∧
          (navigate navigateParams).contents = none := by
  unfold openTab
  split
  · next faulted => simp [faulted]
  · next failed => simp [failed]
  · next navigateParams opener prepared =>
      dsimp only
      split
      · next absent => simp [prepared, absent, eq_comm]
      · next contents inserted => simp [prepared, inserted]

/-- `OpenTab` returns `kLockedFullscreenModeNewTabError` exactly when it reached `Navigate` and
`Navigate` inserted nothing. -/
theorem openTab_eq_kLockedFullscreenModeNewTabError_iff :
    openTab persistentHash origin contentsState extension context env navigate function params =
        some (.error .kLockedFullscreenModeNewTabError) ↔
      ∃ navigateParams opener,
        (openTabNavigateParams env function params).run = some (.ok (navigateParams, opener)) ∧
        (navigate navigateParams).contents = none := by
  rw [openTab_eq_error_iff persistentHash origin contentsState extension context env navigate]
  simp [openTabNavigateParams_ne_kLockedFullscreenModeNewTabError env]

/-- `OpenTab` runs without a fault exactly when: the window controller it finds has a browser;
each URL it prepares once it has a browser and the opener, fixed up, valid and not a JavaScript
URL, is `about:blank` or `about:srcdoc` if it is an `about:` URL; and, whenever `Navigate`
inserts contents, the tab strip of `navigate_params.browser` shows them and `CreateTabObject` is
defined for the first tab there showing them. The `CHECK` of `SetOpenerOfWebContentsAt` then
always holds, and a `Navigate` that puts the contents into another tab strip makes `OpenTab`
fault. -/
theorem openTab_isSome_iff :
    (openTab persistentHash origin contentsState extension context env navigate function
        params).isSome ↔
      (∀ place, getControllerFromWindowId env.process function.currentWindow function.profile
          function.includeIncognitoInformation (params.windowId.getD kCurrentWindowId) = .ok place →
        (env.process.browserList[place]?).isSome) ∧
      (∀ selected, (selectBrowser env function params).run = some (.ok selected) →
        ∀ found, findOpener (C := C) (G := G) (D := D) env function params = .ok found →
        ∀ url, params.url = some url →
        let fixed :=
          env.services.fixupUrl (resolvePossiblyRelativeUrl env.services url function.extension).spec
        fixed.isValid = true → fixed.scheme ≠ kJavaScriptScheme → fixed.scheme = kAboutScheme →
          (isAboutBlank fixed || isAboutSrcdoc fixed) = true) ∧
      ∀ navigateParams opener contents,
        (openTabNavigateParams env function params).run = some (.ok (navigateParams, opener)) →
        (navigate navigateParams).contents = some contents →
        let navigated := navigate navigateParams
        let state := contentsState contents
        ∃ browser tab, navigated.process.browserList[navigated.browser]? = some browser ∧
          0 ≤ browser.tabStripModel.getIndexOfWebContents contents ∧
          browser.tabStripModel.tabs[(browser.tabStripModel.getIndexOfWebContents contents).toNat]? =
            some tab ∧
          (∀ group, tab.group = some group → persistentHash group ≠ 2147483648) ∧
          (state.lifecycleUnit.any LifecycleUnit.isDiscarded = true →
            state.isLoading = false ∧
              (hasValidMainFrameProcess state = false ∨ state.wasDiscarded = true)) ∧
          (state.mutedReason = .EXTENSION →
            ∃ extensionId, state.lastMuteExtensionId = some extensionId ∧ extensionId ≠ "") := by
  have beforeNavigate := (@openTabNavigateParams_isSome_iff P C G D env _ function params).trans
    (and_congr (selectBrowser_isSome_iff env) (forall₂_congr fun _ _ => forall₂_congr fun _ _ =>
      (tabUrl_isSome_iff env).trans (forall₂_congr fun _ _ => prepareUrlForNavigation_isSome_iff)))
  refine Iff.trans ?_ ((and_congr_left' beforeNavigate).trans and_assoc)
  unfold openTab
  split
  · next faulted =>
      refine iff_of_false Bool.false_ne_true fun ⟨defined, _⟩ => ?_
      rw [faulted] at defined
      cases defined
  · next failed =>
      exact iff_of_true rfl ⟨by rw [failed]; rfl, fun _ _ _ prepared => by
        cases failed.symm.trans prepared⟩
  · next navigateParams opener prepared =>
      rw [and_iff_right (by rw [prepared]; rfl)]
      dsimp only
      split
      · next absent =>
          exact iff_of_true rfl fun _ _ _ prepared' inserted => by
            cases prepared.symm.trans prepared'
            cases absent.symm.trans inserted
      · next contents inserted =>
          rw [Option.isSome_map', openNavigatedTab_isSome_iff]
          refine ⟨fun holds _ _ _ prepared' inserted' => ?_, fun all => all _ _ contents prepared
            inserted⟩
          cases prepared.symm.trans prepared'
          cases inserted.symm.trans inserted'
          exact holds

end OpenTab

end ExtensionTabUtil

end Chromium
