import Chromium.Navigation
import Chromium.TabLookup

/-! `ExtensionTabUtil::OpenTab` up to the `Navigate` call it makes, and the opener it sets after.
It picks a browser (the window asked for, or a new one, or a tabbed one when the one found is
closing), resolves the opener tab, prepares the URL, moves an extension page out of an
incognito browser when the extension is not split, and clamps the index. Browser creation,
`FindTabbedBrowser` and the new tab page come from outside this file. Steps that can fault as
well as fail are `ExceptT OpenTabError Option`; those that can only fail are `Except`. -/

namespace Chromium

namespace ExtensionTabUtil

/-- The parameters of `OpenTab` that it reads. -/
structure OpenTabParams where
  windowId : Option Int
  openerTabId : Option Int
  url : Option String
  active : Option Bool
  pinned : Option Bool
  index : Option Int
  createBrowserIfNeeded : Bool

/-- What `OpenTab` reads of the calling `ExtensionFunction`: its profile, whether it may see
incognito, its extension and whether that extension runs in split incognito mode, and the window
`GetCurrentWindowController` gives. -/
structure CallingFunction (P : Type) where
  profile : P
  includeIncognitoInformation : Bool
  extension : Option NavigatingExtension
  isSplitMode : Bool
  currentWindow : Option Nat

/-- What `OpenTab` asks of the browser process beyond the lookups: `GURL(kChromeUINewTabURL)`,
`IsOffTheRecord` and `GetOriginalProfile` of a profile, `chrome::FindTabbedBrowser`, whether
`Browser::GetCreationStatusForProfile` is `kOk`, and the browser `Browser::Create` makes for
`TYPE_NORMAL`, which is of the profile, normal, and has a window. -/
structure OpenTabEnvironment (P C G D : Type) where
  process : BrowserProcess P C G D
  services : UrlServices
  newTabUrl : Gurl
  isOffTheRecord : P → Bool
  getOriginalProfile : P → P
  findTabbedBrowser : P → Bool → Option Nat
  creationStatusOk : P → Bool
  create : P → Browser P C G D
  create_normal : ∀ profile, (create profile).profile = profile ∧
    (create profile).isTypeNormal = true ∧ (create profile).hasWindow = true

/-- A `Browser*` as `OpenTab` holds it: the browser, and its place in the `BrowserList` unless
`OpenTab` created it. -/
structure BrowserHandle (P C G D : Type) where
  place : Option Nat
  browser : Browser P C G D

/-- The errors `OpenTab` returns; `tabNotFound` is `kTabNotFoundError` with the id, and
`openerInAnotherWindow` is "Tab opener must be in the same window as the updated tab.". -/
inductive OpenTabError where
  | kNoCurrentWindowError
  | windowNotFound (windowId : Int)
  | kBrowserWindowNotAllowed
  | tabNotFound (tabId : Int)
  | navigation (error : NavigationError)
  | openerInAnotherWindow
  | kLockedFullscreenModeNewTabError
  deriving DecidableEq, Repr

/-- The text `GetControllerFromWindowID` wrote, as `OpenTab` returns it. -/
def OpenTabError.ofWindowError : WindowError → OpenTabError
  | .kNoCurrentWindowError => .kNoCurrentWindowError
  | .windowNotFound windowId => .windowNotFound windowId

inductive WindowOpenDisposition where
  | NEW_FOREGROUND_TAB | NEW_BACKGROUND_TAB
  deriving DecidableEq, Repr

/-- `AddTabTypes` (not under `src/`). -/
def ADD_NONE : Nat := 0

def ADD_ACTIVE : Nat := 1

def ADD_PINNED : Nat := 2

def ADD_FORCE_INDEX : Nat := 4

/-- `extensions::kExtensionScheme` (not under `src/`). -/
def kExtensionScheme : String := "chrome-extension"

/-- The fields of the `NavigateParams` that `OpenTab` sets. -/
structure NavigateParams (P C G D : Type) where
  browser : BrowserHandle P C G D
  url : Gurl
  disposition : WindowOpenDisposition
  tabstripIndex : Int
  userGesture : Bool
  tabstripAddTypes : Nat

/-- `std::clamp(value, low, high)`. -/
def stdClamp (value low high : Int) : Int :=
  if value < low then low else if high < value then high else value

theorem stdClamp_mem (value : Int) {low high : Int} (ordered : low ≤ high) :
    low ≤ stdClamp value low high ∧ stdClamp value low high ≤ high ∧
      (low ≤ value → value ≤ high → stdClamp value low high = value) := by
  unfold stdClamp
  split_ifs <;> omega

variable {P C G D : Type} (env : OpenTabEnvironment P C G D)

/-- The browser at `place` of the list; a place outside it stands for no browser. -/
def listedBrowser (place : Nat) : Option (BrowserHandle P C G D) :=
  (env.process.browserList[place]?).map fun browser => ⟨some place, browser⟩

/-- `CreateBrowser`. -/
def createBrowser (profile : P) : Option (Browser P C G D) :=
  if env.creationStatusOk profile then some (env.create profile) else none

/-- `CreateAndShowBrowser`. -/
def createAndShowBrowser (profile : P) : Except OpenTabError (Browser P C G D) :=
  match createBrowser env profile with
  | some browser => .ok browser
  | none => .error .kBrowserWindowNotAllowed

/-- The URL of the new tab: the new tab page, or what `PrepareURLForNavigation` makes of
`params.url`. -/
def tabUrl (function : CallingFunction P) (params : OpenTabParams) :
    ExceptT OpenTabError Option Gurl :=
  match params.url with
  | some url => ExceptT.adapt .navigation (prepareUrlForNavigation env.services url function.extension)
  | none => pure env.newTabUrl

section TabUrl

variable {function : CallingFunction P} {params : OpenTabParams}

theorem tabUrl_eq_navigation_error {error : NavigationError} :
    (tabUrl env function params).run = some (.error (.navigation error)) ↔ ∃ url,
      params.url = some url ∧
        (prepareUrlForNavigation env.services url function.extension).run = some (.error error) := by
  unfold tabUrl
  split
  · next url given =>
      simp only [exceptT_run_adapt, Option.map_eq_some', given, Option.some.injEq, exists_eq_left']
      constructor
      · rintro ⟨result, prepared, mapped⟩
        cases result <;> cases mapped
        exact prepared
      · exact fun prepared => ⟨_, prepared, rfl⟩
  · next absent => simp [absent]

theorem tabUrl_error {error : OpenTabError}
    (refused : (tabUrl env function params).run = some (.error error)) :
    ∃ navigation, error = .navigation navigation := by
  unfold tabUrl at refused
  split at refused
  · next url _ =>
      rw [exceptT_run_adapt, Option.map_eq_some'] at refused
      obtain ⟨prepared, -, mapped⟩ := refused
      cases prepared <;> cases mapped
      exact ⟨_, rfl⟩
  · cases refused

/-- Only `PrepareURLForNavigation` makes the URL step fault. -/
theorem tabUrl_isSome_iff :
    (tabUrl env function params).run.isSome ↔ ∀ url, params.url = some url →
      (prepareUrlForNavigation env.services url function.extension).run.isSome := by
  unfold tabUrl
  split
  · next url given =>
      simp only [exceptT_run_adapt, Option.isSome_map', given, Option.some.injEq, forall_eq']
  · next absent => simp [absent]

end TabUrl

/-- The fallback to a tabbed browser of the original profile for an extension URL in an
incognito browser when the extension does not run in split mode. -/
def leaveIncognito (function : CallingFunction P) (url : Gurl) (browser : BrowserHandle P C G D) :
    Except OpenTabError (BrowserHandle P C G D) :=
  if url.scheme = kExtensionScheme ∧ (function.extension.isNone ∨ !function.isSplitMode) ∧
      env.isOffTheRecord browser.browser.profile then
    let originalProfile := env.getOriginalProfile browser.browser.profile
    match (env.findTabbedBrowser originalProfile false).bind (listedBrowser env) with
    | some tabbed => .ok tabbed
    | none =>
        match createBrowser env originalProfile with
        | some created => .ok ⟨none, created⟩
        | none => .error .kBrowserWindowNotAllowed
  else .ok browser

theorem leaveIncognito_error {function : CallingFunction P} {url : Gurl}
    {browser : BrowserHandle P C G D} {error : OpenTabError}
    (refused : leaveIncognito env function url browser = .error error) :
    error = .kBrowserWindowNotAllowed := by
  unfold leaveIncognito at refused
  split at refused
  · dsimp only at refused
    split at refused
    · cases refused
    · split at refused
      · cases refused
      · cases refused
        rfl
  · cases refused

theorem leaveIncognito_ne_navigation {function : CallingFunction P} {url : Gurl}
    {browser : BrowserHandle P C G D} (error : NavigationError) :
    leaveIncognito env function url browser ≠ .error (.navigation error) :=
  fun refused => by cases leaveIncognito_error env refused

variable [DecidableEq P]

/-- The browser of the window asked for, `none` (a null `Browser*`) for a window controller
without one, a new one when there is no window and `create_browser_if_needed` is set, or the error
`GetControllerFromWindowID` wrote. -/
def windowBrowser (function : CallingFunction P) (params : OpenTabParams) :
    Except OpenTabError (Option (BrowserHandle P C G D)) :=
  match getControllerFromWindowId env.process function.currentWindow function.profile
      function.includeIncognitoInformation (params.windowId.getD kCurrentWindowId) with
  | .ok place => .ok (listedBrowser env place)
  | .error error =>
      if !params.createBrowserIfNeeded then .error (.ofWindowError error)
      else (createAndShowBrowser env function.profile).map fun created => some ⟨none, created⟩

/-- The browser `OpenTab` settles on before the opener: a tabbed browser instead of a closing one
that is not normal, and it must have a window. A window controller without a browser leaves
`browser` null, and `browser->is_type_normal()` then dereferences it. -/
def selectBrowser (function : CallingFunction P) (params : OpenTabParams) :
    ExceptT OpenTabError Option (BrowserHandle P C G D) := do
  let some handle ← liftExcept (windowBrowser env function params) | ExceptT.lift none
  let browser :=
    if !handle.browser.isTypeNormal && handle.browser.isAttemptingToCloseBrowser then
      (env.findTabbedBrowser function.profile function.includeIncognitoInformation).bind
        (listedBrowser env)
    else some handle
  match browser with
  | some handle => if !handle.browser.hasWindow then throw .kNoCurrentWindowError else pure handle
  | none => throw .kNoCurrentWindowError

section SelectBrowser

variable {function : CallingFunction P} {params : OpenTabParams}

theorem windowBrowser_error {error : OpenTabError}
    (refused : windowBrowser env function params = .error error) :
    error = .kNoCurrentWindowError ∨ error = .kBrowserWindowNotAllowed ∨
      ∃ windowId, error = .windowNotFound windowId := by
  unfold windowBrowser createAndShowBrowser at refused
  split at refused
  · cases refused
  · next windowError _ =>
      split at refused
      · cases windowError <;> cases refused <;> simp [OpenTabError.ofWindowError]
      · split at refused <;> cases refused
        simp

/-- `GetControllerFromWindowID` found a window exactly when `windowBrowser` gives a place of it;
its browser is null exactly when no browser of the list is at that place. -/
theorem windowBrowser_eq_ok_none_iff :
    windowBrowser env function params = .ok none ↔ ∃ place,
      getControllerFromWindowId env.process function.currentWindow function.profile
          function.includeIncognitoInformation (params.windowId.getD kCurrentWindowId) = .ok place ∧
        env.process.browserList[place]? = none := by
  unfold windowBrowser createAndShowBrowser
  split
  · next place found => simp [listedBrowser, found]
  · next windowError found =>
      simp only [found, reduceCtorEq, false_and, exists_false, iff_false]
      split
      · exact fun refused => nomatch refused
      · split <;> exact fun created => nomatch created

theorem selectBrowser_error {error : OpenTabError}
    (refused : (selectBrowser env function params).run = some (.error error)) :
    error = .kNoCurrentWindowError ∨ error = .kBrowserWindowNotAllowed ∨
      ∃ windowId, error = .windowNotFound windowId := by
  unfold selectBrowser at refused
  rw [exceptT_run_bind_eq_error, exceptT_run_liftExcept] at refused
  rcases refused with window | ⟨browser, -, rest⟩
  · exact windowBrowser_error env (Option.some.inj window)
  · split at rest
    · dsimp only at rest
      split at rest
      · split at rest <;> cases rest
        exact .inl rfl
      · cases rest
        exact .inl rfl
    · cases rest

/-- The browser step faults exactly on a window controller without a browser. -/
theorem selectBrowser_isSome_iff :
    (selectBrowser env function params).run.isSome ↔ ∀ place,
      getControllerFromWindowId env.process function.currentWindow function.profile
          function.includeIncognitoInformation (params.windowId.getD kCurrentWindowId) = .ok place →
        (env.process.browserList[place]?).isSome := by
  unfold selectBrowser
  rw [exceptT_run_bind_isSome, exceptT_run_liftExcept]
  constructor
  · rintro ⟨-, selected⟩ place found
    rw [← Option.ne_none_iff_isSome]
    intro absent
    cases selected none (congrArg some ((windowBrowser_eq_ok_none_iff env).2 ⟨place, found, absent⟩))
  · refine fun listed => ⟨rfl, fun browser window => ?_⟩
    cases browser with
    | none =>
        obtain ⟨place, found, absent⟩ := (windowBrowser_eq_ok_none_iff env).1 (Option.some.inj window)
        have shown := listed place found
        rw [absent] at shown
        cases shown
    | some handle =>
        dsimp only
        split
        · split <;> rfl
        · rfl

end SelectBrowser

/-- The opener lookup: the browser `GetTabById` wrote, if any, and the opener's contents. -/
def findOpener (function : CallingFunction P) (params : OpenTabParams) :
    Except OpenTabError (Option Nat × Option C) :=
  match params.openerTabId with
  | some openerTabId =>
      let result := getTabById env.process openerTabId (some function.profile)
        function.includeIncognitoInformation ⟨some none, none, some none, none⟩
      if !result.1 then .error (.tabNotFound openerTabId)
      else .ok (result.2.browser.join, result.2.contents.join)
  | none => .ok (none, none)

theorem findOpener_error {function : CallingFunction P} {params : OpenTabParams}
    {error : OpenTabError}
    (refused : findOpener (C := C) (G := G) (D := D) env function params = .error error) :
    ∃ openerTabId, error = .tabNotFound openerTabId := by
  unfold findOpener at refused
  split at refused
  · dsimp only at refused
    split at refused
    · cases refused
      exact ⟨_, rfl⟩
    · cases refused
  · cases refused

theorem findOpener_ne_navigation {function : CallingFunction P} {params : OpenTabParams}
    (error : NavigationError) :
    findOpener (C := C) (G := G) (D := D) env function params ≠ .error (.navigation error) :=
  fun refused => by
    obtain ⟨_, wrong⟩ := findOpener_error env refused
    cases wrong

/-- `OpenTab` up to `Navigate`: the parameters it passes, with the opener it will set. -/
def openTabNavigateParams (function : CallingFunction P) (params : OpenTabParams) :
    ExceptT OpenTabError Option (NavigateParams P C G D × Option C) := do
  let browser ← selectBrowser env function params
  let (openerBrowser, opener) ← liftExcept (findOpener env function params)
  let url ← tabUrl env function params
  let active := params.active.getD true
  let pinned := params.pinned.getD false
  let browser ← liftExcept (leaveIncognito env function url browser)
  if openerBrowser.isSome ∧ browser.place ≠ openerBrowser then throw .openerInAnotherWindow
  else
    let index := stdClamp (params.index.getD (-1)) (-1) browser.browser.tabStripModel.count
    let addTypes := (if active then ADD_ACTIVE else ADD_NONE) ||| ADD_FORCE_INDEX |||
      (if pinned then ADD_PINNED else ADD_NONE)
    pure (⟨browser, url,
      if active then .NEW_FOREGROUND_TAB else .NEW_BACKGROUND_TAB, index, false, addTypes⟩, opener)

section NavigateParams

variable {function : CallingFunction P} {params : OpenTabParams}

/-- No step before `Navigate` returns `kLockedFullscreenModeNewTabError`. -/
theorem openTabNavigateParams_ne_kLockedFullscreenModeNewTabError :
    (openTabNavigateParams (C := C) (G := G) (D := D) env function params).run ≠
      some (.error .kLockedFullscreenModeNewTabError) := by
  intro refused
  simp only [openTabNavigateParams, exceptT_run_bind_eq_error, exceptT_run_liftExcept,
    Option.some.injEq] at refused
  rcases refused with selectErr | ⟨_, -, refused⟩
  · rcases selectBrowser_error env selectErr with wrong | wrong | ⟨_, wrong⟩ <;> cases wrong
  rcases refused with openerErr | ⟨_, -, refused⟩
  · obtain ⟨_, wrong⟩ := findOpener_error env openerErr
    cases wrong
  rcases refused with urlErr | ⟨_, -, refused⟩
  · obtain ⟨_, wrong⟩ := tabUrl_error env urlErr
    cases wrong
  rcases refused with leaveErr | ⟨_, -, refused⟩
  · cases leaveIncognito_error env leaveErr
  split at refused <;> cases refused

/-- Before `Navigate`, `OpenTab` faults only in the browser step, on a window controller without
a browser, and in the URL step, on `IsKillURL`'s `DCHECK`; the URL step is only reached once the
browser is selected and the opener found. -/
theorem openTabNavigateParams_isSome_iff :
    (openTabNavigateParams (C := C) (G := G) (D := D) env function params).run.isSome ↔
      (selectBrowser env function params).run.isSome ∧ ∀ selected,
        (selectBrowser env function params).run = some (.ok selected) → ∀ found,
        findOpener (C := C) (G := G) (D := D) env function params = .ok found →
        (tabUrl env function params).run.isSome := by
  simp only [openTabNavigateParams, exceptT_run_bind_isSome, exceptT_run_liftExcept,
    Option.isSome_some, Option.some.injEq, true_and]
  refine and_congr_right fun _ => forall₂_congr fun _ _ => forall₂_congr fun _ _ =>
    ⟨fun defined => defined.1, fun defined => ⟨defined, fun _ _ _ _ => ?_⟩⟩
  split <;> rfl

end NavigateParams

/-- A profile `0` whose only browser, in window `1`, is normal and shows tab `5`; new windows can
be created, no profile is off the record, and every URL text parses as a valid `https` URL. -/
def sampleEnvironment : OpenTabEnvironment Nat Nat Unit Unit where
  process :=
    { browserList :=
        [⟨0, 1, true, false, false, true, ⟨[⟨5, false, false, none, none⟩], 0, false, []⟩⟩]
      renderProcessHosts := []
      prerender2InNewTab := false
      idForTab := fun contents => contents
      getPrimaryOtrProfile := fun _ => none
      isSameOrParent := fun _ _ => false }
  services :=
    ⟨fun text => ⟨true, "https", "", "", "", text⟩, fun text => ⟨true, "https", "", "", "", text⟩,
      fun _ => false, [], "pdf"⟩
  newTabUrl := ⟨true, "chrome", "newtab", "/", "", "chrome://newtab/"⟩
  isOffTheRecord _ := false
  getOriginalProfile profile := profile
  findTabbedBrowser _ _ := some 0
  creationStatusOk _ := true
  create profile := ⟨profile, 2, true, false, false, true, ⟨[], -1, false, []⟩⟩
  create_normal _ := ⟨rfl, rfl, rfl⟩

/-- An extension of profile `0`, in window `1`, asking for a pinned tab at index `3` opened by
tab `5`. -/
def sampleFunction : CallingFunction Nat :=
  ⟨0, false, some ⟨"reader", fun text => ⟨false, "", "", "", "", text⟩, false, false, false, false⟩,
    false, some 0⟩

def sampleParams : OpenTabParams :=
  ⟨none, some 5, some "https://example.com/", none, some true, some 3, false⟩

section OpenTab

variable {function : CallingFunction P} {params : OpenTabParams}
  {navigate : NavigateParams P C G D} {opener : Option C}

/-- Everything `OpenTab` has done when it reaches `Navigate`. -/
theorem openTabNavigateParams_eq_ok
    (opened : (openTabNavigateParams env function params).run = some (.ok (navigate, opener))) :
    ∃ selected openerBrowser url,
      (selectBrowser env function params).run = some (.ok selected) ∧
      findOpener env function params = .ok (openerBrowser, opener) ∧
      (tabUrl env function params).run = some (.ok url) ∧
      leaveIncognito env function url selected = .ok navigate.browser ∧
      ¬(openerBrowser.isSome ∧ navigate.browser.place ≠ openerBrowser) ∧
      navigate.url = url ∧
      navigate.disposition =
        (if params.active.getD true then .NEW_FOREGROUND_TAB else .NEW_BACKGROUND_TAB) ∧
      navigate.tabstripIndex =
        stdClamp (params.index.getD (-1)) (-1) navigate.browser.browser.tabStripModel.count ∧
      navigate.userGesture = false ∧
      navigate.tabstripAddTypes =
        ((if params.active.getD true then ADD_ACTIVE else ADD_NONE) ||| ADD_FORCE_INDEX |||
          (if params.pinned.getD false then ADD_PINNED else ADD_NONE)) := by
  simp only [openTabNavigateParams, exceptT_run_bind_eq_ok, exceptT_run_liftExcept,
    Option.some.injEq] at opened
  obtain ⟨selected, selectOk, ⟨openerBrowser, found⟩, openerOk, url, urlOk, browser, leaveOk,
    rest⟩ := opened
  split at rest
  · cases rest
  · cases rest
    exact ⟨selected, openerBrowser, url, selectOk, openerOk, urlOk, leaveOk, ‹_›, rfl, rfl, rfl, rfl,
      rfl⟩

/-- `OpenTab` navigates to the new tab page when no URL is given, and otherwise to exactly the
URL `PrepareURLForNavigation` accepts for the string and the calling extension, so a URL that
`PrepareURLForNavigation` rejects is never opened. -/
theorem openTab_navigates_to_prepared_url
    (opened : (openTabNavigateParams env function params).run = some (.ok (navigate, opener))) :
    (params.url = none → navigate.url = env.newTabUrl) ∧
      ∀ url, params.url = some url →
        (prepareUrlForNavigation env.services url function.extension).run =
          some (.ok navigate.url) := by
  obtain ⟨_, _, url, _, _, prepared, _, _, navigated, -⟩ := openTabNavigateParams_eq_ok env opened
  rw [navigated]
  unfold tabUrl at prepared
  refine ⟨fun absent => ?_, fun url given => ?_⟩
  · simp only [absent] at prepared
    cases prepared
    rfl
  · simp only [given, exceptT_run_adapt, Option.map_eq_some'] at prepared
    obtain ⟨result, prepared, mapped⟩ := prepared
    cases result <;> cases mapped
    exact prepared

/-- The index `OpenTab` passes to `Navigate` lies between `-1`, the default place, and the number
of tabs of the browser it navigates in; an index given in that range is kept, and none given
is `-1`. -/
theorem openTab_index_within_tab_strip
    (opened : (openTabNavigateParams env function params).run = some (.ok (navigate, opener))) :
    -1 ≤ navigate.tabstripIndex ∧
      navigate.tabstripIndex ≤ navigate.browser.browser.tabStripModel.count ∧
      (∀ index, params.index = some index → -1 ≤ index →
        index ≤ navigate.browser.browser.tabStripModel.count → navigate.tabstripIndex = index) ∧
      (params.index = none → navigate.tabstripIndex = -1) := by
  obtain ⟨_, _, _, _, _, _, _, _, _, _, clamp, -⟩ := openTabNavigateParams_eq_ok env opened
  have clamped := stdClamp_mem (params.index.getD (-1))
    (show (-1 : Int) ≤ navigate.browser.browser.tabStripModel.count by omega)
  rw [clamp]
  refine ⟨clamped.1, clamped.2.1, fun index given => ?_, fun absent => ?_⟩
  · simp only [given, Option.getD_some] at clamped ⊢
    exact clamped.2.2
  · simp only [absent, Option.getD_none] at clamped ⊢
    exact clamped.2.2 (Int.le_refl _) (by omega)

/-- The opener `OpenTab` sets is a `WebContents` with the opener id, and none without an opener
id. When a tab strip of the profile shows the opener, the browser `OpenTab` passes to `Navigate`
is that very browser and the opener is that tab's contents; a prerendered opener leaves the
browser unchecked. -/
theorem openTab_opener_in_same_window
    (opened : (openTabNavigateParams env function params).run = some (.ok (navigate, opener))) :
    (params.openerTabId = none → opener = none) ∧
    ∀ openerTabId, params.openerTabId = some openerTabId →
      (∃ contents, opener = some contents ∧ env.process.idForTab contents = openerTabId) ∧
      ∀ (place index : Nat) (contents : C),
        findTabInBrowsers env.process openerTabId function.profile
            (incognitoProfile env.process function.profile function.includeIncognitoInformation) =
          some (place, index, contents) →
        navigate.browser.place = some place ∧ opener = some contents := by
  obtain ⟨_, openerBrowser, _, _, openerOk, _, _, sameWindow, -⟩ :=
    openTabNavigateParams_eq_ok env opened
  unfold findOpener at openerOk
  refine ⟨fun absent => ?_, fun openerTabId given => ?_⟩
  · simp only [absent, Except.ok.injEq, Prod.mk.injEq] at openerOk
    exact openerOk.2.symm
  · simp only [given] at openerOk
    generalize lookup : getTabById env.process openerTabId (some function.profile)
      function.includeIncognitoInformation ⟨some none, none, some none, none⟩ = result at openerOk
    obtain ⟨found, out⟩ := result
    cases found
    · cases openerOk
    · simp only [Bool.not_true, Bool.false_eq_true, if_false, Except.ok.injEq, Prod.mk.injEq]
        at openerOk
      obtain ⟨rfl, rfl⟩ := openerOk
      obtain ⟨contents, written, identified⟩ :=
        getTabById_contents_of_found env.process rfl (by rw [lookup])
      rw [lookup] at written
      change out.contents = some (some contents) at written
      refine ⟨⟨contents, by rw [written]; rfl, identified⟩, fun place index listed search => ?_⟩
      have valid : openerTabId ≠ tabIdNone := fun same => by simp [getTabById, same] at lookup
      rw [getTabById_of_listed env.process valid search] at lookup
      cases lookup
      exact ⟨by simpa using sameWindow, rfl⟩

theorem openTab_opener_in_same_window_of_sample :
    ∃ navigate opener,
      (openTabNavigateParams sampleEnvironment sampleFunction sampleParams).run =
        some (.ok (navigate, opener)) ∧
      (sampleParams.openerTabId = none → opener = none) ∧
      ∀ openerTabId, sampleParams.openerTabId = some openerTabId →
        (∃ contents, opener = some contents ∧
          sampleEnvironment.process.idForTab contents = openerTabId) ∧
        ∀ (place index : Nat) (contents : Nat),
          findTabInBrowsers sampleEnvironment.process openerTabId sampleFunction.profile
              (incognitoProfile sampleEnvironment.process sampleFunction.profile
                sampleFunction.includeIncognitoInformation) =
            some (place, index, contents) →
          navigate.browser.place = some place ∧ opener = some contents :=
  ⟨_, _, rfl, openTab_opener_in_same_window sampleEnvironment rfl⟩

/-- `OpenTab` fails with a navigation error exactly when `PrepareURLForNavigation` refuses the
given URL, and only after the browser was selected (created and shown, when no window was found
and `create_browser_if_needed` is set) and the opener was found. -/
theorem openTab_navigation_error_iff {error : NavigationError} :
    (openTabNavigateParams env function params).run = some (.error (.navigation error)) ↔
      (∃ selected, (selectBrowser env function params).run = some (.ok selected)) ∧
      (∃ found, findOpener env function params = .ok found) ∧
      ∃ url, params.url = some url ∧
        (prepareUrlForNavigation env.services url function.extension).run =
          some (.error error) := by
  simp only [openTabNavigateParams, exceptT_run_bind_eq_error, exceptT_run_liftExcept,
    Option.some.injEq]
  constructor
  · rintro (selectErr | ⟨selected, selectOk, openerErr | ⟨found, openerOk, urlErr |
      ⟨url, -, leaveErr | ⟨browser, -, rest⟩⟩⟩⟩)
    · rcases selectBrowser_error env selectErr with wrong | wrong | ⟨_, wrong⟩ <;> cases wrong
    · exact absurd openerErr (findOpener_ne_navigation env error)
    · exact ⟨⟨selected, selectOk⟩, ⟨found, openerOk⟩, (tabUrl_eq_navigation_error env).1 urlErr⟩
    · exact absurd leaveErr (leaveIncognito_ne_navigation env error)
    · split at rest <;> cases rest
  · rintro ⟨⟨selected, selectOk⟩, ⟨found, openerOk⟩, refused⟩
    exact .inr ⟨selected, selectOk, .inr ⟨found, openerOk,
      .inl ((tabUrl_eq_navigation_error env).2 refused)⟩⟩

/-- `OpenTab` always forces the index, opens the tab active and in the foreground unless asked
for `active: false`, pins it only when asked for `pinned: true`, and never passes a user
gesture. -/
theorem openTab_add_types
    (opened : (openTabNavigateParams env function params).run = some (.ok (navigate, opener))) :
    let active := params.active.getD true
    let pinned := params.pinned.getD false
    navigate.tabstripAddTypes =
        ADD_FORCE_INDEX + (if active then ADD_ACTIVE else 0) + (if pinned then ADD_PINNED else 0) ∧
      (navigate.disposition = .NEW_FOREGROUND_TAB ↔ active = true) ∧
      navigate.userGesture = false := by
  obtain ⟨_, _, _, _, _, _, _, _, _, disposition, _, gesture, addTypes⟩ :=
    openTabNavigateParams_eq_ok env opened
  rw [addTypes, disposition, gesture]
  cases params.active.getD true <;> cases params.pinned.getD false <;> decide

end OpenTab

end ExtensionTabUtil

end Chromium
