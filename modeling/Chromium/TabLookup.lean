import Chromium.GroupId
import Chromium.ScrubTab
import Mathlib.Data.List.Basic

/-! The lookups of `ExtensionTabUtil` over the `BrowserList`. `GetTabStripModel` finds the tab strip
showing a `WebContents`; `GetTabById` finds a tab by its session id, and when no tab strip has it
and `kPrerender2InNewTab` is on, looks through the prerendered frames of the render processes;
`GetControllerFromWindowID` finds a window by its id. -/

namespace Chromium

namespace ExtensionTabUtil

/-- What `GetTabById` reads of a `RenderProcessHost`: whether it is initialized and alive, the
profile of its browser context, and for each of its render frame hosts the `WebContents` it
belongs to and whether its frame is prerendered. -/
structure RenderProcessHost (P C : Type) where
  isInitializedAndNotDead : Bool
  profile : P
  frames : List (C × Bool)

/-- What the lookups ask of the browser process: the `BrowserList`, the render process hosts,
whether `kPrerender2InNewTab` is on, `SessionTabHelper::IdForTab(contents).id()`, a profile's
primary off-the-record profile if it has one, and `Profile::IsSameOrParent`. -/
structure BrowserProcess (P C G D : Type) where
  browserList : List (Browser P C G D)
  renderProcessHosts : List (RenderProcessHost P C)
  prerender2InNewTab : Bool
  idForTab : C → Int
  getPrimaryOtrProfile : P → Option P
  isSameOrParent : P → P → Bool

/-- The out-parameters of `GetTabById`, each `none` for a null pointer or the value of the
variable it points to; a browser and its tab strip are named by the browser's place in the
list. -/
structure TabByIdOut (C : Type) where
  browser : Option (Option Nat)
  tabStrip : Option (Option Nat)
  contents : Option (Option C)
  tabIndex : Option Int
  deriving DecidableEq, Repr

/-- `if (pointer) *pointer = value;` -/
def writeThrough {α : Type} (pointer : Option α) (value : α) : Option α :=
  pointer.map fun _ => value

@[simp]
theorem writeThrough_none {α : Type} (value : α) : writeThrough none value = none := rfl

@[simp]
theorem writeThrough_some {α : Type} (old value : α) : writeThrough (some old) value = some value :=
  rfl

/-- `api::tabs::TAB_INDEX_NONE` (not under `src/`). -/
def tabIndexNone : Int := -1

/-- `extension_misc::kCurrentWindowId` (not under `src/`). -/
def kCurrentWindowId : Int := -2

variable {P C G D : Type} (process : BrowserProcess P C G D)

/-- The off-the-record profile a lookup also matches: the primary one of `profile`, when asked for
and when it exists. -/
def incognitoProfile (profile : P) (includeIncognito : Bool) : Option P :=
  if includeIncognito then process.getPrimaryOtrProfile profile else none

/-- A browser of `profile` or of `incognitoProfile`, as the browser loops test it. -/
def InProfile (profile : P) (incognitoProfile : Option P) (browser : Browser P C G D) : Prop :=
  browser.profile = profile ∨ some browser.profile = incognitoProfile

/-- `GetTabStripModel`: the first browser whose tab strip shows `contents`, with the tab's
index. -/
def getTabStripModel [DecidableEq C] (contents : C) : Option (Nat × Int) :=
  findSomeWithIndex (fun browser =>
    let index := browser.tabStripModel.getIndexOfWebContents contents
    if index ≠ -1 then some index else none) process.browserList

/-- The loop over one tab strip in `GetTabById`: the first tab whose contents has id `tabId`. -/
def findTabInTabStrip (tabId : Int) (tabs : List (TabModel C G)) : Option (Nat × C) :=
  findSomeWithIndex (fun tab =>
    if process.idForTab tab.contents = tabId then some tab.contents else none) tabs

section TabStrip

variable {tabId : Int}

theorem findTabInTabStrip_eq_some_iff {tabs : List (TabModel C G)} {index : Nat} {contents : C} :
    findTabInTabStrip process tabId tabs = some (index, contents) ↔
      (tabs[index]?).map TabModel.contents = some contents ∧ process.idForTab contents = tabId ∧
      ∀ earlier < index, ∀ tab, tabs[earlier]? = some tab → process.idForTab tab.contents ≠ tabId := by
  rw [findTabInTabStrip, findSomeWithIndex_eq_some_iff]
  cases tabs[index]? with
  | none => simp
  | some tab =>
      simp only [Option.some_bind, Option.map_some', Option.some.injEq, ite_eq_right_iff,
        Option.bind_eq_none, reduceCtorEq, imp_false]
      by_cases identified : process.idForTab tab.contents = tabId
      · simp only [identified, ite_true, Option.some.injEq, true_and]
        constructor
        · rintro ⟨rfl, earlier⟩
          exact ⟨rfl, identified, earlier⟩
        · rintro ⟨rfl, -, earlier⟩
          exact ⟨rfl, earlier⟩
      · simp only [identified, ite_false, reduceCtorEq, false_and, false_iff, not_and]
        rintro rfl same
        exact absurd same identified

theorem findTabInTabStrip_eq_none_iff {tabs : List (TabModel C G)} :
    findTabInTabStrip process tabId tabs = none ↔ ∀ tab ∈ tabs, process.idForTab tab.contents ≠ tabId := by
  rw [findTabInTabStrip, findSomeWithIndex_eq_none_iff]
  simp

end TabStrip

/-- The lambda `GetTabById` runs on each render frame host of a process. -/
def visitFrame (tabId : Int) (out : TabByIdOut C) (frame : C × Bool) : TabByIdOut C :=
  if process.idForTab frame.1 ≠ tabId then out
  else if !frame.2 then out
  else
    { out with
      tabStrip := writeThrough out.tabStrip none
      tabIndex := writeThrough out.tabIndex tabIndexNone
      contents := writeThrough out.contents (some frame.1) }

/-- A prerendered frame of `host` whose contents has the tab id. -/
def HasPrerenderedTab (tabId : Int) (host : RenderProcessHost P C) : Prop :=
  ∃ frame ∈ host.frames, process.idForTab frame.1 = tabId ∧ frame.2 = true

section Frames

variable {tabId : Int}

/-- The lambda writes the same for a prerendered frame whatever frames it has seen before. -/
theorem visitFrame_visitFrame_of_prerendered (out : TabByIdOut C) (earlier frame : C × Bool)
    (prerendered : (process.idForTab frame.1 = tabId && frame.2) = true) :
    visitFrame process tabId (visitFrame process tabId out earlier) frame =
      visitFrame process tabId out frame := by
  simp only [Bool.and_eq_true, decide_eq_true_eq] at prerendered
  unfold visitFrame
  split_ifs <;> simp_all [writeThrough, Option.map_map, Function.comp_def]

/-- Over the frames of a process, the lambda leaves what it wrote for the last prerendered frame
with the tab id, or nothing if there is none. -/
theorem foldl_visitFrame (out : TabByIdOut C) (frames : List (C × Bool)) :
    frames.foldl (visitFrame process tabId) out =
      match (frames.filter fun frame => process.idForTab frame.1 = tabId && frame.2).getLast? with
      | some frame => visitFrame process tabId out frame
      | none => out := by
  induction frames using List.reverseRecOn with
  | nil => rfl
  | append_singleton frames frame ih =>
      rw [List.foldl_append, List.foldl_cons, List.foldl_nil, ih, List.filter_append,
        List.getLast?_append, List.filter_singleton]
      by_cases prerendered : (process.idForTab frame.1 = tabId && frame.2) = true
      · simp only [prerendered, cond_true, List.getLast?_singleton, Option.or_some]
        split
        · exact visitFrame_visitFrame_of_prerendered process _ _ _ prerendered
        · rfl
      · have skipped (current : TabByIdOut C) : visitFrame process tabId current frame = current := by
          simp only [Bool.and_eq_true, decide_eq_true_eq, not_and] at prerendered
          unfold visitFrame
          split_ifs <;> simp_all
        simp only [Bool.not_eq_true] at prerendered
        simp only [prerendered, cond_false, List.getLast?_nil, Option.none_or, skipped]

/-- The frames of a process with no prerendered frame of the tab id leave the out-parameters as
they were. -/
theorem foldl_visitFrame_of_not_hasPrerenderedTab (out : TabByIdOut C)
    (host : RenderProcessHost P C) (missing : ¬HasPrerenderedTab process tabId host) :
    host.frames.foldl (visitFrame process tabId) out = out := by
  rw [foldl_visitFrame]
  have empty : (host.frames.filter fun frame =>
      process.idForTab frame.1 = tabId && frame.2).getLast? = none := by
    simp only [List.getLast?_eq_none_iff, List.filter_eq_nil_iff, Bool.and_eq_true,
      decide_eq_true_eq]
    exact fun frame member found => missing ⟨frame, member, found⟩
  rw [empty]

theorem visitFrame_of_prerendered (out : TabByIdOut C) (frame : C × Bool)
    (identified : process.idForTab frame.1 = tabId) (prerendered : frame.2 = true) :
    visitFrame process tabId out frame =
      ⟨out.browser, writeThrough out.tabStrip none, writeThrough out.contents (some frame.1),
        writeThrough out.tabIndex tabIndexNone⟩ := by
  simp [visitFrame, identified, prerendered]

theorem foldl_visitFrame_of_hasPrerenderedTab (out : TabByIdOut C) (host : RenderProcessHost P C)
    (found : HasPrerenderedTab process tabId host) :
    ∃ frame ∈ host.frames, process.idForTab frame.1 = tabId ∧ frame.2 = true ∧
      host.frames.foldl (visitFrame process tabId) out = visitFrame process tabId out frame := by
  rw [foldl_visitFrame]
  split
  next frame last =>
    have member := List.mem_filter.1 (List.mem_of_getLast?_eq_some last)
    simp only [Bool.and_eq_true, decide_eq_true_eq] at member
    exact ⟨frame, member.1, member.2.1, member.2.2, rfl⟩
  next empty =>
    obtain ⟨frame, member, identified, prerendered⟩ := found
    simp only [List.getLast?_eq_none_iff, List.filter_eq_nil_iff, Bool.and_eq_true,
      decide_eq_true_eq, not_and] at empty
    exact absurd prerendered (by simpa using empty frame member identified)

end Frames

variable [DecidableEq P]

/-- The loop over the browser list in `GetTabById`: the first tab with id `tabId` of a browser
of `profile` or `incognitoProfile`, as the browser's place and the tab's index and contents. -/
def findTabInBrowsers (tabId : Int) (profile : P) (incognitoProfile : Option P) :
    Option (Nat × Nat × C) :=
  findSomeWithIndex (fun browser =>
    if browser.profile = profile ∨ some browser.profile = incognitoProfile then
      findTabInTabStrip process tabId browser.tabStripModel.tabs
    else none) process.browserList

section Browsers

variable {tabId : Int} {profile : P} {incognito : Option P}

theorem findTabInBrowsers_eq_some_iff {place index : Nat} {contents : C} :
    findTabInBrowsers process tabId profile incognito = some (place, index, contents) ↔
      (∃ browser, process.browserList[place]? = some browser ∧ InProfile profile incognito browser ∧
        findTabInTabStrip process tabId browser.tabStripModel.tabs = some (index, contents)) ∧
      ∀ earlier < place, ∀ browser, process.browserList[earlier]? = some browser →
        InProfile profile incognito browser →
        ∀ tab ∈ browser.tabStripModel.tabs, process.idForTab tab.contents ≠ tabId := by
  rw [findTabInBrowsers, findSomeWithIndex_eq_some_iff]
  simp only [Option.bind_eq_some, Option.bind_eq_none, Option.ite_none_right_eq_some,
    ite_eq_right_iff, findTabInTabStrip_eq_none_iff, InProfile]

theorem findTabInBrowsers_eq_none_iff :
    findTabInBrowsers process tabId profile incognito = none ↔
      ∀ browser ∈ process.browserList, InProfile profile incognito browser →
        ∀ tab ∈ browser.tabStripModel.tabs, process.idForTab tab.contents ≠ tabId := by
  rw [findTabInBrowsers, findSomeWithIndex_eq_none_iff]
  simp only [ite_eq_right_iff, findTabInTabStrip_eq_none_iff, InProfile]

end Browsers

/-- A loop that appends `f x` for each `x` passing `p` builds the filtered, mapped list. -/
theorem foldl_push_back_eq {α β : Type} (p : α → Prop) [DecidablePred p] (f : α → β)
    (list : List α) (pushed : List β) :
    list.foldl (fun pushed x => if p x then pushed ++ [f x] else pushed) pushed =
      pushed ++ (list.filter fun x => p x).map f := by
  induction list generalizing pushed with
  | nil => simp
  | cons x rest ih => by_cases passes : p x <;> simp [List.filter_cons, passes, ih]

/-- `TabStripModel::GetActiveWebContents` (not under `src/`): the contents of the active tab, null
when the active index names no tab. -/
def activeWebContents (browser : Browser P C G D) : Option C :=
  if 0 ≤ browser.tabStripModel.activeIndex then
    (browser.tabStripModel.tabs[browser.tabStripModel.activeIndex.toNat]?).map TabModel.contents
  else none

def getAllActiveWebContentsForContext (profile : P) (includeIncognito : Bool) : List (Option C) :=
  let incognito := incognitoProfile process profile includeIncognito
  process.browserList.foldl (fun activeContents browser =>
    if browser.profile = profile ∨ some browser.profile = incognito then
      activeContents ++ [activeWebContents browser]
    else activeContents) []

/-- `GetAllActiveWebContentsForContext` lists, in `BrowserList` order, one entry for each browser
of the profile, or of its primary off-the-record profile when incognito is included: the
contents of its active tab, or null for a browser without one. -/
theorem getAllActiveWebContentsForContext_eq (profile : P) (includeIncognito : Bool) :
    getAllActiveWebContentsForContext process profile includeIncognito =
      (process.browserList.filter fun browser =>
        browser.profile = profile ∨
          some browser.profile = incognitoProfile process profile includeIncognito).map
        activeWebContents := by
  simpa using foldl_push_back_eq (fun browser => browser.profile = profile ∨
    some browser.profile = incognitoProfile process profile includeIncognito) activeWebContents
    process.browserList []

/-- The loop over the render process hosts in `GetTabById`. -/
def findPrerenderedTab (tabId : Int) (profile : P) (includeIncognito : Bool) :
    TabByIdOut C → List (RenderProcessHost P C) → Bool × TabByIdOut C
  | out, [] => (false, out)
  | out, host :: rest =>
      if !host.isInitializedAndNotDead then findPrerenderedTab tabId profile includeIncognito out rest
      else if host.profile ≠ profile ∧
          !(includeIncognito && process.isSameOrParent profile host.profile) then
        findPrerenderedTab tabId profile includeIncognito out rest
      else
        let out := host.frames.foldl (visitFrame process tabId) out
        match out.contents with
        | some (some _) => (true, out)
        | _ => findPrerenderedTab tabId profile includeIncognito out rest

/-- A render process `GetTabById` looks into: initialized and alive, and of the profile or, when
incognito is included, of a profile the profile is the same as or a parent of. -/
def Eligible (profile : P) (includeIncognito : Bool) (host : RenderProcessHost P C) : Prop :=
  host.isInitializedAndNotDead = true ∧
    (host.profile = profile ∨
      includeIncognito = true ∧ process.isSameOrParent profile host.profile = true)

section Processes

variable {tabId : Int} {profile : P} {includeIncognito : Bool}

theorem findPrerenderedTab_of_not_eligible (out : TabByIdOut C) (host : RenderProcessHost P C)
    (rest : List (RenderProcessHost P C))
    (skipped : ¬Eligible process profile includeIncognito host) :
    findPrerenderedTab process tabId profile includeIncognito out (host :: rest) =
      findPrerenderedTab process tabId profile includeIncognito out rest := by
  unfold Eligible at skipped
  rw [findPrerenderedTab]
  split_ifs <;> simp_all

theorem findPrerenderedTab_of_eligible (out : TabByIdOut C) (host : RenderProcessHost P C)
    (rest : List (RenderProcessHost P C))
    (eligible : Eligible process profile includeIncognito host) :
    findPrerenderedTab process tabId profile includeIncognito out (host :: rest) =
      let out := host.frames.foldl (visitFrame process tabId) out
      match out.contents with
      | some (some _) => (true, out)
      | _ => findPrerenderedTab process tabId profile includeIncognito out rest := by
  obtain ⟨alive, inProfile⟩ := eligible
  rw [findPrerenderedTab, if_neg (by simp [alive]), if_neg]
  rcases inProfile with same | ⟨included, parent⟩ <;> simp_all

/-- With a null `contents` pointer the loop over the processes never returns `true`. -/
theorem findPrerenderedTab_of_null_pointer (out : TabByIdOut C)
    (hosts : List (RenderProcessHost P C)) (unrequested : out.contents = none) :
    (findPrerenderedTab process tabId profile includeIncognito out hosts).1 = false := by
  induction hosts generalizing out with
  | nil => rfl
  | cons host rest ih =>
      by_cases eligible : Eligible process profile includeIncognito host
      · have stillNull : (host.frames.foldl (visitFrame process tabId) out).contents = none := by
          rw [foldl_visitFrame]
          split
          · unfold visitFrame
            split_ifs <;> simp [unrequested]
          · exact unrequested
        rw [findPrerenderedTab_of_eligible process out host rest eligible]
        simp only [stillNull]
        exact ih _ stillNull
      · rw [findPrerenderedTab_of_not_eligible process out host rest eligible]
        exact ih out unrequested

/-- With a null `contents` variable, the loop over the processes reports the first eligible
process with a prerendered frame of the tab id, written as that process's last such frame, and
otherwise leaves the out-parameters alone. -/
theorem findPrerenderedTab_of_null_variable (out : TabByIdOut C)
    (hosts : List (RenderProcessHost P C)) (nulled : out.contents = some none) :
    (findPrerenderedTab process tabId profile includeIncognito out hosts = (false, out) ∧
      ∀ host ∈ hosts, Eligible process profile includeIncognito host →
        ¬HasPrerenderedTab process tabId host) ∨
    ∃ host ∈ hosts, Eligible process profile includeIncognito host ∧
      ∃ frame ∈ host.frames, process.idForTab frame.1 = tabId ∧ frame.2 = true ∧
        findPrerenderedTab process tabId profile includeIncognito out hosts =
          (true, visitFrame process tabId out frame) := by
  induction hosts with
  | nil => exact .inl ⟨rfl, nofun⟩
  | cons host rest ih =>
      by_cases qualifies : Eligible process profile includeIncognito host ∧
          HasPrerenderedTab process tabId host
      · obtain ⟨eligible, has⟩ := qualifies
        obtain ⟨frame, member, identified, prerendered, folded⟩ :=
          foldl_visitFrame_of_hasPrerenderedTab process out host has
        refine .inr ⟨host, List.mem_cons_self _ _, eligible, frame, member, identified, prerendered,
          ?_⟩
        rw [findPrerenderedTab_of_eligible process out host rest eligible]
        simp [folded, visitFrame_of_prerendered process out frame identified prerendered, nulled]
      · have skip : findPrerenderedTab process tabId profile includeIncognito out (host :: rest) =
            findPrerenderedTab process tabId profile includeIncognito out rest := by
          by_cases eligible : Eligible process profile includeIncognito host
          · rw [findPrerenderedTab_of_eligible process out host rest eligible]
            simp only [foldl_visitFrame_of_not_hasPrerenderedTab process out host
              (fun has => qualifies ⟨eligible, has⟩), nulled]
          · exact findPrerenderedTab_of_not_eligible process out host rest eligible
        rw [skip]
        rcases ih with ⟨search, missing⟩ | ⟨found, member, found⟩
        · refine .inl ⟨search, fun listed member => ?_⟩
          rcases List.mem_cons.1 member with rfl | member
          · exact fun eligible has => qualifies ⟨eligible, has⟩
          · exact missing listed member
        · exact .inr ⟨_, List.mem_cons_of_mem _ member, found⟩

/-- With a variable that already holds a `WebContents`, the loop over the processes returns
`true` at the first eligible process, whatever its frames. -/
theorem findPrerenderedTab_of_stale_variable (out : TabByIdOut C)
    (hosts : List (RenderProcessHost P C)) {previous : C} (stale : out.contents = some (some previous)) :
    (findPrerenderedTab process tabId profile includeIncognito out hosts).1 = true ↔
      ∃ host ∈ hosts, Eligible process profile includeIncognito host := by
  induction hosts with
  | nil => simp [findPrerenderedTab]
  | cons host rest ih =>
      by_cases eligible : Eligible process profile includeIncognito host
      · have held : ∃ current : C,
            (host.frames.foldl (visitFrame process tabId) out).contents = some (some current) := by
          rw [foldl_visitFrame]
          split
          · unfold visitFrame
            split_ifs <;> simp [stale]
          · exact ⟨previous, stale⟩
        obtain ⟨current, held⟩ := held
        rw [findPrerenderedTab_of_eligible process out host rest eligible]
        simp only [held]
        exact iff_of_true (by trivial) ⟨host, List.mem_cons_self _ _, eligible⟩
      · rw [findPrerenderedTab_of_not_eligible process out host rest eligible, ih]
        constructor
        · rintro ⟨found, member, foundEligible⟩
          exact ⟨found, List.mem_cons_of_mem _ member, foundEligible⟩
        · rintro ⟨found, member, foundEligible⟩
          rcases List.mem_cons.1 member with rfl | member
          · exact absurd foundEligible eligible
          · exact ⟨found, member, foundEligible⟩

end Processes

/-- `GetTabById`, with `none` for a null `browser_context`. -/
def getTabById (tabId : Int) (browserContext : Option P) (includeIncognito : Bool)
    (out : TabByIdOut C) : Bool × TabByIdOut C :=
  if tabId = tabIdNone then (false, out)
  else
    match browserContext with
    | none => (false, out)
    | some profile =>
        match findTabInBrowsers process tabId profile (incognitoProfile process profile includeIncognito) with
        | some (browser, index, contents) =>
            (true,
              ⟨writeThrough out.browser (some browser), writeThrough out.tabStrip (some browser),
                writeThrough out.contents (some contents), writeThrough out.tabIndex index⟩)
        | none =>
            if process.prerender2InNewTab then
              findPrerenderedTab process tabId profile includeIncognito out
                process.renderProcessHosts
            else (false, out)

section GetTabById

variable {tabId : Int} {profile : P} {includeIncognito : Bool} {out : TabByIdOut C}

theorem getTabById_of_listed (valid : tabId ≠ tabIdNone) {place index : Nat} {contents : C}
    (search : findTabInBrowsers process tabId profile
      (incognitoProfile process profile includeIncognito) = some (place, index, contents)) :
    getTabById process tabId (some profile) includeIncognito out =
      (true, ⟨writeThrough out.browser (some place), writeThrough out.tabStrip (some place),
        writeThrough out.contents (some contents), writeThrough out.tabIndex index⟩) := by
  simp only [getTabById, if_neg valid, search]

theorem getTabById_of_unlisted (valid : tabId ≠ tabIdNone)
    (search : findTabInBrowsers process tabId profile
      (incognitoProfile process profile includeIncognito) = none) :
    getTabById process tabId (some profile) includeIncognito out =
      if process.prerender2InNewTab then
        findPrerenderedTab process tabId profile includeIncognito out process.renderProcessHosts
      else (false, out) := by
  simp only [getTabById, if_neg valid, search]

/-- Whatever path finds it, the `WebContents` `GetTabById` reports to a caller whose `contents`
variable was null has the tab id. -/
theorem getTabById_contents_of_found (nulled : out.contents = some none)
    (found : (getTabById process tabId (some profile) includeIncognito out).1 = true) :
    ∃ contents, (getTabById process tabId (some profile) includeIncognito out).2.contents =
      some (some contents) ∧ process.idForTab contents = tabId := by
  have valid : tabId ≠ tabIdNone := fun same => by simp [getTabById, same] at found
  cases search : findTabInBrowsers process tabId profile
      (incognitoProfile process profile includeIncognito) with
  | some located =>
      obtain ⟨place, index, contents⟩ := located
      obtain ⟨⟨_, _, _, inTabStrip⟩, _⟩ := (findTabInBrowsers_eq_some_iff process).1 search
      rw [getTabById_of_listed process valid search, nulled]
      exact ⟨contents, rfl, ((findTabInTabStrip_eq_some_iff process).1 inTabStrip).2.1⟩
  | none =>
      rw [getTabById_of_unlisted process valid search] at found ⊢
      cases enabled : process.prerender2InNewTab
      · simp [enabled] at found
      · simp only [enabled, if_true] at found ⊢
        obtain ⟨quiet, -⟩ | ⟨host, -, -, frame, -, identified, prerendered, reported⟩ :
            (findPrerenderedTab process tabId profile includeIncognito out _ = (false, out) ∧ _) ∨
              _ :=
          findPrerenderedTab_of_null_variable process out process.renderProcessHosts nulled
        · rw [quiet] at found
          cases found
        · rw [reported, visitFrame_of_prerendered process out frame identified prerendered, nulled]
          exact ⟨frame.1, rfl, identified⟩

/-- A tab whose id is not `TAB_ID_NONE`, shown in the tab strip of a browser of the profile (or of
its primary off-the-record profile when incognito is included), is always found, whatever the
prerender feature and the caller's variables: `GetTabById` returns `true` and writes the first
such tab in list order, with its browser, that browser's tab strip and the tab's index. -/
theorem getTabById_finds_listed_tab {browser : Browser P C G D} {tab : TabModel C G}
    (valid : tabId ≠ tabIdNone) (listed : browser ∈ process.browserList)
    (inProfile : InProfile profile (incognitoProfile process profile includeIncognito) browser)
    (shown : tab ∈ browser.tabStripModel.tabs) (identified : process.idForTab tab.contents = tabId) :
    ∃ (place index : Nat) (contents : C),
      getTabById process tabId (some profile) includeIncognito out =
        (true, ⟨writeThrough out.browser (some place), writeThrough out.tabStrip (some place),
          writeThrough out.contents (some contents), writeThrough out.tabIndex index⟩) ∧
      (∃ found, process.browserList[place]? = some found ∧
        InProfile profile (incognitoProfile process profile includeIncognito) found ∧
        (found.tabStripModel.tabs[index]?).map TabModel.contents = some contents ∧
        process.idForTab contents = tabId ∧
        ∀ earlier < index, ∀ tab, found.tabStripModel.tabs[earlier]? = some tab →
          process.idForTab tab.contents ≠ tabId) ∧
      ∀ earlier < place, ∀ before, process.browserList[earlier]? = some before →
        InProfile profile (incognitoProfile process profile includeIncognito) before →
        ∀ tab ∈ before.tabStripModel.tabs, process.idForTab tab.contents ≠ tabId := by
  cases search : findTabInBrowsers process tabId profile
      (incognitoProfile process profile includeIncognito) with
  | none =>
      exact absurd identified
        ((findTabInBrowsers_eq_none_iff process).1 search browser listed inProfile tab shown)
  | some found =>
      obtain ⟨place, index, contents⟩ := found
      obtain ⟨⟨found, placed, foundInProfile, inTabStrip⟩, before⟩ :=
        (findTabInBrowsers_eq_some_iff process).1 search
      obtain ⟨shownAt, foundIdentified, earlier⟩ := (findTabInTabStrip_eq_some_iff process).1 inTabStrip
      exact ⟨place, index, contents, getTabById_of_listed process valid search,
        ⟨found, placed, foundInProfile, shownAt, foundIdentified, earlier⟩, before⟩

/-- Tab `5` of profile `0` is found in the second window, the first being another profile's. -/
theorem getTabById_finds_listed_tab_in_second_window :
    let tab : TabModel Nat Nat := ⟨5, false, false, none, none⟩
    let other : Browser Nat Nat Nat Unit := ⟨1, 1, true, false, false, true, ⟨[tab], 0, true, []⟩⟩
    let browser : Browser Nat Nat Nat Unit := ⟨0, 2, true, false, false, true, ⟨[tab], 0, true, []⟩⟩
    let process : BrowserProcess Nat Nat Nat Unit :=
      ⟨[other, browser], [], true, fun contents => contents, fun _ => none, fun _ _ => false⟩
    let out : TabByIdOut Nat := ⟨some none, some none, some none, some 0⟩
    ∃ (place index : Nat) (contents : Nat),
      getTabById process 5 (some 0) false out =
        (true, ⟨writeThrough out.browser (some place), writeThrough out.tabStrip (some place),
          writeThrough out.contents (some contents), writeThrough out.tabIndex index⟩) ∧
      (∃ found, process.browserList[place]? = some found ∧
        InProfile 0 (incognitoProfile process 0 false) found ∧
        (found.tabStripModel.tabs[index]?).map TabModel.contents = some contents ∧
        process.idForTab contents = 5 ∧
        ∀ earlier < index, ∀ tab, found.tabStripModel.tabs[earlier]? = some tab →
          process.idForTab tab.contents ≠ 5) ∧
      ∀ earlier < place, ∀ before, process.browserList[earlier]? = some before →
        InProfile 0 (incognitoProfile process 0 false) before →
        ∀ tab ∈ before.tabStripModel.tabs, process.idForTab tab.contents ≠ 5 := by
  intro tab other browser process out
  exact getTabById_finds_listed_tab process (by decide)
    (List.mem_cons_of_mem other (List.mem_singleton_self browser)) (Or.inl rfl)
    (List.mem_singleton_self tab) rfl

/-- When no browser of the profile shows a tab with the id, `GetTabById` called with a null
`contents` variable returns `true` exactly when `kPrerender2InNewTab` is on and an eligible
render process has a prerendered frame whose `WebContents` has the id. It then writes that
`WebContents`, a null tab strip and `TAB_INDEX_NONE`, and leaves the browser as it was. -/
theorem getTabById_prerendered_tab (valid : tabId ≠ tabIdNone)
    (unlisted : ∀ browser ∈ process.browserList,
      InProfile profile (incognitoProfile process profile includeIncognito) browser →
        ∀ tab ∈ browser.tabStripModel.tabs, process.idForTab tab.contents ≠ tabId)
    (nulled : out.contents = some none) :
    let result := getTabById process tabId (some profile) includeIncognito out
    (result.1 = true ↔ process.prerender2InNewTab = true ∧
      ∃ host ∈ process.renderProcessHosts, Eligible process profile includeIncognito host ∧
        HasPrerenderedTab process tabId host) ∧
    (result.1 = true → ∃ contents,
      result.2 = ⟨out.browser, writeThrough out.tabStrip none, some (some contents),
        writeThrough out.tabIndex tabIndexNone⟩ ∧
      process.idForTab contents = tabId ∧
      ∃ host ∈ process.renderProcessHosts, Eligible process profile includeIncognito host ∧
        (contents, true) ∈ host.frames) := by
  intro result
  have search : result = if process.prerender2InNewTab then
      findPrerenderedTab process tabId profile includeIncognito out process.renderProcessHosts
      else (false, out) :=
    getTabById_of_unlisted process valid ((findTabInBrowsers_eq_none_iff process).2 unlisted)
  cases enabled : process.prerender2InNewTab
  · simp [search, enabled]
  · simp only [search, enabled, if_true, true_and]
    obtain ⟨quiet, missing⟩ | ⟨host, member, eligible, frame, inFrames, identified, prerendered, found⟩ :
        (findPrerenderedTab process tabId profile includeIncognito out _ = (false, out) ∧ _) ∨ _ :=
      findPrerenderedTab_of_null_variable process out process.renderProcessHosts nulled
    · simp only [quiet, Bool.false_eq_true, false_iff, false_implies, and_true, not_exists, not_and]
      exact missing
    · rw [found, visitFrame_of_prerendered process out frame identified prerendered, nulled]
      exact ⟨iff_of_true rfl ⟨host, member, eligible, frame, inFrames, identified, prerendered⟩,
        fun _ => ⟨frame.1, rfl, identified, host, member, eligible, by simpa [← prerendered]⟩⟩

/-- Tab `7` of profile `0`, in no tab strip, is found as the prerendered frame of a process. -/
theorem getTabById_prerendered_tab_of_process :
    let browser : Browser Nat Nat Nat Unit :=
      ⟨0, 1, true, false, false, true, ⟨[⟨5, false, false, none, none⟩], 0, true, []⟩⟩
    let process : BrowserProcess Nat Nat Nat Unit :=
      ⟨[browser], [⟨true, 0, [(7, false), (7, true)]⟩], true, fun contents => contents,
        fun _ => none, fun _ _ => false⟩
    let out : TabByIdOut Nat := ⟨some none, some none, some none, some 0⟩
    let result := getTabById process 7 (some 0) false out
    (result.1 = true ↔ process.prerender2InNewTab = true ∧
      ∃ host ∈ process.renderProcessHosts, Eligible process 0 false host ∧
        HasPrerenderedTab process 7 host) ∧
    (result.1 = true → ∃ contents,
      result.2 = ⟨out.browser, writeThrough out.tabStrip none, some (some contents),
        writeThrough out.tabIndex tabIndexNone⟩ ∧
      process.idForTab contents = 7 ∧
      ∃ host ∈ process.renderProcessHosts, Eligible process 0 false host ∧
        (contents, true) ∈ host.frames) := by
  intro browser process out
  exact getTabById_prerendered_tab process (by decide) (by simp [process, browser]) rfl

/-- When no browser of the profile shows a tab with the id, what `GetTabById` returns depends on
the caller's `contents` pointer and not only on the frames: with a null pointer it returns
`false`, and with a variable that already holds a `WebContents` it returns `true` as soon as
`kPrerender2InNewTab` is on and one eligible render process exists, whether or not a frame has
the id. -/
theorem getTabById_unlisted_depends_on_contents_variable (valid : tabId ≠ tabIdNone)
    (unlisted : ∀ browser ∈ process.browserList,
      InProfile profile (incognitoProfile process profile includeIncognito) browser →
        ∀ tab ∈ browser.tabStripModel.tabs, process.idForTab tab.contents ≠ tabId) :
    (out.contents = none →
      (getTabById process tabId (some profile) includeIncognito out).1 = false) ∧
    ∀ previous, out.contents = some (some previous) →
      ((getTabById process tabId (some profile) includeIncognito out).1 = true ↔
        process.prerender2InNewTab = true ∧
          ∃ host ∈ process.renderProcessHosts, Eligible process profile includeIncognito host) := by
  rw [getTabById_of_unlisted process valid ((findTabInBrowsers_eq_none_iff process).2 unlisted)]
  refine ⟨fun unrequested => ?_, fun previous stale => ?_⟩ <;> cases process.prerender2InNewTab
  · rfl
  · exact findPrerenderedTab_of_null_pointer process out _ unrequested
  · simp
  · simpa using findPrerenderedTab_of_stale_variable process out _ stale

/-- A caller whose variable still holds contents `3` gets `true` for tab `7`, which no frame has. -/
theorem getTabById_unlisted_true_for_stale_variable :
    let process : BrowserProcess Nat Nat Nat Unit :=
      ⟨[], [⟨true, 0, []⟩], true, fun contents => contents, fun _ => none, fun _ _ => false⟩
    let out : TabByIdOut Nat := ⟨none, none, some (some 3), none⟩
    (out.contents = none → (getTabById process 7 (some 0) false out).1 = false) ∧
    ∀ previous, out.contents = some (some previous) →
      ((getTabById process 7 (some 0) false out).1 = true ↔
        process.prerender2InNewTab = true ∧
          ∃ host ∈ process.renderProcessHosts, Eligible process 0 false host) := by
  intro process out
  exact getTabById_unlisted_depends_on_contents_variable process (by decide) (by simp [process])

end GetTabById
/-- The errors the window lookups write: `kNoCurrentWindowError`, and `kWindowNotFoundError`
formatted with the id; both texts are constants not under `src/`. -/
inductive WindowError where
  | kNoCurrentWindowError
  | windowNotFound (windowId : Int)
  deriving DecidableEq, Repr

/-- `GetControllerInProfileWithId`, with a non-null `error_message`. -/
def getControllerInProfileWithId (profile : P) (windowId : Int) (alsoMatchIncognitoProfile : Bool) :
    Except WindowError Nat :=
  match process.browserList.findIdx? fun browser =>
      (browser.profile = profile ∨
        some browser.profile = incognitoProfile process profile alsoMatchIncognitoProfile) ∧
        browser.windowId = windowId with
  | some browser => .ok browser
  | none => .error (.windowNotFound windowId)

/-- `GetControllerFromWindowID`, with a non-null `error`; `currentWindow` is what
`GetCurrentWindowController` of the calling function gives. -/
def getControllerFromWindowId (currentWindow : Option Nat) (profile : P) (includeIncognito : Bool)
    (windowId : Int) : Except WindowError Nat :=
  if windowId = kCurrentWindowId then
    match currentWindow with
    | some controller => .ok controller
    | none => .error .kNoCurrentWindowError
  else getControllerInProfileWithId process profile windowId includeIncognito

section Windows

variable {profile : P} {includeIncognito : Bool} {windowId : Int}

theorem getControllerInProfileWithId_eq_ok_iff {place : Nat} :
    getControllerInProfileWithId process profile windowId includeIncognito = .ok place ↔
      (∃ browser, process.browserList[place]? = some browser ∧
        InProfile profile (incognitoProfile process profile includeIncognito) browser ∧
        browser.windowId = windowId) ∧
      ∀ earlier < place, ∀ browser, process.browserList[earlier]? = some browser →
        InProfile profile (incognitoProfile process profile includeIncognito) browser →
        browser.windowId ≠ windowId := by
  unfold getControllerInProfileWithId
  split
  next found search =>
    obtain ⟨bound, matched, before⟩ := List.findIdx?_eq_some_iff_getElem.1 search
    simp only [decide_eq_true_eq] at matched before
    simp only [Except.ok.injEq, InProfile]
    constructor
    · rintro rfl
      refine ⟨⟨_, List.getElem?_eq_getElem bound, matched⟩, fun earlier lt browser placed => ?_⟩
      obtain ⟨within, rfl⟩ := List.getElem?_eq_some_iff.1 placed
      exact fun inProfile same => before earlier lt ⟨inProfile, same⟩
    · rintro ⟨⟨browser, placed, inProfile, same⟩, earlier⟩
      obtain ⟨within, rfl⟩ := List.getElem?_eq_some_iff.1 placed
      rcases Nat.lt_trichotomy found place with lt | rfl | gt
      · exact absurd matched.2 (earlier found lt _ (List.getElem?_eq_getElem bound) matched.1)
      · rfl
      · exact absurd ⟨inProfile, same⟩ (before place gt)
  next search =>
    simp only [List.findIdx?_eq_none_iff, decide_eq_false_iff_not] at search
    simp only [reduceCtorEq, false_iff, not_and, InProfile]
    rintro ⟨browser, placed, inProfile, same⟩
    exact absurd ⟨inProfile, same⟩ (search browser (List.getElem?_mem placed))

theorem getControllerInProfileWithId_eq_error_iff {error : WindowError} :
    getControllerInProfileWithId process profile windowId includeIncognito = .error error ↔
      error = .windowNotFound windowId ∧
        ∀ browser ∈ process.browserList,
          InProfile profile (incognitoProfile process profile includeIncognito) browser →
            browser.windowId ≠ windowId := by
  unfold getControllerInProfileWithId
  split
  next found search =>
    obtain ⟨bound, matched, -⟩ := List.findIdx?_eq_some_iff_getElem.1 search
    simp only [decide_eq_true_eq] at matched
    simp only [reduceCtorEq, false_iff, not_and, InProfile]
    exact fun _ absent => absent _ (List.getElem_mem bound) matched.1 matched.2
  next search =>
    simp only [List.findIdx?_eq_none_iff, decide_eq_false_iff_not] at search
    simp only [Except.error.injEq, InProfile]
    exact ⟨fun same => ⟨same.symm, fun browser listed inProfile matched =>
      search browser listed ⟨inProfile, matched⟩⟩, fun ⟨same, _⟩ => same.symm⟩

/-- `GetControllerFromWindowID` gives the calling function's current window for
`kCurrentWindowId`, and otherwise the first browser of the profile (or of its primary
off-the-record profile when incognito is included) whose window has the id. It fails with
`kNoCurrentWindowError` when there is no current window, and with the id when there is no such
browser. -/
theorem getControllerFromWindowId_spec (currentWindow : Option Nat) (place : Nat)
    (error : WindowError) :
    (getControllerFromWindowId process currentWindow profile includeIncognito windowId = .ok place ↔
      windowId = kCurrentWindowId ∧ currentWindow = some place ∨
      windowId ≠ kCurrentWindowId ∧
        (∃ browser, process.browserList[place]? = some browser ∧
          InProfile profile (incognitoProfile process profile includeIncognito) browser ∧
          browser.windowId = windowId) ∧
        ∀ earlier < place, ∀ browser, process.browserList[earlier]? = some browser →
          InProfile profile (incognitoProfile process profile includeIncognito) browser →
          browser.windowId ≠ windowId) ∧
    (getControllerFromWindowId process currentWindow profile includeIncognito windowId =
        .error error ↔
      windowId = kCurrentWindowId ∧ currentWindow = none ∧ error = .kNoCurrentWindowError ∨
      windowId ≠ kCurrentWindowId ∧ error = .windowNotFound windowId ∧
        ∀ browser ∈ process.browserList,
          InProfile profile (incognitoProfile process profile includeIncognito) browser →
            browser.windowId ≠ windowId) := by
  unfold getControllerFromWindowId
  by_cases current : windowId = kCurrentWindowId
  · cases currentWindow <;> simp [current, eq_comm]
  · rw [if_neg current]
    simp only [getControllerInProfileWithId_eq_ok_iff, getControllerInProfileWithId_eq_error_iff,
      current, ne_eq, false_and, false_or, not_false_eq_true, true_and]

end Windows

end ExtensionTabUtil

end Chromium
