import Mathlib.Tactic.Common

/-! What `ExtensionTabUtil` hides from an extension in a `Tab` it reports. `GetScrubTabBehaviorImpl`
decides from the calling context and the extension's permissions, and `ScrubTabForExtension`
removes the committed and the pending information accordingly. `origin` is what
`GURL(spec).DeprecatedGetOriginAsURL().spec()` makes of a URL's text. -/

namespace Chromium

namespace ExtensionTabUtil

inductive ScrubTabBehaviorType where
  | kScrubTabFully | kScrubTabUrlToOrigin | kDontScrubTab
  deriving DecidableEq, Repr

structure ScrubTabBehavior where
  committedInfo : ScrubTabBehaviorType
  pendingInfo : ScrubTabBehaviorType
  deriving DecidableEq, Repr

/-- The context types `GetScrubTabBehaviorImpl` tells apart, and `kOther` for the rest. -/
inductive ContextType where
  | kWebUi | kUntrustedWebUi | kOther
  deriving DecidableEq, Repr

/-- What `GetScrubTabBehaviorImpl` asks of an extension's permissions: the `kTab` API permission,
the same for one tab, and explicit host access to a URL's origin. -/
structure ExtensionPermissions (U : Type) where
  hasTabPermission : Bool
  hasTabPermissionForTab : Int → Bool
  hasExplicitAccessToOrigin : U → Bool

/-- `api::tabs::TAB_ID_NONE` (not under `src/`). -/
def tabIdNone : Int := -1

variable {U : Type}

def getScrubTabBehaviorImpl (extension : Option (ExtensionPermissions U)) (context : ContextType)
    (url : U) (tabId : Int) : ScrubTabBehaviorType :=
  if context = .kWebUi then .kDontScrubTab
  else if context = .kUntrustedWebUi then .kScrubTabFully
  else
    let hasPermission :=
      match extension with
      | some extension =>
          let apiPermission :=
            if tabId = tabIdNone then extension.hasTabPermission
            else extension.hasTabPermissionForTab tabId
          let hostPermission := extension.hasExplicitAccessToOrigin url
          apiPermission || hostPermission
      | none => false
    if !hasPermission then .kScrubTabFully else .kDontScrubTab

/-- What `GetScrubTabBehavior` reads of a `WebContents`: its tab id, its last committed URL and
the virtual URL of its pending entry, if it has one. -/
structure Contents (U : Type) where
  tabId : Int
  lastCommittedUrl : U
  pendingEntryUrl : Option U

/-- `GetScrubTabBehavior` for a `WebContents`; `emptyUrl` is a default-constructed `GURL`. -/
def getScrubTabBehavior (emptyUrl : U) (extension : Option (ExtensionPermissions U))
    (context : ContextType) (contents : Contents U) : ScrubTabBehavior :=
  { committedInfo :=
      getScrubTabBehaviorImpl extension context contents.lastCommittedUrl contents.tabId
    pendingInfo :=
      getScrubTabBehaviorImpl extension context (contents.pendingEntryUrl.getD emptyUrl)
        contents.tabId }

/-- `GetScrubTabBehavior` for a URL alone. -/
def getScrubTabBehaviorForUrl (extension : Option (ExtensionPermissions U)) (context : ContextType)
    (url : U) : ScrubTabBehavior :=
  let type := getScrubTabBehaviorImpl extension context url tabIdNone
  ⟨type, type⟩

/-- The fields of `api::tabs::Tab` that scrubbing touches. -/
structure Tab where
  url : Option String
  pendingUrl : Option String
  title : Option String
  favIconUrl : Option String
  deriving DecidableEq, Repr

variable (origin : String → String)

/-- The committed half of `ScrubTabForExtension`; `none` is the read of an absent `url`. -/
def scrubCommittedInfo (tab : Tab) : ScrubTabBehaviorType → Option Tab
  | .kScrubTabFully => some { tab with url := none, title := none, favIconUrl := none }
  | .kScrubTabUrlToOrigin => tab.url.map fun url => { tab with url := some (origin url) }
  | .kDontScrubTab => some tab

/-- The pending half of `ScrubTabForExtension`, which only acts on a present `pending_url`. -/
def scrubPendingInfo (tab : Tab) (behavior : ScrubTabBehaviorType) : Tab :=
  match tab.pendingUrl with
  | some pendingUrl =>
      match behavior with
      | .kScrubTabFully => { tab with pendingUrl := none }
      | .kScrubTabUrlToOrigin => { tab with pendingUrl := some (origin pendingUrl) }
      | .kDontScrubTab => tab
  | none => tab

def scrubTabForExtension (tab : Tab) (behavior : ScrubTabBehavior) : Option Tab :=
  (scrubCommittedInfo origin tab behavior.committedInfo).map fun tab =>
    scrubPendingInfo origin tab behavior.pendingInfo

/-- The tab permission `GetScrubTabBehaviorImpl` consults: for the tab, or in general when there
is no tab. -/
def ExtensionPermissions.apiPermission (permissions : ExtensionPermissions U) (tabId : Int) : Bool :=
  if tabId = tabIdNone then permissions.hasTabPermission else permissions.hasTabPermissionForTab tabId

/-- The caller may see `url`: a WebUI context, or, outside untrusted WebUI, an extension with the
tab permission or explicit access to the URL's origin. -/
def MaySee (extension : Option (ExtensionPermissions U)) (context : ContextType) (tabId : Int)
    (url : U) : Prop :=
  context = .kWebUi ∨ context ≠ .kUntrustedWebUi ∧
    extension.any (fun permissions =>
      permissions.apiPermission tabId || permissions.hasExplicitAccessToOrigin url) = true

instance (extension : Option (ExtensionPermissions U)) (context : ContextType) (tabId : Int)
    (url : U) : Decidable (MaySee extension context tabId url) :=
  inferInstanceAs (Decidable (_ ∨ _ ∧ _))

/-- A tab is left whole exactly when the caller may see the URL, and scrubbed fully otherwise; the
origin-only behaviour never comes out. -/
theorem getScrubTabBehaviorImpl_eq (extension : Option (ExtensionPermissions U))
    (context : ContextType) (url : U) (tabId : Int) :
    getScrubTabBehaviorImpl extension context url tabId =
      if MaySee extension context tabId url then .kDontScrubTab else .kScrubTabFully := by
  cases context with
  | kWebUi | kUntrustedWebUi => simp [getScrubTabBehaviorImpl, MaySee]
  | kOther =>
      cases extension with
      | none => simp [getScrubTabBehaviorImpl, MaySee]
      | some permissions =>
          have decided : getScrubTabBehaviorImpl (some permissions) .kOther url tabId =
              if !(permissions.apiPermission tabId || permissions.hasExplicitAccessToOrigin url) then
                .kScrubTabFully else .kDontScrubTab := rfl
          have visible : MaySee (some permissions) .kOther tabId url ↔
              (permissions.apiPermission tabId || permissions.hasExplicitAccessToOrigin url) = true := by
            simp [MaySee]
          simp only [decided, visible]
          cases permissions.apiPermission tabId || permissions.hasExplicitAccessToOrigin url <;> rfl

theorem getScrubTabBehaviorImpl_ne_urlToOrigin (extension : Option (ExtensionPermissions U))
    (context : ContextType) (url : U) (tabId : Int) :
    getScrubTabBehaviorImpl extension context url tabId ≠ .kScrubTabUrlToOrigin := by
  rw [getScrubTabBehaviorImpl_eq]
  split <;> simp

theorem scrubTabForExtension_eq (tab : Tab) (behavior : ScrubTabBehavior)
    (committed : behavior.committedInfo ≠ .kScrubTabUrlToOrigin)
    (pending : behavior.pendingInfo ≠ .kScrubTabUrlToOrigin) :
    scrubTabForExtension origin tab behavior = some
      { url := if behavior.committedInfo = .kDontScrubTab then tab.url else none
        pendingUrl := if behavior.pendingInfo = .kDontScrubTab then tab.pendingUrl else none
        title := if behavior.committedInfo = .kDontScrubTab then tab.title else none
        favIconUrl := if behavior.committedInfo = .kDontScrubTab then tab.favIconUrl else none } := by
  obtain ⟨committedInfo, pendingInfo⟩ := behavior
  obtain ⟨url, pendingUrl, title, favIconUrl⟩ := tab
  cases committedInfo <;> cases pendingInfo <;> cases pendingUrl <;>
    simp_all [scrubTabForExtension, scrubCommittedInfo, scrubPendingInfo]

/-- Scrubbing a tab for an extension with the behaviour `GetScrubTabBehavior` computes never
faults, and keeps the committed URL, title and favicon, and the pending URL, exactly when the
extension may see the committed and the pending URL respectively; otherwise they are gone. -/
theorem scrubTabForExtension_getScrubTabBehavior (emptyUrl : U)
    (extension : Option (ExtensionPermissions U)) (context : ContextType) (contents : Contents U)
    (tab : Tab) :
    let behavior := getScrubTabBehavior emptyUrl extension context contents
    let visible := MaySee extension context contents.tabId
    scrubTabForExtension origin tab behavior = some
      { url := if visible contents.lastCommittedUrl then tab.url else none
        pendingUrl :=
          if visible (contents.pendingEntryUrl.getD emptyUrl) then tab.pendingUrl else none
        title := if visible contents.lastCommittedUrl then tab.title else none
        favIconUrl := if visible contents.lastCommittedUrl then tab.favIconUrl else none } := by
  intro behavior visible
  have committed : behavior.committedInfo =
      if visible contents.lastCommittedUrl then .kDontScrubTab else .kScrubTabFully :=
    getScrubTabBehaviorImpl_eq _ _ _ _
  have pending : behavior.pendingInfo =
      if visible (contents.pendingEntryUrl.getD emptyUrl) then .kDontScrubTab else .kScrubTabFully :=
    getScrubTabBehaviorImpl_eq _ _ _ _
  rw [scrubTabForExtension_eq origin tab behavior (getScrubTabBehaviorImpl_ne_urlToOrigin _ _ _ _)
    (getScrubTabBehaviorImpl_ne_urlToOrigin _ _ _ _), committed, pending]
  by_cases seen : visible contents.lastCommittedUrl <;>
    by_cases pendingSeen : visible (contents.pendingEntryUrl.getD emptyUrl) <;>
    simp [seen, pendingSeen]

end ExtensionTabUtil

end Chromium
