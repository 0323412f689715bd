import Chromium.GroupId

/-! `ExtensionTabUtil::PrepareURLForNavigation`: the checks a URL from the tabs API passes before a
tab navigates to it, with `ResolvePossiblyRelativeURL`, `IsKillURL` and `IsFileUrl` behind them.
URL parsing and fixing up come from outside this file and are parameters; the histogram that
`RecordNavigationScheme` feeds does not change the result. A computation that can both fail with
an error and fault is an `ExceptT _ Option`: `.error` is what it returns, `none` a failed
`DCHECK` or undefined behaviour. -/

namespace Chromium

section ExceptTOption

variable {ε ε' α β : Type} {x : ExceptT ε Option α} {f : α → ExceptT ε Option β}

theorem exceptT_run_bind_eq_ok {b : β} :
    (x >>= f).run = some (.ok b) ↔ ∃ a, x.run = some (.ok a) ∧ (f a).run = some (.ok b) := by
  rw [ExceptT.run_bind]
  rcases x.run with _ | _ | a <;> simp [bind, Option.bind]

theorem exceptT_run_bind_eq_error {e : ε} :
    (x >>= f).run = some (.error e) ↔
      x.run = some (.error e) ∨ ∃ a, x.run = some (.ok a) ∧ (f a).run = some (.error e) := by
  rw [ExceptT.run_bind]
  rcases x.run with _ | _ | a <;> simp [bind, Option.bind, pure]

theorem exceptT_run_bind_eq_none :
    (x >>= f).run = none ↔ x.run = none ∨ ∃ a, x.run = some (.ok a) ∧ (f a).run = none := by
  rw [ExceptT.run_bind]
  rcases x.run with _ | _ | a <;> simp [bind, Option.bind, pure]

theorem exceptT_run_bind_isSome :
    (x >>= f).run.isSome ↔ x.run.isSome ∧ ∀ a, x.run = some (.ok a) → (f a).run.isSome := by
  simp only [Option.isSome_iff_ne_none, ne_eq, exceptT_run_bind_eq_none, not_or, not_exists,
    not_and]

@[simp] theorem exceptT_run_liftExcept (y : Except ε α) :
    (liftExcept y : ExceptT ε Option α).run = some y := by
  cases y <;> rfl

@[simp] theorem exceptT_run_mk (o : Option (Except ε α)) : (ExceptT.mk o).run = o :=
  rfl

@[simp] theorem exceptT_run_adapt (g : ε → ε') :
    (ExceptT.adapt g x).run = x.run.map (Except.mapError g) :=
  rfl

end ExceptTOption

namespace ExtensionTabUtil

/-- What the checks read of a `GURL`. -/
structure Gurl where
  isValid : Bool
  scheme : String
  hostPiece : String
  path : String
  content : String
  spec : String
  deriving DecidableEq, Repr

/-- Scheme names from `url/` and `content/`, not under `src/`. -/
def kJavaScriptScheme : String := "javascript"

def kChromeUIScheme : String := "chrome"

def kChromeDevToolsScheme : String := "devtools"

def kChromeUIUntrustedScheme : String := "chrome-untrusted"

def kFileScheme : String := "file"

def kViewSourceScheme : String := "view-source"

def kAboutScheme : String := "about"

def kAboutBlankPath : String := "blank"

def kAboutSrcdocPath : String := "srcdoc"

def kInvalidUrlError : String := "Invalid url: \"*\"."

/-- The URL machinery the checks call outside this file: the `GURL` parser,
`url_formatter::FixupURL` with no desired TLD, `blink::IsRendererDebugURL`, the hosts of
`kKillHosts` and `extension_misc::kPdfExtensionId`. -/
structure UrlServices where
  parse : String → Gurl
  fixupUrl : String → Gurl
  isRendererDebugUrl : Gurl → Bool
  killHosts : List String
  pdfExtensionId : String

/-- What the checks ask of the extension in its browser context: its id, its resource URLs, the
`kDevtools` and `kDebugger` API permissions, `util::AllowFileAccess`, and whether policy allows it
file URL navigation. -/
structure NavigatingExtension where
  id : String
  getResourceUrl : String → Gurl
  hasDevtoolsPermission : Bool
  hasDebuggerPermission : Bool
  allowFileAccess : Bool
  isFileUrlNavigationAllowed : Bool

/-- The errors `PrepareURLForNavigation` returns; the texts of all but the first are constants of
`ExtensionTabUtil` that are not under `src/`. -/
inductive NavigationError where
  | invalidUrl (message : String)
  | kJavaScriptUrlsNotAllowedInExtensionNavigations
  | kNoCrashBrowserError
  | kCannotNavigateToDevtools
  | kCannotNavigateToChromeUntrusted
  | kFileUrlsNotAllowedInExtensionNavigations
  deriving DecidableEq, Repr

variable (services : UrlServices)

def resolvePossiblyRelativeUrl (urlString : String) (extension : Option NavigatingExtension) :
    Gurl :=
  let url := services.parse urlString
  match extension with
  | some extension => if !url.isValid then extension.getResourceUrl urlString else url
  | none => url

/-- `GURL::IsAboutUrl` (not under `src/`): an `about:` URL without a host whose path is the allowed
one, with at most a trailing `/`. `about:` is not a standard scheme, so it never has the username,
password or port the check also excludes. -/
def isAboutUrl (url : Gurl) (allowedPath : String) : Bool :=
  url.scheme = kAboutScheme && url.hostPiece.isEmpty &&
    (url.path = allowedPath || url.path = allowedPath ++ "/")

def isAboutBlank (url : Gurl) : Bool := isAboutUrl url kAboutBlankPath

def isAboutSrcdoc (url : Gurl) : Bool := isAboutUrl url kAboutSrcdocPath

/-- `IsKillURL`; `none` where its `DCHECK` fails, on an `about:` URL other than `about:blank` and
`about:srcdoc`, which `FixupURL` should have rewritten (`about:kill` to `chrome://kill/`). -/
def isKillUrl (url : Gurl) : Option Bool :=
  if url.scheme = kAboutScheme ∧ !(isAboutBlank url || isAboutSrcdoc url) then none
  else if services.isRendererDebugUrl url then some true
  else if url.scheme ≠ kChromeUIScheme then some false
  else some (services.killHosts.contains url.hostPiece)

def isFileUrl (url : Gurl) : Bool :=
  url.scheme = kFileScheme ||
    url.scheme = kViewSourceScheme && (services.parse url.content).scheme = kFileScheme

/-- Whether the devtools check lets `extension` through: only an extension with the `kDevtools`
or the `kDebugger` permission. -/
def hasDevtoolsAccess : Option NavigatingExtension → Bool
  | some extension => extension.hasDevtoolsPermission || extension.hasDebuggerPermission
  | none => false

/-- Whether the file check refuses `url` to `extension`. -/
def refusesFileUrl (url : Gurl) : Option NavigatingExtension → Bool
  | some extension =>
      isFileUrl services url && extension.id ≠ services.pdfExtensionId &&
        !extension.allowFileAccess && !extension.isFileUrlNavigationAllowed
  | none => false

def prepareUrlForNavigation (urlString : String) (extension : Option NavigatingExtension) :
    ExceptT NavigationError Option Gurl :=
  let url := services.fixupUrl (resolvePossiblyRelativeUrl services urlString extension).spec
  if !url.isValid then throw (.invalidUrl (formatErrorMessage kInvalidUrlError urlString))
  else if url.scheme = kJavaScriptScheme then throw .kJavaScriptUrlsNotAllowedInExtensionNavigations
  else ExceptT.mk <| (isKillUrl services url).map fun kill =>
    if kill then .error .kNoCrashBrowserError
    else if url.scheme = kChromeDevToolsScheme ∧ !hasDevtoolsAccess extension then
      .error .kCannotNavigateToDevtools
    else if url.scheme = kChromeUIUntrustedScheme then .error .kCannotNavigateToChromeUntrusted
    else if refusesFileUrl services url extension then
      .error .kFileUrlsNotAllowedInExtensionNavigations
    else .ok url

variable {services} {urlString : String} {extension : Option NavigatingExtension} {url : Gurl}

/-- `IsKillURL` is defined exactly where its `DCHECK` holds. -/
theorem isKillUrl_isSome_iff :
    (isKillUrl services url).isSome ↔
      (url.scheme = kAboutScheme → (isAboutBlank url || isAboutSrcdoc url) = true) := by
  unfold isKillUrl
  by_cases dcheck : url.scheme = kAboutScheme ∧ !(isAboutBlank url || isAboutSrcdoc url)
  · rw [if_pos dcheck]
    exact iff_of_false Bool.false_ne_true fun holds => by simp [holds dcheck.1] at dcheck
  · rw [if_neg dcheck]
    refine iff_of_true (by split_ifs <;> rfl) fun about => ?_
    by_contra neither
    exact dcheck ⟨about, by simpa using neither⟩

/-- `PrepareURLForNavigation` faults exactly on a fixed-up URL that passes the validity and
JavaScript checks and is an `about:` URL other than `about:blank` and `about:srcdoc`, where the
`DCHECK` of `IsKillURL` fails. -/
theorem prepareUrlForNavigation_isSome_iff :
    (prepareUrlForNavigation services urlString extension).run.isSome ↔
      let url := services.fixupUrl (resolvePossiblyRelativeUrl services urlString extension).spec
      url.isValid = true → url.scheme ≠ kJavaScriptScheme → url.scheme = kAboutScheme →
        (isAboutBlank url || isAboutSrcdoc url) = true := by
  unfold prepareUrlForNavigation
  generalize services.fixupUrl (resolvePossiblyRelativeUrl services urlString extension).spec = fixed
  dsimp only
  by_cases invalid : (!fixed.isValid) = true
  · rw [if_pos invalid]
    exact iff_of_true rfl fun valid => by simp [valid] at invalid
  by_cases javaScript : fixed.scheme = kJavaScriptScheme
  · rw [if_neg invalid, if_pos javaScript]
    exact iff_of_true rfl fun _ notJavaScript => absurd javaScript notJavaScript
  · rw [if_neg invalid, if_neg javaScript, exceptT_run_mk, Option.isSome_map', isKillUrl_isSome_iff]
    exact ⟨fun holds _ _ => holds, fun holds => holds (by simpa using invalid) javaScript⟩

/-- `PrepareURLForNavigation` returns exactly the fixed-up URL of the string, when that URL is
valid, not a JavaScript URL, not a kill URL, a devtools page only for an extension with the
devtools or debugger permission, not an untrusted WebUI page, and a file URL for an extension
only when it is the PDF viewer, has file access or is allowed file navigation by policy. -/
theorem prepareUrlForNavigation_eq_ok_iff :
    (prepareUrlForNavigation services urlString extension).run = some (.ok url) ↔
      url = services.fixupUrl (resolvePossiblyRelativeUrl services urlString extension).spec ∧
        url.isValid = true ∧ url.scheme ≠ kJavaScriptScheme ∧ isKillUrl services url = some false ∧
        (url.scheme = kChromeDevToolsScheme → hasDevtoolsAccess extension = true) ∧
        url.scheme ≠ kChromeUIUntrustedScheme ∧ refusesFileUrl services url extension = false := by
  unfold prepareUrlForNavigation
  generalize services.fixupUrl (resolvePossiblyRelativeUrl services urlString extension).spec = fixed
  dsimp only
  by_cases invalid : (!fixed.isValid) = true
  · rw [if_pos invalid]
    exact iff_of_false (fun prepared => nomatch prepared) fun ⟨_, valid, _⟩ => by
      simp_all
  by_cases javaScript : fixed.scheme = kJavaScriptScheme
  · rw [if_neg invalid, if_pos javaScript]
    exact iff_of_false (fun prepared => nomatch prepared) fun ⟨same, _, notJavaScript, _⟩ =>
      notJavaScript (same ▸ javaScript)
  rw [if_neg invalid, if_neg javaScript, exceptT_run_mk, Option.map_eq_some']
  constructor
  · rintro ⟨kill, killed, checked⟩
    simp only [ite_eq_iff, Except.ok.injEq, reduceCtorEq, and_false, false_or] at checked
    obtain ⟨killing, devtools, untrusted, file, rfl⟩ := checked
    refine ⟨rfl, by simpa using invalid, javaScript, by rw [killed, Bool.eq_false_iff.2 killing],
      fun isDevtools => ?_, untrusted, by simpa using file⟩
    simpa [isDevtools] using devtools
  · rintro ⟨rfl, -, -, notKill, devtools, notUntrusted, notFile⟩
    have accessible : ¬(url.scheme = kChromeDevToolsScheme ∧ (!hasDevtoolsAccess extension) = true) :=
      fun ⟨isDevtools, denied⟩ => by simp [devtools isDevtools] at denied
    exact ⟨false, notKill, by
      rw [if_neg Bool.false_ne_true, if_neg accessible, if_neg notUntrusted,
        if_neg (ne_true_of_eq_false notFile)]⟩

/-- `kFileUrlsNotAllowedInExtensionNavigations` is only returned to an extension, never to a caller
without one such as a WebUI page, and only to one that is not the PDF viewer and has neither file
access nor policy permission, for a `file:` or `view-source:file:` URL. -/
theorem prepareUrlForNavigation_file_refused
    (refused : (prepareUrlForNavigation services urlString extension).run =
      some (.error .kFileUrlsNotAllowedInExtensionNavigations)) :
    ∃ refusedExtension, extension = some refusedExtension ∧
      refusedExtension.id ≠ services.pdfExtensionId ∧ refusedExtension.allowFileAccess = false ∧
      refusedExtension.isFileUrlNavigationAllowed = false ∧
      isFileUrl services
        (services.fixupUrl (resolvePossiblyRelativeUrl services urlString extension).spec) = true := by
  unfold prepareUrlForNavigation at refused
  generalize services.fixupUrl (resolvePossiblyRelativeUrl services urlString extension).spec = fixed
    at refused ⊢
  dsimp only at refused
  by_cases invalid : (!fixed.isValid) = true
  · rw [if_pos invalid] at refused
    cases refused
  by_cases javaScript : fixed.scheme = kJavaScriptScheme
  · rw [if_neg invalid, if_pos javaScript] at refused
    cases refused
  rw [if_neg invalid, if_neg javaScript, exceptT_run_mk, Option.map_eq_some'] at refused
  obtain ⟨kill, -, checked⟩ := refused
  simp only [ite_eq_iff, Except.error.injEq, reduceCtorEq, and_false, or_false, false_or, and_true]
    at checked
  obtain ⟨-, -, -, file⟩ := checked
  cases extension with
  | none => cases file
  | some refusedExtension =>
      simp only [refusesFileUrl, Bool.and_eq_true, decide_eq_true_eq, Bool.not_eq_true'] at file
      obtain ⟨⟨⟨isFile, notPdf⟩, noAccess⟩, noPolicy⟩ := file
      exact ⟨refusedExtension, rfl, notPdf, noAccess, noPolicy, isFile⟩

/-- An invalid URL is reported with the string the extension passed, not its fixed-up form. -/
theorem prepareUrlForNavigation_invalidUrl {message : String}
    (rejected : (prepareUrlForNavigation services urlString extension).run =
      some (.error (.invalidUrl message))) :
    message = "Invalid url: \"" ++ urlString ++ "\"." := by
  unfold prepareUrlForNavigation at rejected
  generalize services.fixupUrl (resolvePossiblyRelativeUrl services urlString extension).spec = fixed
    at rejected
  dsimp only at rejected
  by_cases invalid : (!fixed.isValid) = true
  · rw [if_pos invalid] at rejected
    cases rejected
    rfl
  by_cases javaScript : fixed.scheme = kJavaScriptScheme
  · rw [if_neg invalid, if_pos javaScript] at rejected
    cases rejected
  rw [if_neg invalid, if_neg javaScript, exceptT_run_mk, Option.map_eq_some'] at rejected
  obtain ⟨kill, -, checked⟩ := rejected
  simp only [ite_eq_iff, Except.error.injEq, reduceCtorEq, and_false, or_false, false_or] at checked

end ExtensionTabUtil

end Chromium
