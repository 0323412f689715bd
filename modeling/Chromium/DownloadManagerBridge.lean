import Mathlib.Algebra.Order.BigOperators.Group.List
import Mathlib.Algebra.Order.Ring.Nat
import Mathlib.Data.List.Basic

/-! `DownloadManagerBridge` hands a completed download to the Java `DownloadManager` and is told its
download id later. `AddCompletedDownload` copies the waiting callback to the heap and passes its
address through JNI as the callback id; `JNI_DownloadManagerBridge_OnAddCompletedDownloadDone`
takes the callback back from that address, runs it and frees it. The Java side and
`operator new` are outside this file: events say what Java calls, and an `Allocator` gives a
non-null address that no live callback has, possibly one freed before. -/

namespace Chromium

namespace DownloadManagerBridge

/-- What the bridge reads of a `DownloadItem`. -/
structure DownloadItem where
  fileNameToReportUser : String
  mimeType : String
  targetFilePath : String
  receivedBytes : Int
  originalUrl : String
  referrerUrl : String
  guid : String
  fileExternallyRemoved : Bool
  deriving DecidableEq, Repr

/-- The calls the bridge makes to the Java `DownloadManagerBridge`, with their arguments. -/
inductive JavaCall where
  | addCompletedDownload (fileName description mimeType path : String) (fileSize : Int)
      (originalUrl referrer downloadGuid : String) (callbackId : Nat)
  | removeCompletedDownload (downloadGuid : String) (externallyRemoved : Bool)
  deriving DecidableEq, Repr

/-- The callback id a call passes to Java, if it passes one. -/
def JavaCall.callbackId? : JavaCall → Option Nat
  | .addCompletedDownload _ _ _ _ _ _ _ _ callbackId => some callbackId
  | .removeCompletedDownload _ _ => none

/-- `operator new` for an `AddCompletedDownloadCallback`: a non-null address that no live callback
has. -/
structure Allocator where
  allocate : List Nat → Nat
  allocate_fresh : ∀ live, allocate live ≠ 0 ∧ allocate live ∉ live

/-- The native side of the bridge: the callbacks on the heap by address, the calls made to Java,
and the callbacks run so far, each with its callback id and the download id it was given. -/
structure Bridge (κ : Type) where
  heap : List (Nat × κ)
  javaCalls : List JavaCall
  runs : List (Nat × κ × Int)

/-- The faults of `OnAddCompletedDownloadDone`: the `DCHECK` on a null callback id, and a callback
id at which no callback lives, which `reinterpret_cast` and `unique_ptr` turn into undefined
behaviour. -/
inductive BridgeFault where
  | callbackIdIsNull
  | callbackNotAllocated (callbackId : Nat)
  deriving DecidableEq, Repr

variable {κ : Type}

def addCompletedDownload (allocator : Allocator) (bridge : Bridge κ) (download : DownloadItem)
    (callback : κ) : Bridge κ :=
  let callbackId := allocator.allocate (bridge.heap.map Prod.fst)
  { bridge with
    heap := (callbackId, callback) :: bridge.heap
    javaCalls := bridge.javaCalls ++
      [.addCompletedDownload download.fileNameToReportUser download.fileNameToReportUser
        download.mimeType download.targetFilePath download.receivedBytes download.originalUrl
        download.referrerUrl download.guid callbackId] }

def removeCompletedDownload (bridge : Bridge κ) (download : DownloadItem) : Bridge κ :=
  { bridge with
    javaCalls := bridge.javaCalls ++
      [.removeCompletedDownload download.guid download.fileExternallyRemoved] }

/-- `JNI_DownloadManagerBridge_OnAddCompletedDownloadDone`. -/
def onAddCompletedDownloadDone (bridge : Bridge κ) (callbackId : Nat) (downloadId : Int) :
    Except BridgeFault (Bridge κ) :=
  if callbackId = 0 then .error .callbackIdIsNull
  else
    match bridge.heap.lookup callbackId with
    | some callback =>
        .ok { bridge with
          heap := bridge.heap.eraseP fun entry => entry.1 == callbackId
          runs := bridge.runs ++ [(callbackId, callback, downloadId)] }
    | none => .error (.callbackNotAllocated callbackId)

/-- What happens at the bridge: a native call, or Java's completion of a callback id. -/
inductive BridgeEvent (κ : Type) where
  | addCompletedDownload (download : DownloadItem) (callback : κ)
  | removeCompletedDownload (download : DownloadItem)
  | onAddCompletedDownloadDone (callbackId : Nat) (downloadId : Int)

/-- The callback an event hands to the bridge. -/
def BridgeEvent.callback? : BridgeEvent κ → Option κ
  | .addCompletedDownload _ callback => some callback
  | _ => none

/-- The callback id and download id of a completion. -/
def BridgeEvent.completion? : BridgeEvent κ → Option (Nat × Int)
  | .onAddCompletedDownloadDone callbackId downloadId => some (callbackId, downloadId)
  | _ => none

def step (allocator : Allocator) (bridge : Bridge κ) :
    BridgeEvent κ → Except BridgeFault (Bridge κ)
  | .addCompletedDownload download callback =>
      .ok (addCompletedDownload allocator bridge download callback)
  | .removeCompletedDownload download => .ok (removeCompletedDownload bridge download)
  | .onAddCompletedDownloadDone callbackId downloadId =>
      onAddCompletedDownloadDone bridge callbackId downloadId

def Bridge.empty : Bridge κ := ⟨[], [], []⟩

/-- The bridge after `events`, from the start of the process, or the first fault. -/
def run (allocator : Allocator) (events : List (BridgeEvent κ)) : Except BridgeFault (Bridge κ) :=
  events.foldlM (step allocator) .empty

theorem run_append_singleton (allocator : Allocator) (events : List (BridgeEvent κ))
    (event : BridgeEvent κ) :
    run allocator (events ++ [event]) = (run allocator events).bind (step allocator · event) := by
  simp only [run, List.foldlM_append, List.foldlM_cons, List.foldlM_nil, bind_pure]
  rfl

/-- The callback ids sent to Java, paired in order with the callbacks handed over: the `k`-th
`AddCompletedDownload` sent the `k`-th callback id for its callback. -/
def sentPairs (bridge : Bridge κ) (events : List (BridgeEvent κ)) : List (Nat × κ) :=
  (bridge.javaCalls.filterMap JavaCall.callbackId?).zip (events.filterMap BridgeEvent.callback?)

/-- The bridge accounts for everything that happened: live callbacks have distinct non-null
addresses; as many callback ids were sent as callbacks handed over; every callback handed over
is live under the id sent for it, or has run under that id; and the runs are the completions, in
order. -/
structure Bridge.Accounts (bridge : Bridge κ) (events : List (BridgeEvent κ)) : Prop where
  nonnull : ∀ entry ∈ bridge.heap, entry.1 ≠ 0
  distinct : (bridge.heap.map Prod.fst).Nodup
  handedOver : (bridge.javaCalls.filterMap JavaCall.callbackId?).length =
    (events.filterMap BridgeEvent.callback?).length
  pairs : List.Perm (sentPairs bridge events)
    (bridge.heap ++ bridge.runs.map fun ran => (ran.1, ran.2.1))
  completions : bridge.runs.map (fun ran => (ran.1, ran.2.2)) =
    events.filterMap BridgeEvent.completion?

section Accounts

theorem perm_append_move {α : Type} {list rest tail : List α} {a : α}
    (moved : List.Perm list (a :: rest)) : List.Perm (list ++ tail) (rest ++ (tail ++ [a])) := by
  rw [← List.append_assoc]
  exact (moved.append_right tail).trans (List.perm_append_singleton a _).symm

/-- The entry `lookup` finds, moved to the front of the heap, leaves what `eraseP` leaves. -/
theorem heap_perm_of_lookup {heap : List (Nat × κ)} {callbackId : Nat} {callback : κ}
    (found : heap.lookup callbackId = some callback) :
    List.Perm heap ((callbackId, callback) :: heap.eraseP fun entry => entry.1 == callbackId) := by
  obtain ⟨before, after, rfl, missed⟩ := List.lookup_eq_some_iff.1 found
  have skipped : ∀ entry ∈ before, ¬(entry.1 == callbackId) = true := fun entry member => by
    simpa using (bne_iff_ne.1 (missed entry member)).symm
  rw [List.eraseP_append_right _ skipped, List.eraseP_cons_of_pos (by simp)]
  exact List.perm_middle

theorem lookup_eq_none_iff_not_mem_keys {heap : List (Nat × κ)} {callbackId : Nat} :
    heap.lookup callbackId = none ↔ callbackId ∉ heap.map Prod.fst := by
  simp only [List.lookup_eq_none_iff, bne_iff_ne, List.mem_map, not_exists, not_and]
  exact ⟨fun differs entry member same => differs entry member same.symm,
    fun differs entry member same => differs entry member same.symm⟩

theorem accounts_empty : (Bridge.empty : Bridge κ).Accounts [] :=
  ⟨by simp [Bridge.empty], List.nodup_nil, rfl, .refl _, rfl⟩

variable {allocator : Allocator} {bridge next : Bridge κ} {events : List (BridgeEvent κ)}

/-- Every callback id sent to Java is live or has been completed. -/
theorem Bridge.Accounts.sentIds (accounts : bridge.Accounts events) :
    List.Perm (bridge.javaCalls.filterMap JavaCall.callbackId?)
      (bridge.heap.map Prod.fst ++ bridge.runs.map Prod.fst) := by
  simpa [sentPairs, List.map_fst_zip _ _ accounts.handedOver.le, Function.comp_def] using
    accounts.pairs.map Prod.fst

/-- Every callback handed over is live or has run. -/
theorem Bridge.Accounts.callbacks (accounts : bridge.Accounts events) :
    List.Perm (events.filterMap BridgeEvent.callback?)
      (bridge.heap.map Prod.snd ++ bridge.runs.map fun ran => ran.2.1) := by
  simpa [sentPairs, List.map_snd_zip _ _ accounts.handedOver.ge, Function.comp_def] using
    accounts.pairs.map Prod.snd

theorem Bridge.Accounts.addCompletedDownload (accounts : bridge.Accounts events)
    (download : DownloadItem) (callback : κ) :
    (DownloadManagerBridge.addCompletedDownload allocator bridge download callback).Accounts
      (events ++ [.addCompletedDownload download callback]) := by
  obtain ⟨nonnull, fresh⟩ := allocator.allocate_fresh (bridge.heap.map Prod.fst)
  refine ⟨List.forall_mem_cons.2 ⟨nonnull, accounts.nonnull⟩,
    List.nodup_cons.2 ⟨fresh, accounts.distinct⟩, ?_, ?_, ?_⟩
  · simpa [DownloadManagerBridge.addCompletedDownload, JavaCall.callbackId?,
      BridgeEvent.callback?] using accounts.handedOver
  · simpa [sentPairs, DownloadManagerBridge.addCompletedDownload, JavaCall.callbackId?,
      BridgeEvent.callback?, List.zip_append accounts.handedOver] using
      (accounts.pairs.append_right _).trans (List.perm_append_singleton _ _)
  · simpa [DownloadManagerBridge.addCompletedDownload, BridgeEvent.completion?] using
      accounts.completions

theorem Bridge.Accounts.removeCompletedDownload (accounts : bridge.Accounts events)
    (download : DownloadItem) :
    (DownloadManagerBridge.removeCompletedDownload bridge download).Accounts
      (events ++ [.removeCompletedDownload download]) :=
  ⟨accounts.nonnull, accounts.distinct,
    by simpa [DownloadManagerBridge.removeCompletedDownload, JavaCall.callbackId?,
      BridgeEvent.callback?] using accounts.handedOver,
    by simpa [sentPairs, DownloadManagerBridge.removeCompletedDownload, JavaCall.callbackId?,
      BridgeEvent.callback?] using accounts.pairs,
    by simpa [BridgeEvent.completion?] using accounts.completions⟩

theorem Bridge.Accounts.onAddCompletedDownloadDone (accounts : bridge.Accounts events)
    {callbackId : Nat} {downloadId : Int}
    (completed : DownloadManagerBridge.onAddCompletedDownloadDone bridge callbackId downloadId =
      .ok next) :
    next.Accounts (events ++ [.onAddCompletedDownloadDone callbackId downloadId]) := by
  unfold DownloadManagerBridge.onAddCompletedDownloadDone at completed
  split at completed
  · cases completed
  split at completed
  · next callback found =>
      cases completed
      have kept : List.Sublist
          ((bridge.heap.eraseP fun entry => entry.1 == callbackId).map Prod.fst)
          (bridge.heap.map Prod.fst) :=
        (List.eraseP_sublist _).map _
      refine ⟨fun entry member => accounts.nonnull entry (List.mem_of_mem_eraseP member),
        kept.nodup accounts.distinct, ?_, ?_, ?_⟩
      · simpa [BridgeEvent.callback?] using accounts.handedOver
      · simpa [sentPairs, BridgeEvent.callback?] using
          accounts.pairs.trans (perm_append_move (heap_perm_of_lookup found))
      · simpa [BridgeEvent.completion?] using accounts.completions
  · cases completed

theorem Bridge.Accounts.step (accounts : bridge.Accounts events) {event : BridgeEvent κ}
    (stepped : step allocator bridge event = .ok next) : next.Accounts (events ++ [event]) := by
  cases event with
  | addCompletedDownload download callback =>
      cases stepped
      exact accounts.addCompletedDownload download callback
  | removeCompletedDownload download =>
      cases stepped
      exact accounts.removeCompletedDownload download
  | onAddCompletedDownloadDone callbackId downloadId =>
      exact accounts.onAddCompletedDownloadDone stepped

theorem accounts_of_run (reached : run allocator events = .ok bridge) :
    bridge.Accounts events := by
  induction events using List.reverseRecOn generalizing bridge with
  | nil =>
      cases reached
      exact accounts_empty
  | append_singleton events event ih =>
      rw [run_append_singleton] at reached
      cases previous : run allocator events with
      | error fault => simp [previous, Except.bind] at reached
      | ok before =>
          rw [previous] at reached
          exact (ih previous).step reached

/-- Over every run from the start of the process that does not fault, each callback handed to
`AddCompletedDownload` is either still waiting on the heap or has run, and none has run twice;
each completion from Java ran the callback stored under the id it completed: the pairs of the
callback id sent to Java and the callback handed over with it are those still on the heap and
those of the runs; and the runs are the completions, with the download ids Java gave, in
order. -/
theorem run_runs_each_callback_once (reached : run allocator events = .ok bridge) :
    List.Perm (events.filterMap BridgeEvent.callback?)
        (bridge.heap.map Prod.snd ++ bridge.runs.map fun ran => ran.2.1) ∧
      List.Perm ((bridge.javaCalls.filterMap JavaCall.callbackId?).zip
          (events.filterMap BridgeEvent.callback?))
        (bridge.heap ++ bridge.runs.map fun ran => (ran.1, ran.2.1)) ∧
      bridge.runs.map (fun ran => (ran.1, ran.2.2)) = events.filterMap BridgeEvent.completion? :=
  let accounts := accounts_of_run reached
  ⟨accounts.callbacks, accounts.pairs, accounts.completions⟩

/-- Two downloads in turn, the second callback reusing the address the first one freed. -/
theorem run_runs_each_callback_once_with_reused_address :
    let allocator : Allocator := ⟨fun live => live.sum + 1, fun _ =>
      ⟨Nat.succ_ne_zero _, fun member => Nat.not_succ_le_self _ (List.le_sum_of_mem member)⟩⟩
    let download : DownloadItem := ⟨"a.pdf", "application/pdf", "/a.pdf", 3, "", "", "guid", false⟩
    let events : List (BridgeEvent String) :=
      [.addCompletedDownload download "first", .onAddCompletedDownloadDone 1 7,
        .addCompletedDownload download "second", .onAddCompletedDownloadDone 1 8]
    ∃ bridge, run allocator events = .ok bridge ∧
      List.Perm (events.filterMap BridgeEvent.callback?)
          (bridge.heap.map Prod.snd ++ bridge.runs.map fun ran => ran.2.1) ∧
        List.Perm ((bridge.javaCalls.filterMap JavaCall.callbackId?).zip
            (events.filterMap BridgeEvent.callback?))
          (bridge.heap ++ bridge.runs.map fun ran => (ran.1, ran.2.1)) ∧
        bridge.runs.map (fun ran => (ran.1, ran.2.2)) = events.filterMap BridgeEvent.completion? := by
  intro allocator _ events
  exact ⟨_, rfl, @run_runs_each_callback_once _ allocator _ events rfl⟩

/-- From any state a run reaches, Java can complete the callback ids still waiting on the heap,
each once and in any order, with any download ids: none of these completions faults, and then no
callback is left on the heap. -/
theorem run_completes_pending_callbacks (reached : run allocator events = .ok bridge)
    (completions : List (Nat × Int))
    (pending : List.Perm (completions.map Prod.fst) (bridge.heap.map Prod.fst)) :
    ∃ finished, run allocator (events ++ completions.map fun completion =>
        .onAddCompletedDownloadDone completion.1 completion.2) = .ok finished ∧
      finished.heap = [] := by
  induction completions generalizing events bridge with
  | nil =>
      refine ⟨bridge, by simpa using reached, ?_⟩
      simpa using pending.symm
  | cons completion rest ih =>
      obtain ⟨callbackId, downloadId⟩ := completion
      have accounts := accounts_of_run reached
      have live : callbackId ∈ bridge.heap.map Prod.fst := pending.subset (List.mem_cons_self _ _)
      obtain ⟨callback, found⟩ := Option.ne_none_iff_exists'.1
        (mt lookup_eq_none_iff_not_mem_keys.1 (not_not.2 live))
      have nonnull : callbackId ≠ 0 := by
        obtain ⟨entry, member, rfl⟩ := List.mem_map.1 live
        exact accounts.nonnull entry member
      have completed : step allocator bridge (.onAddCompletedDownloadDone callbackId downloadId) =
          .ok { bridge with
            heap := bridge.heap.eraseP fun entry => entry.1 == callbackId
            runs := bridge.runs ++ [(callbackId, callback, downloadId)] } := by
        simp [step, onAddCompletedDownloadDone, nonnull, found]
      have remaining := (pending.trans ((heap_perm_of_lookup found).map Prod.fst)).cons_inv
      obtain ⟨finished, finishedRun, emptied⟩ :=
        @ih _ (events ++ [BridgeEvent.onAddCompletedDownloadDone callbackId downloadId])
          (by rw [run_append_singleton, reached]; exact completed) remaining
      exact ⟨finished, by simpa using finishedRun, emptied⟩

/-- Two callbacks waiting at addresses `1` and `2`, completed in the other order. -/
theorem run_completes_pending_callbacks_in_reverse :
    let allocator : Allocator := ⟨fun live => live.sum + 1, fun _ =>
      ⟨Nat.succ_ne_zero _, fun member => Nat.not_succ_le_self _ (List.le_sum_of_mem member)⟩⟩
    let download : DownloadItem := ⟨"a.pdf", "application/pdf", "/a.pdf", 3, "", "", "guid", false⟩
    let events : List (BridgeEvent String) :=
      [.addCompletedDownload download "first", .addCompletedDownload download "second"]
    let completions : List (Nat × Int) := [(2, 8), (1, 7)]
    ∃ bridge, run allocator events = .ok bridge ∧
      List.Perm (completions.map Prod.fst) (bridge.heap.map Prod.fst) ∧
      ∃ finished, run allocator (events ++ completions.map fun completion =>
          .onAddCompletedDownloadDone completion.1 completion.2) = .ok finished ∧
        finished.heap = [] := by
  intro allocator _ events completions
  exact ⟨_, rfl, by decide,
    @run_completes_pending_callbacks _ allocator _ events rfl completions (by decide)⟩

/-- From any state a run reaches, a completion faults (the `DCHECK` on a null id, or a callback id
with no live callback) exactly when Java has already completed the callback id as many times as
the bridge sent it: a completion the bridge never asked for, or one answered twice. -/
theorem onAddCompletedDownloadDone_faults_iff (reached : run allocator events = .ok bridge)
    (callbackId : Nat) (downloadId : Int) :
    (∃ fault, onAddCompletedDownloadDone bridge callbackId downloadId = .error fault) ↔
      (bridge.runs.map Prod.fst).count callbackId =
        (bridge.javaCalls.filterMap JavaCall.callbackId?).count callbackId := by
  have accounts := accounts_of_run reached
  have counted := accounts.sentIds.count_eq callbackId
  rw [List.count_append] at counted
  have dead : (∃ fault, onAddCompletedDownloadDone bridge callbackId downloadId = .error fault) ↔
      callbackId ∉ bridge.heap.map Prod.fst := by
    unfold onAddCompletedDownloadDone
    by_cases null : callbackId = 0
    · subst null
      simpa using fun entry member => accounts.nonnull (0, entry) member
    · cases found : bridge.heap.lookup callbackId with
      | none => simpa [null, found] using lookup_eq_none_iff_not_mem_keys.1 found
      | some callback =>
          have live : ¬callbackId ∉ bridge.heap.map Prod.fst :=
            mt lookup_eq_none_iff_not_mem_keys.2 (by simp [found])
          simpa [null] using live
  rw [dead, ← List.count_eq_zero]
  omega

/-- A second completion of address `1`, already completed once, faults. -/
theorem onAddCompletedDownloadDone_faults_iff_on_second_completion :
    let allocator : Allocator := ⟨fun live => live.sum + 1, fun _ =>
      ⟨Nat.succ_ne_zero _, fun member => Nat.not_succ_le_self _ (List.le_sum_of_mem member)⟩⟩
    let download : DownloadItem := ⟨"a.pdf", "application/pdf", "/a.pdf", 3, "", "", "guid", false⟩
    let events : List (BridgeEvent String) :=
      [.addCompletedDownload download "first", .onAddCompletedDownloadDone 1 7]
    ∃ bridge, run allocator events = .ok bridge ∧
      ((∃ fault, onAddCompletedDownloadDone bridge 1 7 = .error fault) ↔
        (bridge.runs.map Prod.fst).count 1 =
          (bridge.javaCalls.filterMap JavaCall.callbackId?).count 1) := by
  intro allocator _ events
  exact ⟨_, rfl, @onAddCompletedDownloadDone_faults_iff _ allocator _ events rfl 1 7⟩

end Accounts

end DownloadManagerBridge

end Chromium
