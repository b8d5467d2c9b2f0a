/-
**The scheduler, as a program.**

The scheduler scans the targets that are due, page by page, and claims each by a marker in Redis.
The task around it queues the dispatches it is handed, and takes back the marker of one that cannot
be queued.

* `claimDue`: the scan.
* `dispatchControlPlane`: the task.
-/

import NewsCollect.Collection.Worker

namespace NewsCollect.Collection

open Calendar Interleaving Providers

/-! ### Slots -/

/-- `int(instant.timestamp())`. -/
def timestamp (instant : Int) : Int :=
  (posixTimestamp instant).num.tdiv (posixTimestamp instant).den

/-- The slot a due target is claimed for: of its retry, or of its cadence. -/
def slotOf (now : Int) (due : DueTarget) (cadence : Int) : Int :=
  if due.retryDue then timestamp due.effectiveDueAt else timestamp now / cadence

/-- The dispatch behind an identity. -/
def DispatchIdentity.dispatch (identity : DispatchIdentity) : TargetDispatch :=
  ⟨identity.targetId, identity.revision, identity.slot, identity.mode, identity⟩

/-- How long a marker lives. -/
def markerTtl (cadence maxRuntimeSeconds : Int) : Int :=
  max (max 1800 cadence) (maxRuntimeSeconds + 900)

/-! ### The scan -/

/-- The target is never claimed by its cadence. -/
def manualOnly (loaded : LoadedTarget) : Bool :=
  loaded.target.providerContractVersion == 2 &&
    (loaded.config.get "window_mode").eq (.str "fixed_window")

/-- Set the marker of a loaded target, which is `set(..., nx=True, ex=ttl)`; the dispatch, if the
marker was free. -/
def claimLoaded (now : Int) (due : DueTarget) (loaded : LoadedTarget) :
    Procedure (Option TargetDispatch) :=
  if manualOnly loaded then pure none
  else do
    let cadence := max loaded.target.cadenceSeconds 1
    let identity : DispatchIdentity := ⟨loaded.target.id, loaded.target.configRevision,
      slotOf now due cadence, "normal"⟩
    let taken ← ask (.mark due identity (markerTtl cadence loaded.target.maxRuntimeSeconds))
    pure (if taken = true then some identity.dispatch else none)

/-- One entry of a page. Only the exceptions of the repository pass it over. -/
def claimOne (now : Int) (due : DueTarget) : Procedure (Option TargetDispatch) := do
  let loaded ← attempt (do
    let revision ← ask (.revision due.targetId)
    ask (.load due.targetId revision))
  match loaded with
  | .ok loaded => claimLoaded now due loaded
  | .error raised =>
      if raised.isAny [.targetRepositoryError] then pure none else throw raised

/-- The entries of a page, until enough targets have been claimed. -/
def claimPage (now : Int) (limit : Nat) :
    List DueTarget → List TargetDispatch → Procedure (List TargetDispatch)
  | [], claimed => pure claimed
  | due :: rest, claimed => do
      let one ← claimOne now due
      match one with
      | none => claimPage now limit rest claimed
      | some dispatch =>
          let claimed := claimed ++ [dispatch]
          if limit ≤ claimed.length then pure claimed else claimPage now limit rest claimed

/-- The loop over the pages, with so much of the scan budget left. Every page takes at least one
target of it, so there are at most as many rounds. -/
def claimPages (now : Int) (limit : Nat) :
    Nat → Nat → Option DueTarget → List TargetDispatch → Procedure (List TargetDispatch)
  | 0, _, _, claimed => pure claimed
  | rounds + 1, left, after, claimed =>
      if limit ≤ claimed.length ∨ left = 0 then pure claimed
      else do
        let page ← ask (.duePage now (min 100 left) after)
        if page.isEmpty then pure claimed
        else do
          let claimed ← claimPage now limit page claimed
          if page.length < min 100 left then pure claimed
          else claimPages now limit rounds (left - page.length) page.getLast? claimed

/-- `min(500, max(100, limit * 8))`. -/
def scanBudget (limit : Nat) : Nat := min 500 (max 100 (limit * 8))

/-- `claim_due`. -/
def claimDue (now : Int) (limit : Nat) : Procedure (List TargetDispatch) :=
  if 1 ≤ limit ∧ limit ≤ 500 then
    claimPages now limit (scanBudget limit) (scanBudget limit) none []
  else throw ⟨.valueError, "dispatch_budget_invalid"⟩

/-! ### The task -/

/-- `TargetScheduler.release`. -/
def releaseDispatch (dispatch : TargetDispatch) : Procedure Unit :=
  ask (.compareDelete (.dispatch dispatch.dispatchId) (.identity dispatch.dispatchId))

/-- Queue the dispatches. The first that cannot be queued loses its marker, and ends the task. -/
def enqueueAll : List TargetDispatch → Procedure Unit
  | [] => pure ()
  | dispatch :: rest => do
      let queued ← attempt (ask (.enqueue dispatch))
      match queued with
      | .ok _ => enqueueAll rest
      | .error raised => do
          releaseDispatch dispatch
          throw raised

/-- `_dispatch_control_plane`, once the authority has been approved. -/
def dispatchControlPlane : Procedure Nat := do
  let now ← ask .now
  let requests ← claimDue now 100
  enqueueAll requests
  pure requests.length

end NewsCollect.Collection
