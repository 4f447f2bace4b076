import DagsterPolytomic.FetchState

/-!
# The requests a fetch makes

A fetch calls `connections.list`, then `bulk_sync.list`, then
`bulk_sync.schemas.list` once for each listed bulk sync, a repeated id again.
A handler runs an effect of a lawful monad before each call, which is then
answered as a pure client answers it. Through it, a fetch runs the handler over
that request sequence and returns what the pure fetch returns. A logging
handler gives the request log; one that also raises shows that the first
failed call ends the fetch with its error, and that no call follows it.
-/

set_option autoImplicit false

namespace Polytomic.Requests
open Polytomic.Dict Polytomic.Workspace Polytomic.FetchState

inductive Request where
  | connectionsList
  | bulkSyncList
  | bulkSyncSchemasList (id : String)
  deriving DecidableEq, Repr

variable {m : Type → Type} [Monad m]
variable {Conn Sync Schema PolytomicConnection PolytomicBulkSync PolytomicBulkSyncSchema : Type}
variable (obj : Objects Conn Sync Schema PolytomicConnection PolytomicBulkSync
  PolytomicBulkSyncSchema)
variable (c : Polytomic Id Conn Sync Schema)

def handled (handle : Request → m Unit) : Polytomic m Conn Sync Schema :=
  ⟨do handle .connectionsList; pure c.connectionsList,
    do handle .bulkSyncList; pure c.bulkSyncList,
    fun id => do handle (.bulkSyncSchemasList id); pure (c.bulkSyncSchemasList id)⟩

section Handled

variable (handle : Request → m Unit)

@[simp] theorem handled_connections_list : (handled c handle).connectionsList =
    (do handle .connectionsList; pure c.connectionsList) := rfl

@[simp] theorem handled_bulk_sync_list : (handled c handle).bulkSyncList =
    (do handle .bulkSyncList; pure c.bulkSyncList) := rfl

@[simp] theorem handled_bulk_sync_schemas_list (id : String) :
    (handled c handle).bulkSyncSchemasList id =
      (do handle (.bulkSyncSchemasList id); pure (c.bulkSyncSchemasList id)) := rfl

end Handled

def requests : List Request :=
  .connectionsList :: .bulkSyncList ::
    (Id.run (fetchBulkSyncs obj c)).map (fun b => .bulkSyncSchemasList (obj.bulkSyncId b))

section Lawful

variable [LawfulMonad m]

theorem fill_schemas_handled (handle : Request → m Unit) (bs : List PolytomicBulkSync)
    (d : PyDict String (List PolytomicBulkSyncSchema)) :
    fillSchemas obj (handled c handle) bs d =
      (do (bs.map (fun b => Request.bulkSyncSchemasList (obj.bulkSyncId b))).forM handle
          pure (Id.run (fillSchemas obj c bs d))) := by
  induction bs generalizing d with
  | nil => simp [fillSchemas, Id.run]
  | cons b bs ih =>
    rw [fill_schemas_cons]
    simp [fillSchemas, fetchBulkSyncSchemas, ih]

/-- A fetch through a handler runs it over the request sequence, then returns
the pure fetch's result. -/
theorem fetch_polytomic_state_handled (handle : Request → m Unit) :
    fetchPolytomicState obj (handled c handle) =
      (do (requests obj c).forM handle; pure (Id.run (fetchPolytomicState obj c))) := by
  rw [fetch_polytomic_state_run]
  simp [fetchPolytomicState, fetchConnections, fetchBulkSyncs, fill_schemas_handled, requests,
    Id.run]

end Lawful

def logRequest (r : Request) : StateM (List Request) Unit := modify (·++[r])

theorem log_request_run (rs log : List Request) :
    (rs.forM logRequest).run log = ((),log++rs) := by
  induction rs generalizing log with
  | nil => simp
  | cons r rs ih => simp [logRequest, ih]

/-- Against a logging client a fetch returns the pure fetch's data and logs
its requests in order, one schema request for each listed bulk sync. -/
theorem fetch_polytomic_state_request_log (log : List Request) :
    (fetchPolytomicState obj (handled c logRequest)).run log =
      (Id.run (fetchPolytomicState obj c),log++.connectionsList::.bulkSyncList::
        (Id.run (fetchPolytomicState obj c)).bulkSyncs.map
          (fun b => .bulkSyncSchemasList (obj.bulkSyncId b))) := by
  rw [fetch_polytomic_state_handled]
  simp [log_request_run, requests, logRequest]
  rfl

/-- Reads the log of the calls made so far, appends the request to it, then
raises `e` on it when `fail log r = some e`. -/
def logThenRaise {ε : Type} (fail : List Request → Request → Option ε) (r : Request) :
    ExceptT ε (StateM (List Request)) Unit := do
  let log ← ExceptT.lift get
  ExceptT.lift (logRequest r)
  match fail log r with
  | some e => throw e
  | none => pure ()

section Raise

variable {ε : Type} (fail : List Request → Request → Option ε)

theorem log_then_raise_ok (rs log : List Request)
    (h : ∀ i (hi : i < rs.length), fail (log++rs.take i) rs[i] = none) :
    (rs.forM (logThenRaise fail)).run.run log = (.ok (),log++rs) := by
  induction rs generalizing log with
  | nil => simp
  | cons r rs ih =>
    have h0 : fail log r = none := by simpa using h 0 (Nat.succ_pos _)
    have hrs := ih (log++[r]) fun i hi => by simpa using h (i+1) (Nat.succ_lt_succ hi)
    simp [logThenRaise, logRequest, h0, hrs]

theorem log_then_raise_error (rs log : List Request) (j : Nat) (hj : j < rs.length) (e : ε)
    (hok : ∀ i (hi : i < j), fail (log++rs.take i) rs[i] = none)
    (hr : fail (log++rs.take j) rs[j] = some e) :
    (rs.forM (logThenRaise fail)).run.run log = (.error e,log++rs.take (j+1)) := by
  induction rs generalizing log j with
  | nil => simp at hj
  | cons r rs ih =>
    cases j with
    | zero =>
      simp at hr
      simp [logThenRaise, logRequest, hr]
    | succ j =>
      have h0 : fail log r = none := by simpa using hok 0 (Nat.succ_pos j)
      have hrs := ih (log++[r]) j (Nat.lt_of_succ_lt_succ hj)
        (fun i hi => by simpa using hok (i+1) (Nat.succ_lt_succ hi)) (by simpa using hr)
      simp [logThenRaise, logRequest, h0, hrs]

end Raise

/-- Against a server whose failures may depend on the calls already made, the
first failed call ends a fetch with its error and no data; the calls made are
those up to and including it. When no call fails, the fetch returns the pure
fetch's data after making every call. -/
theorem fetch_polytomic_state_first_failure {ε : Type} (fail : List Request → Request → Option ε)
    (log : List Request) :
    (∀ j (hj : j < (requests obj c).length) (e : ε),
      (∀ i (hi : i < j), fail (log++(requests obj c).take i) (requests obj c)[i] = none) →
      fail (log++(requests obj c).take j) (requests obj c)[j] = some e →
      (fetchPolytomicState obj (handled c (logThenRaise fail))).run.run log =
        (.error e,log++(requests obj c).take (j+1))) ∧
    ((∀ i (hi : i < (requests obj c).length),
        fail (log++(requests obj c).take i) (requests obj c)[i] = none) →
      (fetchPolytomicState obj (handled c (logThenRaise fail))).run.run log =
        (.ok (Id.run (fetchPolytomicState obj c)),log++requests obj c)) := by
  rw [fetch_polytomic_state_handled]
  simp only [ExceptT.run_bind, StateT.run_bind]
  exact ⟨fun j hj e hok hr => by rw [log_then_raise_error fail _ log j hj e hok hr]; rfl,
    fun h => by rw [log_then_raise_ok fail _ log h]; rfl⟩

/-- A server that refuses a request it has served before, against the bulk
syncs `a`, `b`, `a`: the second schema request for `a`, the fifth call, is the
first to fail. -/
theorem fetch_polytomic_state_repeat_refused :
    (fetchPolytomicState (⟨id,id,id,id⟩ : Objects Nat String Nat Nat String Nat)
      (handled ⟨⟨some [7]⟩,⟨some ["a","b","a"]⟩,fun _ => ⟨none⟩⟩
        (logThenRaise fun log r => if r ∈ log then some r else none))).run.run [] =
      (.error (.bulkSyncSchemasList "a"),[.connectionsList,.bulkSyncList,
        .bulkSyncSchemasList "a",.bulkSyncSchemasList "b",.bulkSyncSchemasList "a"]) :=
  (fetch_polytomic_state_first_failure _ _ _ _).1 4 (by decide) _ (by decide) (by decide)

end Polytomic.Requests
