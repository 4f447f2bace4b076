import DagsterPolytomic.FetchState
import Mathlib.Data.MLList.Dedup

/-!
# A fetch against any client

A live API may change between two calls, fail, or answer a repeated request
differently. Over any lawful monad the fetch makes its calls in the order of
the source, and its data, read as a snapshot, holds for each id the answer to
the last request for it. Whatever the client does, a result keys its schema
dictionary by its bulk-sync ids in order of first occurrence.
-/

set_option autoImplicit false

namespace Polytomic.AnyClient
open Polytomic.Dict Polytomic.Workspace Polytomic.FetchState

variable {m : Type → Type} [Monad m] [LawfulMonad m]
variable {Conn Sync Schema PolytomicConnection PolytomicBulkSync PolytomicBulkSyncSchema : Type}
variable (obj : Objects Conn Sync Schema PolytomicConnection PolytomicBulkSync
  PolytomicBulkSyncSchema)
variable (c : Polytomic m Conn Sync Schema)

/-- Whatever the client does, each id of the snapshot holds the answer to the
last schema request made for it. -/
theorem fetch_polytomic_state_last_request_wins :
    view <$> fetchPolytomicState obj c = (do
      let connections ← fetchConnections obj c
      let bulkSyncs ← fetchBulkSyncs obj c
      let answers ← bulkSyncs.mapM fun b => fetchBulkSyncSchemas obj c (obj.bulkSyncId b)
      pure ⟨connections,bulkSyncs,
        fun k => ((bulkSyncs.map obj.bulkSyncId).zip answers).reverse.lookup k⟩) := by
  simp only [fetchPolytomicState, fill_schemas_collect, map_bind, bind_map_left, map_pure, view,
    PyDict.update_empty_get]

def changingServer : Polytomic (StateM Nat) Nat String Nat :=
  ⟨pure ⟨none⟩,pure ⟨some ["a","b","a"]⟩,fun _ => modifyGet fun n => (⟨some [n]⟩,n+1)⟩

/-- A server that lists the bulk syncs `a`, `b`, `a` and answers each schema
request with a counter: `a` keeps the answer to its second request. -/
theorem fetch_polytomic_state_changing_server_last_answer :
    ((view <$> fetchPolytomicState (⟨id,id,id,id⟩ : Objects Nat String Nat Nat String Nat)
      changingServer).run 0).1.schemas "a" = some [2] := by
  rw [fetch_polytomic_state_last_request_wins]
  decide

/-- Every result of a fetch, against any client, keys its schema dictionary by
the ids of its bulk syncs in order of first occurrence. -/
theorem fetch_polytomic_state_keys_any_client :
    SatisfiesM (fun r : PolytomicWorkspaceData PolytomicConnection PolytomicBulkSync
      PolytomicBulkSyncSchema =>
        r.schemasByBulkSyncId.keys = (r.bulkSyncs.map obj.bulkSyncId).eraseDups)
      (fetchPolytomicState obj c) :=
  SatisfiesM.bind SatisfiesM.trivial fun _ _ => SatisfiesM.bind SatisfiesM.trivial fun bs _ =>
    SatisfiesM.bind (fill_schemas_keys_satisfies obj c bs PyDict.empty) fun _ h =>
      SatisfiesM.pure h

theorem fetch_polytomic_state_keys_changing_server :
    SatisfiesM (fun r : PolytomicWorkspaceData Nat String Nat =>
        r.schemasByBulkSyncId.keys = (r.bulkSyncs.map id).eraseDups)
      (fetchPolytomicState (⟨id,id,id,id⟩ : Objects Nat String Nat Nat String Nat)
        changingServer) :=
  fetch_polytomic_state_keys_any_client ⟨id,id,id,id⟩ changingServer

end Polytomic.AnyClient
