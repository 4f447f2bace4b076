import DagsterPolytomic.PyDict

/-!
# The Polytomic workspace fetch

`PolytomicWorkspace.fetch_polytomic_state` and the three fetch helpers it
calls. Every client call runs in a monad `m`: the client of `Id` answers each
endpoint with a fixed value, as a function of its arguments, and other monads
observe the calls. The `from_api_response` constructors and the `id` field of
`dagster_polytomic.objects` are not in this slice and are parameters.
-/

set_option autoImplicit false

namespace Polytomic.Workspace
open Polytomic.Dict

structure ListResponse (α : Type) where
  data : Option (List α)

/-- The SDK client `polytomic.Polytomic`, reduced to the three endpoints read
by the workspace: `connections.list`, `bulk_sync.list` and
`bulk_sync.schemas.list`. -/
structure Polytomic (m : Type → Type) (Conn Sync Schema : Type) where
  connectionsList : m (ListResponse Conn)
  bulkSyncList : m (ListResponse Sync)
  bulkSyncSchemasList : String → m (ListResponse Schema)

/-- The `from_api_response` constructors and the bulk-sync `id` of
`dagster_polytomic.objects`. -/
structure Objects (Conn Sync Schema PolytomicConnection PolytomicBulkSync
    PolytomicBulkSyncSchema : Type) where
  connectionFromApiResponse : Conn → PolytomicConnection
  bulkSyncFromApiResponse : Sync → PolytomicBulkSync
  bulkSyncSchemaFromApiResponse : Schema → PolytomicBulkSyncSchema
  bulkSyncId : PolytomicBulkSync → String

structure PolytomicWorkspaceData (PolytomicConnection PolytomicBulkSync
    PolytomicBulkSyncSchema : Type) where
  connections : List PolytomicConnection
  bulkSyncs : List PolytomicBulkSync
  schemasByBulkSyncId : PyDict String (List PolytomicBulkSyncSchema)

section Fetch

variable {m : Type → Type} [Monad m]
variable {Conn Sync Schema PolytomicConnection PolytomicBulkSync PolytomicBulkSyncSchema : Type}
variable (obj : Objects Conn Sync Schema PolytomicConnection PolytomicBulkSync
  PolytomicBulkSyncSchema)
variable (client : Polytomic m Conn Sync Schema)

/-- `_fetch_connections`. `response.data or []` is `[]` for a missing payload. -/
def fetchConnections : m (List PolytomicConnection) := do
  let response := (← client.connectionsList).data.getD []
  return response.map obj.connectionFromApiResponse

def fetchBulkSyncs : m (List PolytomicBulkSync) := do
  let response := (← client.bulkSyncList).data.getD []
  return response.map obj.bulkSyncFromApiResponse

def fetchBulkSyncSchemas (bulkSyncId : String) : m (List PolytomicBulkSyncSchema) := do
  let response := (← client.bulkSyncSchemasList bulkSyncId).data.getD []
  return response.map obj.bulkSyncSchemaFromApiResponse

/-- The loop `for bulk_sync in bulk_syncs: schemas[bulk_sync.id] = ...` from
the dictionary it has built so far. -/
def fillSchemas : List PolytomicBulkSync → PyDict String (List PolytomicBulkSyncSchema) →
    m (PyDict String (List PolytomicBulkSyncSchema))
  | [], schemas => pure schemas
  | bulkSync::rest, schemas => do
    let bulkSyncSchemas ← fetchBulkSyncSchemas obj client (obj.bulkSyncId bulkSync)
    fillSchemas rest (schemas.setitem (obj.bulkSyncId bulkSync) bulkSyncSchemas)

def fetchPolytomicState :
    m (PolytomicWorkspaceData PolytomicConnection PolytomicBulkSync PolytomicBulkSyncSchema) := do
  let connections ← fetchConnections obj client
  let bulkSyncs ← fetchBulkSyncs obj client
  let schemas ← fillSchemas obj client bulkSyncs PyDict.empty
  return ⟨connections,bulkSyncs,schemas⟩

end Fetch

end Polytomic.Workspace
