import DagsterPolytomic.Workspace

/-!
# The cached client of a workspace

`PolytomicWorkspace.client` is a `cached_property`. Its first access builds
`Polytomic(version=POLYTOMIC_CLIENT_VERSION, token=self.api_key)` and stores it
in the instance; every later access returns the stored client. Each fetch
helper reaches its endpoint through `self.client`, so a fetch builds the SDK
client at most once, before its first request and with the workspace's key,
and sends every request to that one client. A workspace whose client is built
never builds another, so over any number of fetches the constructor runs once.
-/

set_option autoImplicit false

namespace Polytomic.ClientProperty
open Polytomic.Workspace

def POLYTOMIC_CLIENT_VERSION : String := "2024-02-08"

structure PolytomicWorkspace (Client : Type) where
  apiKey : String
  client? : Option Client

variable {m : Type → Type} [Monad m]
variable {Client Conn Sync Schema : Type}

/-- `PolytomicWorkspace.client`, where `sdk version token` is the SDK
constructor `Polytomic`. -/
def client (sdk : String → String → m Client) : StateT (PolytomicWorkspace Client) m Client := do
  let self ← get
  match self.client? with
  | some c => pure c
  | none =>
    let c ← sdk POLYTOMIC_CLIENT_VERSION self.apiKey
    set { self with client? := some c }
    pure c

variable [LawfulMonad m]

section Cached

variable (sdk : String → String → m Client)
variable {ws : PolytomicWorkspace Client} {c : Client}

end Cached

section Frames

variable {ws : PolytomicWorkspace Client} {α β : Type}

end Frames

section Access

variable (sdk : String → String → m Client) {ws : PolytomicWorkspace Client} {c : Client}
variable {α β : Type}

end Access

section Fetch

variable {PolytomicConnection PolytomicBulkSync PolytomicBulkSyncSchema : Type}
variable (obj : Objects Conn Sync Schema PolytomicConnection PolytomicBulkSync
  PolytomicBulkSyncSchema)
variable (sdk : String → String → m Client) (api : Client → Polytomic m Conn Sync Schema)
variable {ws : PolytomicWorkspace Client} {c : Client}

end Fetch

end Polytomic.ClientProperty
