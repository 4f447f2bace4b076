import DagsterPolytomic.Workspace
import Mathlib.Data.MLList.Dedup

/-!
# What a fetch returns

Over any lawful monad the schema loop is one computation: collect the schema
lists of the bulk syncs in order, then assign the pairs with `update`. The
loop facts below are read off that equation. Against a client of `Id` every
endpoint answers as a function of its arguments, and the fetch refines the
snapshot the API reports, in which the schema map is defined on exactly the
listed bulk syncs. A repeated id is fetched again and written again with the
same list.
-/

set_option autoImplicit false

namespace Polytomic.FetchState
open Polytomic.Dict Polytomic.Workspace

variable {Conn Sync Schema PolytomicConnection PolytomicBulkSync PolytomicBulkSyncSchema : Type}
variable (obj : Objects Conn Sync Schema PolytomicConnection PolytomicBulkSync
  PolytomicBulkSyncSchema)

section AnyMonad

variable {m : Type → Type} [Monad m] [LawfulMonad m] (c : Polytomic m Conn Sync Schema)

/-- The schema loop collects the answers in order, then assigns them. -/
theorem fill_schemas_collect (bs : List PolytomicBulkSync)
    (d : PyDict String (List PolytomicBulkSyncSchema)) :
    fillSchemas obj c bs d =
      (fun answers => d.update ((bs.map obj.bulkSyncId).zip answers)) <$>
        bs.mapM (fun b => fetchBulkSyncSchemas obj c (obj.bulkSyncId b)) := by
  induction bs generalizing d with
  | nil => simp only [fillSchemas, List.mapM_nil, map_pure]; rfl
  | cons b bs ih =>
    simp only [fillSchemas, List.mapM_cons, ih, List.map_cons, List.zip_cons_cons,
      PyDict.update_cons, map_bind, bind_map_left, bind_pure_comp, Functor.map_map]

theorem mapM_length_satisfies {α β : Type} (f : α → m β) (l : List α) :
    SatisfiesM (fun r => r.length = l.length) (l.mapM f) := by
  induction l with
  | nil => exact SatisfiesM.pure rfl
  | cons a l ih =>
    rw [List.mapM_cons]
    exact SatisfiesM.bind .trivial fun _ _ => SatisfiesM.bind ih fun _ h =>
      SatisfiesM.pure (congrArg Nat.succ h)

theorem fill_schemas_keys_satisfies (bs : List PolytomicBulkSync)
    (d : PyDict String (List PolytomicBulkSyncSchema)) :
    SatisfiesM (fun d' => d'.keys = List.eraseDups.loop (bs.map obj.bulkSyncId) d.keys.reverse)
      (fillSchemas obj c bs d) := by
  rw [fill_schemas_collect]
  exact SatisfiesM.map_pre ((mapM_length_satisfies _ bs).imp fun h => by
    rw [PyDict.update_keys, List.map_fst_zip _ _ (by simp [h])])

end AnyMonad

variable (c : Polytomic Id Conn Sync Schema)

theorem fill_schemas_cons (b : PolytomicBulkSync) (bs : List PolytomicBulkSync)
    (d : PyDict String (List PolytomicBulkSyncSchema)) :
    fillSchemas obj c (b::bs) d = fillSchemas obj c bs
      (d.setitem (obj.bulkSyncId b) (fetchBulkSyncSchemas obj c (obj.bulkSyncId b))) := rfl

theorem fetch_polytomic_state_run : Id.run (fetchPolytomicState obj c) =
    ⟨fetchConnections obj c,fetchBulkSyncs obj c,
      fillSchemas obj c (fetchBulkSyncs obj c) PyDict.empty⟩ := rfl

/-- The loop invariant: once the bulk syncs `bs` are done, every id among them
holds its own schema list and every other key is as it was. -/
theorem fill_schemas_get (bs : List PolytomicBulkSync)
    (d : PyDict String (List PolytomicBulkSyncSchema)) (k : String) :
    (fillSchemas obj c bs d).get? k = if ∃ b ∈ bs, obj.bulkSyncId b = k
      then some (fetchBulkSyncSchemas obj c k) else d.get? k := by
  rw [fill_schemas_collect, List.mapM_id, Id.map_eq, PyDict.update_get, List.zip_map',
    ← List.map_reverse, PyDict.lookup_map_graph]
  simp only [List.mem_reverse]
  split_ifs <;> rfl

theorem fill_schemas_keys (bs : List PolytomicBulkSync)
    (d : PyDict String (List PolytomicBulkSyncSchema)) :
    (fillSchemas obj c bs d).keys = List.eraseDups.loop (bs.map obj.bulkSyncId) d.keys.reverse :=
  (SatisfiesM_Id_eq.1 (fill_schemas_keys_satisfies obj c bs d) :)

/-- What a fetch is for: the connections and bulk syncs the API lists, and the
schema lists as a partial map from bulk-sync ids. -/
structure Snapshot (PolytomicConnection PolytomicBulkSync PolytomicBulkSyncSchema : Type) where
  connections : List PolytomicConnection
  bulkSyncs : List PolytomicBulkSync
  schemas : String → Option (List PolytomicBulkSyncSchema)

/-- The snapshot the client reports: each payload converted, a missing one read
as empty, and a schema list for exactly the ids of the listed bulk syncs. -/
def reported : Snapshot PolytomicConnection PolytomicBulkSync PolytomicBulkSyncSchema :=
  let bulkSyncs := (c.bulkSyncList.data.getD []).map obj.bulkSyncFromApiResponse
  ⟨(c.connectionsList.data.getD []).map obj.connectionFromApiResponse,bulkSyncs,
    fun k => if ∃ b ∈ bulkSyncs, obj.bulkSyncId b = k then
      some (((c.bulkSyncSchemasList k).data.getD []).map obj.bulkSyncSchemaFromApiResponse)
    else none⟩

def view (d : PolytomicWorkspaceData PolytomicConnection PolytomicBulkSync
    PolytomicBulkSyncSchema) : Snapshot PolytomicConnection PolytomicBulkSync
    PolytomicBulkSyncSchema :=
  ⟨d.connections,d.bulkSyncs,d.schemasByBulkSyncId.get?⟩

/-- The data of a fetch, read abstractly, is the snapshot the client reports. -/
theorem fetch_refines_reported : view (Id.run (fetchPolytomicState obj c)) = reported obj c :=
  congrArg (Snapshot.mk _ _) (funext (fill_schemas_get obj c _ PyDict.empty))

theorem fetch_polytomic_state_correct :
    (Id.run (fetchPolytomicState obj c)).connections =
      (c.connectionsList.data.getD []).map obj.connectionFromApiResponse ∧
    (Id.run (fetchPolytomicState obj c)).bulkSyncs =
      (c.bulkSyncList.data.getD []).map obj.bulkSyncFromApiResponse ∧
    (∀ k, k ∈ (Id.run (fetchPolytomicState obj c)).schemasByBulkSyncId.keys ↔
      ∃ b ∈ (Id.run (fetchPolytomicState obj c)).bulkSyncs, obj.bulkSyncId b = k) ∧
    ∀ b ∈ (Id.run (fetchPolytomicState obj c)).bulkSyncs,
      (Id.run (fetchPolytomicState obj c)).schemasByBulkSyncId.get? (obj.bulkSyncId b) =
        some (((c.bulkSyncSchemasList (obj.bulkSyncId b)).data.getD []).map
          obj.bulkSyncSchemaFromApiResponse) := by
  obtain ⟨hc,hb,hs⟩ := Snapshot.mk.inj (fetch_refines_reported obj c)
  refine ⟨hc,hb,fun k => ?_,fun b hmem => ?_⟩
  · simp only [PyDict.mem_keys_iff_get, hs, hb, Option.isSome_ite]
  · exact (congrFun hs _).trans (if_pos ⟨b,hb ▸ hmem,rfl⟩)

/-- The schema dictionary iterates its ids in the order in which each first
occurs among the bulk syncs. -/
theorem fetch_polytomic_state_key_order :
    (Id.run (fetchPolytomicState obj c)).schemasByBulkSyncId.keys =
      ((Id.run (fetchPolytomicState obj c)).bulkSyncs.map obj.bulkSyncId).eraseDups :=
  fill_schemas_keys obj c _ PyDict.empty

example : (Id.run (fetchPolytomicState (⟨id,id,id,id⟩ : Objects Nat String Nat Nat String Nat)
    ⟨⟨some [7]⟩,⟨some ["a","b","a"]⟩,fun k => ⟨if k = "a" then some [1] else none⟩⟩)
    ).schemasByBulkSyncId.entries = [("a",[1]),("b",[])] := by decide

end Polytomic.FetchState
