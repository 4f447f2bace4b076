import Mathlib.Data.List.Nodup

/-!
# Python dictionaries

A `dict` keeps its entries in insertion order. Assigning to a present key
replaces the value in place; assigning to a new key appends an entry. The
entry list carries its distinct keys, so no dictionary with a repeated key
can be built.
-/

set_option autoImplicit false

namespace Polytomic.Dict

structure PyDict (K V : Type) where
  entries : List (K × V)
  keys_nodup : (entries.map Prod.fst).Nodup

namespace PyDict

variable {K V : Type}

def empty : PyDict K V := ⟨[],List.nodup_nil⟩

def keys (d : PyDict K V) : List K := d.entries.map Prod.fst

@[simp] theorem empty_keys : (empty : PyDict K V).keys = [] := rfl

variable [DecidableEq K]

def get? (d : PyDict K V) (k : K) : Option V := d.entries.lookup k

def setEntry (k : K) (v : V) : List (K × V) → List (K × V)
  | [] => [(k,v)]
  | e::es => if e.1 = k then (e.1,v)::es else e::setEntry k v es

theorem set_entry_keys (k : K) (v : V) (es : List (K × V)) :
    (setEntry k v es).map Prod.fst =
      if k ∈ es.map Prod.fst then es.map Prod.fst else es.map Prod.fst++[k] := by
  induction es with
  | nil => rfl
  | cons e es ih =>
    by_cases h : e.1 = k
    · simp [setEntry, h]
    · by_cases hk : k ∈ es.map Prod.fst <;> simp [setEntry, h, ih, hk, Ne.symm h]

theorem lookup_cons_ite (a k : K) (b : V) (es : List (K × V)) :
    ((a,b)::es).lookup k = if k = a then some b else es.lookup k := by
  by_cases h : k = a
  · simp [h]
  · simp [List.lookup_cons, beq_false_of_ne h, h]

theorem lookup_map_graph {α : Type} (key : α → K) (val : K → V) (l : List α) (k : K) :
    (l.map fun a => (key a,val (key a))).lookup k =
      if ∃ a ∈ l, key a = k then some (val k) else none := by
  induction l with
  | nil => simp
  | cons a l ih =>
    simp only [List.map_cons, lookup_cons_ite, ih]
    by_cases h : k = key a
    · simp [h]
    · simp [h, Ne.symm h]

theorem set_entry_lookup (k k' : K) (v : V) (es : List (K × V)) :
    (setEntry k v es).lookup k' = if k' = k then some v else es.lookup k' := by
  induction es with
  | nil => simp [setEntry, lookup_cons_ite]
  | cons e es ih =>
    obtain ⟨a,b⟩ := e
    by_cases h : a = k
    · subst h
      by_cases h' : k' = a <;> simp [setEntry, lookup_cons_ite, h']
    · by_cases h' : k' = a <;> simp [setEntry, lookup_cons_ite, h, h', ih]

def setitem (d : PyDict K V) (k : K) (v : V) : PyDict K V :=
  ⟨setEntry k v d.entries, by
    rw [set_entry_keys]
    split
    · exact d.keys_nodup
    · simpa using d.keys_nodup.concat ‹_›⟩

@[simp] theorem empty_get (k : K) : (empty : PyDict K V).get? k = none := rfl

theorem setitem_keys (d : PyDict K V) (k : K) (v : V) :
    (d.setitem k v).keys = if k ∈ d.keys then d.keys else d.keys++[k] :=
  set_entry_keys k v d.entries

@[simp] theorem setitem_get (d : PyDict K V) (k k' : K) (v : V) :
    (d.setitem k v).get? k' = if k' = k then some v else d.get? k' :=
  set_entry_lookup k k' v d.entries

theorem mem_keys_iff_get (d : PyDict K V) (k : K) : k ∈ d.keys ↔ (d.get? k).isSome := by
  simp only [keys, get?, List.mem_map, List.lookup_isSome_iff, beq_iff_eq]
  exact ⟨fun ⟨p,hp,h⟩ => ⟨p,hp,h.symm⟩, fun ⟨p,hp,h⟩ => ⟨p,hp,h.symm⟩⟩

def update (d : PyDict K V) (ps : List (K × V)) : PyDict K V :=
  ps.foldl (fun d p => d.setitem p.1 p.2) d

@[simp] theorem update_nil (d : PyDict K V) : d.update [] = d := rfl

@[simp] theorem update_cons (d : PyDict K V) (p : K × V) (ps : List (K × V)) :
    d.update (p::ps) = (d.setitem p.1 p.2).update ps := rfl

/-- The last pair for a key wins over earlier pairs and over the old value. -/
theorem update_get (d : PyDict K V) (ps : List (K × V)) (k : K) :
    (d.update ps).get? k = (ps.reverse.lookup k).or (d.get? k) := by
  induction ps generalizing d with
  | nil => rfl
  | cons p ps ih =>
    obtain ⟨a,b⟩ := p
    rw [update_cons, ih, List.reverse_cons,
      List.lookup_append, Option.or_assoc, setitem_get, lookup_cons_ite]
    by_cases h : k = a <;> simp [h]

/-- `dict(pairs)`: each key holds the value of its last pair. -/
theorem update_empty_get (ps : List (K × V)) :
    (empty.update ps).get? = fun k => ps.reverse.lookup k :=
  funext fun k => (update_get empty ps k).trans Option.or_none

/-- New keys are appended in the order of their first pair. -/
theorem update_keys (d : PyDict K V) (ps : List (K × V)) :
    (d.update ps).keys = List.eraseDups.loop (ps.map Prod.fst) d.keys.reverse := by
  induction ps generalizing d with
  | nil => simp [List.eraseDups.loop]
  | cons p ps ih =>
    rw [update_cons, ih, setitem_keys]
    by_cases h : p.1 ∈ d.keys <;> simp [List.eraseDups.loop, h]

end PyDict

end Polytomic.Dict
