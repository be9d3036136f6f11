import Mathlib

/-! Maps of bounded size, which forget entries to make room for others. -/
namespace Irpc.Foundation

universe u v w

/-- What a map with eviction promises. Nothing is promised about which entries an addition
pushes out, only that it makes up none. -/
structure EvictingMap (Key : Type u) (Value : Type v) (Map : Type w) where
  new : Int → Option Map
  lookup : Map → Key → Option Value
  add : Map → Key → Value → Map
  get : Map → Key → Option Value × Map
  remove : Map → Key → Map
  new_eq_none : new size = none ↔ size ≤ 0
  lookup_new : new size = some map → lookup map key = none
  of_lookup_add : lookup (add map key value) other = some found →
    other = key ∧ found = value ∨ other ≠ key ∧ lookup map other = some found
  get_fst : (get map key).1 = lookup map key
  lookup_get : lookup (get map key).2 other = lookup map other
  lookup_remove : lookup (remove map key) key = none
  lookup_remove_ne : other ≠ key → lookup (remove map key) other = lookup map other

/-- A map that pushes out the entry which was used least recently. The entries are in the order
of their last use, the last one first. -/
structure Lru (Key : Type u) (Value : Type v) where
  capacity : Nat
  entries : AList fun _ : Key => Value
  bounded : entries.entries.length ≤ capacity

namespace Lru

variable {Key : Type u} {Value : Type v}

def new (size : Int) : Option (Lru Key Value) := if size ≤ 0 then none else some ⟨size.toNat, ∅, Nat.zero_le _⟩

variable [DecidableEq Key]

/-- Keep the entries that there is room for. -/
def trim (capacity : Nat) (entries : AList fun _ : Key => Value) : Lru Key Value where
  capacity := capacity
  entries := ⟨entries.entries.take capacity, entries.nodupKeys.sublist (List.take_sublist _ _)⟩
  bounded := List.length_take_le _ _

def add (map : Lru Key Value) (key : Key) (value : Value) : Lru Key Value :=
  trim map.capacity (map.entries.insert key value)

def get (map : Lru Key Value) (key : Key) : Option Value × Lru Key Value :=
  match map.entries.lookup key with
  | none => (none, map)
  | some value => (some value, trim map.capacity (map.entries.insert key value))

def remove (map : Lru Key Value) (key : Key) : Lru Key Value where
  capacity := map.capacity
  entries := map.entries.erase key
  bounded := (List.kerase_sublist key map.entries.entries).length_le.trans map.bounded

theorem of_lookup_trim {room : Nat} {entries : AList fun _ : Key => Value}
    (found : (trim room entries).entries.lookup key = some value) : entries.lookup key = some value :=
  AList.mem_lookup_iff.mpr (List.mem_of_mem_take (AList.mem_lookup_iff.mp found))

theorem length_insert_of_mem {entries : AList fun _ : Key => Value} (present : key ∈ entries) (value : Value) :
    (entries.insert key value).entries.length = entries.entries.length := by
  obtain ⟨_, before, after, _, split, erased⟩ := List.exists_of_kerase present
  calc (entries.insert key value).entries.length
      = (entries.entries.kerase key).length + 1 := rfl
    _ = (before ++ after).length + 1 := by rw [erased]
    _ = entries.entries.length := by
      rw [split, List.length_append, List.length_append, List.length_cons, Nat.add_assoc]

/-- An entry that is only moved to the front pushes nothing out. -/
theorem lookup_get (map : Lru Key Value) (key other : Key) :
    (map.get key).2.entries.lookup other = map.entries.lookup other := by
  rw [get]
  split
  · rfl
  · rename_i value found
    have present : key ∈ map.entries := AList.lookup_isSome.mp (by rw [found]; rfl)
    have fits : (map.entries.insert key value).entries.length ≤ map.capacity := by
      rw [length_insert_of_mem present]
      exact map.bounded
    have kept : (trim map.capacity (map.entries.insert key value)).entries = map.entries.insert key value :=
      AList.ext (List.take_of_length_le fits)
    rw [kept]
    by_cases same : other = key
    · rw [same, AList.lookup_insert, found]
    · exact AList.lookup_insert_ne same

/-- The entries are kept in a map, and cutting some off is all that is new. -/
def evictingMap : EvictingMap Key Value (Lru Key Value) where
  new := new
  lookup map key := map.entries.lookup key
  add := add
  get := get
  remove := remove
  new_eq_none := by simp [new]
  lookup_new := by
    rintro size map key created
    obtain ⟨_, ⟨⟩⟩ := Option.ite_none_left_eq_some.mp created
    rfl
  of_lookup_add := by
    intro map key value other found cached
    have inserted := of_lookup_trim cached
    by_cases same : other = key
    · subst same
      rw [AList.lookup_insert] at inserted
      exact .inl ⟨rfl, (Option.some.inj inserted).symm⟩
    · rw [AList.lookup_insert_ne same] at inserted
      exact .inr ⟨same, inserted⟩
  get_fst := by
    intro map key
    rw [get]
    split <;> simp_all
  lookup_get := lookup_get _ _ _
  lookup_remove := AList.lookup_erase _ _
  lookup_remove_ne := AList.lookup_erase_ne

end Lru

end Irpc.Foundation
