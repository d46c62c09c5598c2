namespace Criteria

/-- Entries in order, under distinct keys. -/
structure Keyed (α : Type) where
  entries : List (String × α)
  nodup_keys : (entries.map Prod.fst).Nodup
  deriving DecidableEq

namespace Keyed

variable {α : Type}

/-- The entry of `key` takes `value` in its place; a new key comes last. -/
def upsert (key : String) (value : α) : List (String × α) → List (String × α)
  | [] => [(key, value)]
  | entry :: rest =>
    if entry.1 = key then (key, value) :: rest else entry :: upsert key value rest

theorem map_fst_upsert (key : String) (value : α) (entries : List (String × α)) :
    (upsert key value entries).map Prod.fst =
      if key ∈ entries.map Prod.fst then entries.map Prod.fst
      else entries.map Prod.fst ++ [key] := by
  induction entries with
  | nil => simp [upsert]
  | cons entry rest ih =>
    by_cases h : entry.1 = key
    · simp [upsert, h]
    · have h' : ¬ key = entry.1 := fun e => h e.symm
      simp only [upsert, h, ↓reduceIte, List.map_cons, ih, List.mem_cons, h', false_or]
      split <;> simp

theorem nodup_map_fst_upsert {key : String} {value : α} {entries : List (String × α)}
    (h : (entries.map Prod.fst).Nodup) : ((upsert key value entries).map Prod.fst).Nodup := by
  rw [map_fst_upsert]
  split
  next => exact h
  next hk =>
    refine List.nodup_append.mpr ⟨h, by simp, ?_⟩
    intro a ha b hb e
    rw [List.mem_singleton] at hb
    exact hk (hb ▸ e ▸ ha)

theorem find?_upsert (key key' : String) (value : α) (entries : List (String × α)) :
    ((upsert key value entries).find? fun entry => entry.1 = key').map Prod.snd =
      if key' = key then some value
      else (entries.find? fun entry => entry.1 = key').map Prod.snd := by
  induction entries with
  | nil => by_cases h : key = key' <;> simp [upsert, h, eq_comm]
  | cons entry rest ih =>
    by_cases he : entry.1 = key
    · by_cases h : key = key' <;> simp [upsert, he, h, eq_comm]
    · by_cases h : entry.1 = key'
      · have hk : ¬ key' = key := fun e => he (h.trans e)
        simp [upsert, h, hk]
      · simpa [upsert, he, h] using ih

def empty : Keyed α := ⟨[], List.nodup_nil⟩

instance : EmptyCollection (Keyed α) := ⟨empty⟩

instance : Inhabited (Keyed α) := ⟨empty⟩

def insert (m : Keyed α) (key : String) (value : α) : Keyed α :=
  ⟨upsert key value m.entries, nodup_map_fst_upsert m.nodup_keys⟩

/-- Nothing to insert leaves the entries as they are. -/
def insert? (m : Keyed α) (key : String) : Option α → Keyed α
  | some value => m.insert key value
  | none => m

def insertAll (m : Keyed α) (pairs : List (String × α)) : Keyed α :=
  pairs.foldl (fun m pair => m.insert pair.1 pair.2) m

def ofList (pairs : List (String × α)) : Keyed α := empty.insertAll pairs

def keys (m : Keyed α) : List String := m.entries.map Prod.fst

def values (m : Keyed α) : List α := m.entries.map Prod.snd

def size (m : Keyed α) : Nat := m.entries.length

def isEmpty (m : Keyed α) : Bool := m.entries.isEmpty

def get? (m : Keyed α) (key : String) : Option α :=
  (m.entries.find? fun entry => entry.1 = key).map Prod.snd

@[simp] theorem entries_empty : (empty : Keyed α).entries = [] := rfl

@[simp] theorem entries_insert (m : Keyed α) (key : String) (value : α) :
    (m.insert key value).entries = upsert key value m.entries := rfl

theorem get?_insert (m : Keyed α) (key key' : String) (value : α) :
    (m.insert key value).get? key' = if key' = key then some value else m.get? key' :=
  find?_upsert key key' value m.entries

theorem keys_insert (m : Keyed α) (key : String) (value : α) :
    (m.insert key value).keys = if key ∈ m.keys then m.keys else m.keys ++ [key] :=
  map_fst_upsert key value m.entries

end Keyed

end Criteria
