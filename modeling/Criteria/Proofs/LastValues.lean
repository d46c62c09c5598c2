import Criteria.Keyed
import Mathlib.Data.List.Basic
import Mathlib.Data.List.Induction
import Mathlib.Data.List.Nodup

namespace Criteria

namespace Keyed

variable {α : Type}

/-- The value of the last pair under a key. -/
def lastValue? (key : String) (pairs : List (String × α)) : Option α :=
  (pairs.reverse.find? fun pair => pair.1 = key).map Prod.snd

/-- Every key once, where it stands first, with the value that it has last. -/
def lastValues (pairs : List (String × α)) : List (String × α) :=
  (pairs.map Prod.fst).eraseDups.filterMap fun key => (lastValue? key pairs).map (key, ·)

theorem lastValue?_eq_some_iff {key : String} {value : α} {pairs : List (String × α)} :
    lastValue? key pairs = some value ↔
      ∃ before after, pairs = before ++ (key, value) :: after ∧ ∀ later ∈ after, later.1 ≠ key := by
  rw [lastValue?, Option.map_eq_some_iff]
  constructor
  · rintro ⟨⟨key', value⟩, hf, rfl⟩
    obtain ⟨hk, after, before, hpairs, hafter⟩ := List.find?_eq_some_iff_append.mp hf
    obtain rfl : key' = key := by simpa using hk
    refine ⟨before.reverse, after.reverse, ?_, fun later hm => ?_⟩
    · simpa using congrArg List.reverse hpairs
    · simpa using hafter later (List.mem_reverse.mp hm)
  · rintro ⟨before, after, rfl, hafter⟩
    refine ⟨(key, value), List.find?_eq_some_iff_append.mpr
      ⟨by simp, after.reverse, before.reverse, by simp, fun later hm => ?_⟩, rfl⟩
    simpa using hafter later (List.mem_reverse.mp hm)

theorem mem_lastValues_iff {key : String} {value : α} {pairs : List (String × α)} :
    (key, value) ∈ lastValues pairs ↔ lastValue? key pairs = some value := by
  rw [lastValues, List.mem_filterMap]
  constructor
  · rintro ⟨key', _, hl⟩
    obtain ⟨value', hv, he⟩ := Option.map_eq_some_iff.mp hl
    cases he
    exact hv
  · intro hv
    obtain ⟨before, after, hpairs, _⟩ := lastValue?_eq_some_iff.mp hv
    refine ⟨key, List.mem_eraseDups.mpr ?_, by rw [hv, Option.map_some]⟩
    simp [hpairs]

theorem mem_of_mem_lastValues {pairs : List (String × α)} {pair : String × α}
    (h : pair ∈ lastValues pairs) : pair ∈ pairs := by
  obtain ⟨before, after, rfl, _⟩ := lastValue?_eq_some_iff.mp (mem_lastValues_iff.mp h)
  exact List.mem_append_right _ List.mem_cons_self

theorem insertAll_append (m : Keyed α) (pairs more : List (String × α)) :
    m.insertAll (pairs ++ more) = (m.insertAll pairs).insertAll more :=
  List.foldl_append

theorem insertAll_ofList (pairs more : List (String × α)) :
    (ofList pairs).insertAll more = ofList (pairs ++ more) :=
  (insertAll_append empty pairs more).symm

theorem ofList_append_singleton (pairs : List (String × α)) (pair : String × α) :
    ofList (pairs ++ [pair]) = (ofList pairs).insert pair.1 pair.2 :=
  insertAll_append empty pairs [pair]

theorem keys_ofList (pairs : List (String × α)) :
    (ofList pairs).keys = (pairs.map Prod.fst).eraseDups := by
  induction pairs using List.reverseRecOn with
  | nil => rfl
  | append_singleton pairs pair ih =>
    rw [ofList_append_singleton, keys_insert, ih, List.map_append, List.eraseDups_append]
    by_cases h : pair.1 ∈ pairs.map Prod.fst
    · simp [List.removeAll, List.mem_eraseDups.mpr h, h]
    · have hd : pair.1 ∉ (pairs.map Prod.fst).eraseDups := fun hm => h (List.mem_eraseDups.mp hm)
      simp [List.removeAll, List.eraseDups_cons, hd, h]

theorem get?_ofList (key : String) (pairs : List (String × α)) :
    (ofList pairs).get? key = lastValue? key pairs := by
  induction pairs using List.reverseRecOn with
  | nil => rfl
  | append_singleton pairs pair ih =>
    have hlast : lastValue? key (pairs ++ [pair]) =
        if pair.1 = key then some pair.2 else lastValue? key pairs := by
      by_cases h : pair.1 = key <;> simp [lastValue?, h]
    rw [ofList_append_singleton, get?_insert, ih, hlast]
    simp only [eq_comm]

theorem eq_filterMap_keys {entries : List (String × α)} (h : (entries.map Prod.fst).Nodup) :
    entries = (entries.map Prod.fst).filterMap fun key =>
      ((entries.find? fun entry => entry.1 = key).map Prod.snd).map (key, ·) := by
  induction entries with
  | nil => rfl
  | cons entry rest ih =>
    rw [List.map_cons, List.nodup_cons] at h
    have hrest : ∀ key ∈ rest.map Prod.fst, ¬ entry.1 = key := by
      rintro key hk rfl
      exact h.1 hk
    conv_lhs => rw [ih h.2]
    simp only [List.map_cons, List.filterMap_cons, List.find?_cons, decide_true, Option.map_some,
      List.cons.injEq, true_and]
    exact List.filterMap_congr fun key hk => by simp [hrest key hk]

/-- Of pairs put in one after the other, each key keeps its first place and its last value. -/
theorem entries_ofList (pairs : List (String × α)) : (ofList pairs).entries = lastValues pairs := by
  have he := eq_filterMap_keys (ofList pairs).nodup_keys
  rw [he, lastValues, ← keys_ofList]
  exact List.filterMap_congr fun key _ => congrArg _ (get?_ofList key pairs)

theorem nodup_keys_lastValues (pairs : List (String × α)) :
    ((lastValues pairs).map Prod.fst).Nodup :=
  entries_ofList pairs ▸ (ofList pairs).nodup_keys

theorem upsert_of_not_mem {key : String} {value : α} {entries : List (String × α)}
    (h : key ∉ entries.map Prod.fst) : upsert key value entries = entries ++ [(key, value)] := by
  induction entries with
  | nil => rfl
  | cons entry rest ih =>
    rw [List.map_cons, List.mem_cons, not_or] at h
    rw [upsert, if_neg (Ne.symm h.1), ih h.2, List.cons_append]

theorem entries_ofList_of_nodup {pairs : List (String × α)} (h : (pairs.map Prod.fst).Nodup) :
    (ofList pairs).entries = pairs := by
  induction pairs using List.reverseRecOn with
  | nil => rfl
  | append_singleton pairs pair ih =>
    rw [List.map_append, List.map_singleton, List.nodup_append] at h
    obtain ⟨hn, _, hd⟩ := h
    have hnew : pair.1 ∉ pairs.map Prod.fst :=
      fun hm => hd pair.1 hm pair.1 (List.mem_singleton_self _) rfl
    rw [ofList_append_singleton, entries_insert, ih hn, upsert_of_not_mem hnew]

theorem eq_of_entries_eq {m m' : Keyed α} (h : m.entries = m'.entries) : m = m' := by
  cases m
  cases m'
  cases h
  rfl

theorem ofList_entries (m : Keyed α) : ofList m.entries = m :=
  eq_of_entries_eq (entries_ofList_of_nodup m.nodup_keys)

/-- Pairs under distinct keys are all kept as they are. -/
theorem lastValues_of_nodup {pairs : List (String × α)} (h : (pairs.map Prod.fst).Nodup) :
    lastValues pairs = pairs := by
  rw [← entries_ofList, entries_ofList_of_nodup h]

theorem map_fst_lastValues (pairs : List (String × α)) :
    (lastValues pairs).map Prod.fst = (pairs.map Prod.fst).eraseDups := by
  rw [← entries_ofList]
  exact keys_ofList pairs

/-- Without repeats, elements stand in the order in which they came first. -/
theorem pairwise_idxOf_eraseDups (keys : List String) :
    keys.eraseDups.Pairwise fun a b => keys.idxOf a < keys.idxOf b := by
  induction keys using List.reverseRecOn with
  | nil => exact .nil
  | append_singleton keys key ih =>
    -- a key at the end leaves the places of those before it, and stands behind them if it is new
    have hold : ∀ a ∈ keys.eraseDups, (keys ++ [key]).idxOf a = keys.idxOf a := fun a ha =>
      List.idxOf_append_of_mem (List.mem_eraseDups.mp ha)
    have hkeys : keys.eraseDups.Pairwise fun a b =>
        (keys ++ [key]).idxOf a < (keys ++ [key]).idxOf b :=
      ih.imp_of_mem fun {a b} ha hb hlt => by rwa [hold a ha, hold b hb]
    rw [List.eraseDups_append]
    by_cases hk : key ∈ keys
    · simpa [List.removeAll, hk] using hkeys
    · have hnew : ([key].removeAll keys).eraseDups = [key] := by
        simp [List.removeAll, hk, List.eraseDups_cons]
      rw [hnew]
      refine List.pairwise_append.mpr ⟨hkeys, List.pairwise_singleton _ _, fun a ha b hb => ?_⟩
      obtain rfl := List.mem_singleton.mp hb
      have hlt := List.idxOf_lt_length_iff.mpr (List.mem_eraseDups.mp ha)
      rw [hold a ha, List.idxOf_append_of_notMem hk]
      omega

/-- What is there of pairs that were put in one after the other: every key once, in the order in
which the keys came first, with the value that came last. -/
structure Settled (pairs entries : List (String × α)) : Prop where
  distinct : (entries.map Prod.fst).Nodup
  ordered : entries.Pairwise fun a b =>
    (pairs.map Prod.fst).idxOf a.1 < (pairs.map Prod.fst).idxOf b.1
  mem_iff : ∀ key value, (key, value) ∈ entries ↔
    ∃ before after, pairs = before ++ (key, value) :: after ∧ ∀ later ∈ after, later.1 ≠ key

theorem settled_lastValues (pairs : List (String × α)) : Settled pairs (lastValues pairs) where
  distinct := nodup_keys_lastValues pairs
  ordered := by
    have h := pairwise_idxOf_eraseDups (pairs.map Prod.fst)
    rwa [← map_fst_lastValues, List.pairwise_map] at h
  mem_iff _ _ := mem_lastValues_iff.trans lastValue?_eq_some_iff

/-- There is only one way to be settled. -/
theorem settled_iff {pairs entries : List (String × α)} :
    Settled pairs entries ↔ entries = lastValues pairs := by
  refine ⟨fun h => ?_, fun h => h ▸ settled_lastValues pairs⟩
  have hl := settled_lastValues pairs
  have hperm : entries.Perm (lastValues pairs) :=
    (List.perm_ext_iff_of_nodup h.distinct.of_map hl.distinct.of_map).mpr fun (key, value) =>
      (h.mem_iff key value).trans (hl.mem_iff key value).symm
  exact List.Perm.eq_of_pairwise (fun a b _ _ hab hba => absurd hab (Nat.lt_asymm hba)) h.ordered
    hl.ordered hperm

theorem settled_ofList (pairs : List (String × α)) : Settled pairs (ofList pairs).entries :=
  settled_iff.mpr (entries_ofList pairs)

end Keyed

end Criteria
