import Criteria.Proofs.StatementNumbering

namespace Criteria

theorem getElem?_flatten_of_length {α : Type} {width : Nat} {rows : List (List α)}
    (h : ∀ row ∈ rows, row.length = width) {k n : Nat} {row : List α} (hk : rows[k]? = some row)
    (hn : n < width) : rows.flatten[k * width + n]? = row[n]? := by
  induction rows generalizing k with
  | nil => cases hk
  | cons first rest ih =>
    obtain ⟨hfirst, hrest⟩ := List.forall_mem_cons.mp h
    cases k with
    | zero =>
      cases hk
      rw [List.flatten_cons, Nat.zero_mul, Nat.zero_add, List.getElem?_append_left (by omega)]
    | succ k =>
      have hi : (k + 1) * width + n = first.length + (k * width + n) := by
        rw [Nat.succ_mul]
        omega
      rw [List.flatten_cons, hi, List.getElem?_append_right (by omega), Nat.add_sub_cancel_left]
      exact ih hrest hk

/-- The rows with columns of their own that a change gives. -/
def Change.givenRows : Change → List Row
  | .row r => [r]
  | .rows rs => rs
  | _ => []

/-- Whether a change leaves the rows that are there. -/
def Change.keepsRows : Change → Bool
  | .rows _ | .values _ => false
  | _ => true

namespace Insert

theorem exists_firstFailing {α : Type} {test : α → Bool} {xs : List α} {x : α} (hx : x ∈ xs)
    (ht : ¬ test x) : ∃ y index, ¬ test y ∧ xs[index]? = some y ∧
      firstFailing test xs = some (y, index) := by
  cases h : firstFailing test xs with
  | none => exact absurd (firstFailing_eq_none_iff.mp h x hx) ht
  | some failing =>
    obtain ⟨y, index⟩ := failing
    have hy : ¬ test y := by simpa using List.find?_some h
    exact ⟨y, index, hy, List.mem_zipIdx_iff_getElem?.mp (List.mem_of_find?_eq_some h), rfl⟩

theorem checkedColumns_of_ne {i : Insert} {columns keys : List String}
    (hc : i.columnLists.head? = some columns) (hm : keys ∈ i.columnLists) (hn : keys ≠ columns) :
    ∃ index other, i.columnLists[index]? = some other ∧ other ≠ columns ∧
      i.checkedColumns = .error (.shapeMismatch (.columns index other columns)) := by
  obtain ⟨rest, hlists⟩ := List.head?_eq_some_iff.mp hc
  have hkeys : ¬ (keys == columns) = true := fun h => hn (eq_of_beq h)
  obtain ⟨other, index, hother, hi, hfirst⟩ := @exists_firstFailing _ (· == columns) _ _ hm hkeys
  refine ⟨index, other, hi, fun h => hother (beq_iff_eq.mpr h), ?_⟩
  rw [hlists] at hfirst
  rw [checkedColumns_eq, hlists]
  simp only [hfirst]

theorem foldl_addRow (rows : List Row) (i : Insert) : rows.foldl addRow i =
    { i with columnLists := i.columnLists ++ rows.map Keyed.keys,
             rows := i.rows ++ rows.map Keyed.values } := by
  induction rows generalizing i with
  | nil => simp
  | cons row rest ih => simp [ih, addRow]

/-- The insert after changes, one after the other. -/
def applyAll (i : Insert) (changes : List Change) : Insert := changes.foldl apply i

/-- How many rows stand before the first that a change gives. -/
def rowsBefore (i : Insert) : Change → Nat
  | .row _ => i.rows.length
  | _ => 0

/-- The values of a row stand at an index, under its columns unless one of some changes gave
others. -/
def Carries (changes : List Change) (k : Nat) (r : Row) (i : Insert) : Prop :=
  i.rows[k]? = some r.values ∧ (r.keys ∈ i.columnLists ∨
    ∃ columns, i.columnLists.head? = some columns ∧ Change.columns columns ∈ changes)

theorem carries_given (changes : List Change) (i : Insert) {change : Change} {m : Nat} {r : Row}
    (h : change.givenRows[m]? = some r) :
    (i.apply change).Carries changes (i.rowsBefore change + m) r := by
  have hm : r ∈ change.givenRows := List.mem_of_getElem? h
  cases change with
  | row given =>
    cases List.mem_singleton.mp hm
    have hz : m = 0 := by
      have hl : m < 1 := (List.getElem?_eq_some_iff.mp h).1
      omega
    subst hz
    exact ⟨by simp [apply, addRow, rowsBefore], .inl (by simp [apply, addRow])⟩
  | rows given =>
    have hrows : given[m]? = some r := h
    have hlists : r.keys ∈ given.map Keyed.keys := List.mem_map_of_mem hm
    simp only [Carries, apply, setRows, foldl_addRow, rowsBefore, List.nil_append, Nat.zero_add,
      List.getElem?_map, hrows]
    exact ⟨rfl, .inl hlists⟩
  | _ => cases hm

/-- A change that keeps the rows may add more behind them, and may give other columns. -/
theorem carries_apply {changes : List Change} {k : Nat} {r : Row} {i : Insert}
    (h : i.Carries changes k r) {change : Change} (hm : change ∈ changes) (hk : change.keepsRows) :
    (i.apply change).Carries changes k r := by
  obtain ⟨hrow, hcolumns⟩ := h
  cases change with
  | columns columns => exact ⟨hrow, .inr ⟨columns, rfl, hm⟩⟩
  | row added =>
    -- rows and lists of columns are added behind those that are there
    have hlt := (List.getElem?_eq_some_iff.mp hrow).1
    refine ⟨(List.getElem?_append_left hlt).trans hrow, hcolumns.imp (List.mem_append_left _) ?_⟩
    rintro ⟨columns, hc, hm⟩
    refine ⟨columns, ?_, hm⟩
    simp [apply, addRow, List.head?_append, hc]
  | rows added => cases hk
  | values rows => cases hk
  | _ => exact ⟨hrow, hcolumns⟩

theorem carries_applyAll {changes : List Change} {k : Nat} {r : Row} {i : Insert}
    (h : i.Carries changes k r) {after : List Change} (hs : after ⊆ changes)
    (hk : ∀ change ∈ after, change.keepsRows) : (i.applyAll after).Carries changes k r := by
  induction after generalizing i with
  | nil => exact h
  | cons change rest ih =>
    obtain ⟨hm, hs⟩ := List.cons_subset.mp hs
    obtain ⟨hkeeps, hk⟩ := List.forall_mem_cons.mp hk
    exact ih (carries_apply h hm hkeeps) hs hk

theorem table_applyAll (i : Insert) (changes : List Change) :
    (i.applyAll changes).table = i.table := by
  induction changes generalizing i with
  | nil => rfl
  | cons change rest ih =>
    rw [applyAll, List.foldl_cons, ← applyAll, ih]
    cases change with
    | rows rows => simp [apply, setRows, foldl_addRow]
    | _ => rfl

theorem params_of_build {i : Insert} {f : Fragment} (h : (Statement.insert i).build = .ok f) :
    f.params = i.rows.flatten :=
  Statement.bindsInOrder_of_build h

theorem checkedColumns_of_build {i : Insert} {f : Fragment}
    (h : (Statement.insert i).build = .ok f) : ∃ columns, i.checkedColumns = .ok columns := by
  obtain ⟨_, hc, _⟩ := Statement.build_eq_ok h
  obtain ⟨_, _, hc⟩ := bind_eq_ok_iff.mp hc
  obtain ⟨columns, hc, _⟩ := bind_eq_ok_iff.mp hc
  exact ⟨columns, hc⟩

theorem build_of_mem_ne {i : Insert} {columns keys : List String}
    (hc : i.columnLists.head? = some columns) (hm : keys ∈ i.columnLists) (hn : keys ≠ columns) :
    ∃ index other, i.columnLists[index]? = some other ∧ other ≠ columns ∧
      (Statement.insert i).build =
        .error (if isSafeName i.table then .shapeMismatch (.columns index other columns)
          else .identifier "INSERT INTO" i.table) := by
  obtain ⟨index, other, hi, hother, he⟩ := checkedColumns_of_ne hc hm hn
  refine ⟨index, other, hi, hother, Statement.build_eq_error_of_check ?_⟩
  rw [Statement.check, checkName, he]
  split <;> rfl

/-- The values of a row with columns of its own are bound one after the other, each where its column
stands in the list that is written. A list given later may have other columns there; without one,
rows that differ from the list in names or order are refused. -/
theorem build_givenRows (i : Insert) (change : Change) (after : List Change)
    (hkeeps : ∀ c ∈ after, c.keepsRows) {m : Nat} {r : Row}
    (hr : change.givenRows[m]? = some r) :
    (∀ f, (Statement.insert (i.applyAll (change :: after))).build = .ok f →
      ∃ columns rest,
        f.sql = "INSERT INTO " ++ i.table ++ "\n(" ++ ", ".intercalate columns ++ ")\nVALUES\n" ++
          rest ∧
        columns.length = r.size ∧
        ∀ n name value, r.entries[n]? = some (name, value) →
          f.params[(i.rowsBefore change + m) * columns.length + n]? = some value ∧
          (columns[n]? = some name ∨ Change.columns columns ∈ after)) ∧
    ((∀ columns, Change.columns columns ∉ after) → ∀ columns,
      (i.applyAll (change :: after)).columnLists.head? = some columns → columns ≠ r.keys →
      ∃ index other, (i.applyAll (change :: after)).columnLists[index]? = some other ∧
        other ≠ columns ∧ (Statement.insert (i.applyAll (change :: after))).build =
          .error (if isSafeName i.table then .shapeMismatch (.columns index other columns)
            else .identifier "INSERT INTO" i.table)) := by
  have hcarries : (i.applyAll (change :: after)).Carries after (i.rowsBefore change + m) r :=
    carries_applyAll (carries_given after i hr) (List.Subset.refl after) hkeeps
  have htable := table_applyAll i (change :: after)
  generalize i.applyAll (change :: after) = final at hcarries htable ⊢
  obtain ⟨hrow, hcolumns⟩ := hcarries
  constructor
  · intro f h
    obtain ⟨columns, hc⟩ := checkedColumns_of_build h
    obtain ⟨hhead, hlists, _, _, hlengths⟩ := checkedColumns_eq_ok_iff.mp hc
    have hsize : columns.length = r.size := by
      rw [← hlengths _ (List.mem_of_getElem? hrow), Keyed.values, List.length_map, Keyed.size]
    obtain ⟨rest, hsql⟩ := Statement.sql_of_build h rfl
    rw [hhead, htable] at hsql
    refine ⟨columns, rest, hsql, hsize, fun n name value he => ⟨?_, ?_⟩⟩
    · have hn : n < columns.length := hsize ▸ (List.getElem?_eq_some_iff.mp he).1
      rw [params_of_build h, getElem?_flatten_of_length hlengths hrow hn, Keyed.values,
        List.getElem?_map, he]
      rfl
    · refine hcolumns.imp (fun hkeys => ?_) ?_
      · rw [← hlists _ hkeys, Keyed.keys, List.getElem?_map, he]
        rfl
      · rintro ⟨given, hg, hm⟩
        cases hhead.symm.trans hg
        exact hm
  · intro hnone columns hhead hne
    have hkeys : r.keys ∈ final.columnLists := by
      refine hcolumns.resolve_right ?_
      rintro ⟨_, _, hm⟩
      exact hnone _ hm
    rw [← htable]
    exact build_of_mem_ne hhead hkeys hne.symm

def ripeFruit : Row := Keyed.ofList [("name", .text "kiwi"), ("weight", .int 2)]

/-- A second row is bound behind the first; a row behind columns in another order is refused. -/
theorem build_givenRows_ripeFruit :
    (∃ f columns rest,
      (Statement.insert (({ table := "fruits" } : Insert).applyAll
        [.row ripeFruit, .row ripeFruit, .format ⟨.dollar, 2⟩])).build = .ok f ∧
      f.sql = "INSERT INTO fruits\n(" ++ ", ".intercalate columns ++ ")\nVALUES\n" ++ rest ∧
      columns.length = 2 ∧ f.params[1 * columns.length + 1]? = some (.int 2) ∧
      columns[1]? = some "weight") ∧
    ∃ index other, other ≠ ["weight", "name"] ∧
      (Statement.insert (({ table := "fruits" } : Insert).applyAll
        [.columns ["weight", "name"], .row ripeFruit])).build =
          .error (.shapeMismatch (.columns index other ["weight", "name"])) := by
  constructor
  · have hkeeps : ∀ c ∈ [Change.format ⟨.dollar, 2⟩], c.keepsRows := by
      decide
    obtain ⟨columns, rest, hsql, hlength, hbound⟩ := (build_givenRows
      (({ table := "fruits" } : Insert).apply (.row ripeFruit)) (.row ripeFruit)
      [.format ⟨.dollar, 2⟩] hkeeps List.getElem?_cons_zero).1
      ⟨"INSERT INTO fruits\n(name, weight)\nVALUES\n($1, $2),\n($3, $4)",
        [.text "kiwi", .int 2, .text "kiwi", .int 2]⟩ rfl
    obtain ⟨hvalue, hname⟩ := hbound 1 "weight" (.int 2) rfl
    exact ⟨_, columns, rest, rfl, hsql, hlength, hvalue, hname.resolve_right (by simp)⟩
  · have hne : ["weight", "name"] ≠ ripeFruit.keys := by
      decide
    obtain ⟨index, other, _, hother, he⟩ := (build_givenRows
      (({ table := "fruits" } : Insert).apply (.columns ["weight", "name"])) (.row ripeFruit) []
      nofun List.getElem?_cons_zero).2 nofun ["weight", "name"] rfl hne
    exact ⟨index, other, hother, he⟩

/-- A list of columns in another order, given behind a row, takes over the values of the row. -/
theorem build_relabelledFruit :
    (Statement.insert (({ table := "fruits" } : Insert).applyAll
      [.row ripeFruit, .columns ["weight", "name"]])).build =
        .ok ⟨"INSERT INTO fruits\n(weight, name)\nVALUES\n(?, ?)", [.text "kiwi", .int 2]⟩ := by
  rfl

end Insert

end Criteria
