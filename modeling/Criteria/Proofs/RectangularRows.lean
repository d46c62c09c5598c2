import Criteria.Proofs.CheckedNames
import Criteria.Proofs.InsertedRows
import Criteria.Proofs.LatestChanges

namespace Criteria

namespace Change

/-- The lists of columns that a change gives. -/
def givenLists : Change → List (List String)
  | .row r => [r.keys]
  | .rows rs => rs.map Keyed.keys
  | .columns names => [names]
  | _ => []

/-- The rows of values that a change gives, with columns of their own or without. -/
def givenValues : Change → List (List Value)
  | .row r => [r.values]
  | .rows rs => rs.map Keyed.values
  | .values vs => vs
  | _ => []

/-- Whether a change leaves the lists of columns that are there. -/
def keepsLists : Change → Bool
  | .rows _ | .columns _ => false
  | _ => true

/-- The lists of columns that are recorded after changes of an insert without any. -/
def recordedLists (changes : List Change) : List (List String) :=
  (latest keepsLists changes).flatMap givenLists

/-- The rows of values that are recorded after changes of an insert without any. -/
def recordedRows (changes : List Change) : List (List Value) :=
  (latest keepsRows changes).flatMap givenValues

end Change

namespace Insert

theorem columnLists_apply (i : Insert) (change : Change) :
    (i.apply change).columnLists =
      (if change.keepsLists then i.columnLists else []) ++ change.givenLists := by
  cases change with
  | rows rows => simp [apply, setRows, foldl_addRow, Change.keepsLists, Change.givenLists]
  | _ => simp [apply, addRow, setColumns, setValues, Change.keepsLists, Change.givenLists]

theorem rows_apply (i : Insert) (change : Change) :
    (i.apply change).rows =
      (if change.keepsRows then i.rows else []) ++ change.givenValues := by
  cases change with
  | rows rows => simp [apply, setRows, foldl_addRow, Change.keepsRows, Change.givenValues]
  | _ => simp [apply, addRow, setColumns, setValues, Change.keepsRows, Change.givenValues]

theorem columnLists_applyAll (table : String) (changes : List Change) :
    (({ table } : Insert).applyAll changes).columnLists = Change.recordedLists changes := by
  rw [applyAll, Change.foldl_latest columnLists_apply, ite_self, List.nil_append]
  rfl

theorem rows_applyAll (table : String) (changes : List Change) :
    (({ table } : Insert).applyAll changes).rows = Change.recordedRows changes := by
  rw [applyAll, Change.foldl_latest rows_apply, ite_self, List.nil_append]
  rfl

/-- The same columns in every list, and rows of one value for each of them. -/
structure Rectangular (lists : List (List String)) (rows : List (List Value))
    (columns : List String) : Prop where
  head : lists.head? = some columns
  shared : ∀ list ∈ lists, list = columns
  columns_ne_nil : columns ≠ []
  rows_ne_nil : rows ≠ []
  width : ∀ row ∈ rows, row.length = columns.length

/-- Why lists of columns and rows of values cannot be inserted. Lists that differ are told before
anything that is missing, and a row of another width last. -/
inductive Refused (lists : List (List String)) (rows : List (List Value)) : BuildError → Prop
  | nothing (hl : lists = []) (hr : rows = []) : Refused lists rows (.missingData .rows)
  | noLists (hl : lists = []) (hr : rows ≠ []) : Refused lists rows (.missingData .columnLists)
  | differing {first other : List String} {index : Nat} (hh : lists.head? = some first)
      (hi : lists[index]? = some other) (hn : other ≠ first)
      (hb : ∀ list ∈ lists.take index, list = first) :
      Refused lists rows (.shapeMismatch (.columns index other first))
  | noColumns (hn : lists ≠ []) (hs : ∀ list ∈ lists, list = []) :
      Refused lists rows (.missingData .columns)
  | noValues {columns : List String} (hh : lists.head? = some columns)
      (hs : ∀ list ∈ lists, list = columns) (hc : columns ≠ []) (hr : rows = []) :
      Refused lists rows (.missingData .values)
  | width {columns : List String} {row : List Value} {index : Nat}
      (hh : lists.head? = some columns) (hs : ∀ list ∈ lists, list = columns) (hc : columns ≠ [])
      (hi : rows[index]? = some row) (hw : row.length ≠ columns.length)
      (hb : ∀ earlier ∈ rows.take index, earlier.length = columns.length) :
      Refused lists rows (.shapeMismatch (.width index row.length columns.length))

theorem firstFailing_eq_some_iff {α : Type} {test : α → Bool} {xs : List α} {x : α} {index : Nat} :
    firstFailing test xs = some (x, index) ↔
      xs[index]? = some x ∧ ¬ test x ∧ ∀ y ∈ xs.take index, test y := by
  rw [firstFailing, List.find?_eq_some_iff_getElem]
  simp only [List.getElem_zipIdx, Nat.zero_add, List.length_zipIdx, Prod.mk.injEq]
  constructor
  · rintro ⟨ht, i, hi, ⟨rfl, rfl⟩, hb⟩
    refine ⟨List.getElem?_eq_getElem hi, by simpa using ht, fun y hy => ?_⟩
    obtain ⟨j, hj, rfl⟩ := List.mem_take_iff_getElem.mp hy
    simpa using hb j (by omega)
  · rintro ⟨hx, ht, hb⟩
    obtain ⟨hi, rfl⟩ := List.getElem?_eq_some_iff.mp hx
    refine ⟨by simpa using ht, index, hi, ⟨rfl, rfl⟩, fun j hj => ?_⟩
    have hm : xs[j] ∈ xs.take index := List.mem_take_iff_getElem.mpr ⟨j, by omega, rfl⟩
    simpa using hb _ hm

/-- Lists that are all the first one pass the comparison with it. -/
theorem firstFailing_eq_none_of_shared {lists : List (List String)} {columns : List String}
    (hs : ∀ list ∈ lists, list = columns) : firstFailing (· == columns) lists = none :=
  firstFailing_eq_none_iff.mpr fun list hm => beq_iff_eq.mpr (hs list hm)

theorem checkedColumns_of_refused {i : Insert} {error : BuildError}
    (h : Refused i.columnLists i.rows error) : i.checkedColumns = .error error := by
  rw [checkedColumns_eq]
  generalize i.columnLists = lists at h ⊢
  generalize i.rows = rows at h ⊢
  cases h with
  | nothing hl hr =>
    subst hl hr
    rfl
  | noLists hl hr =>
    subst hl
    simp [hr]
  | differing hh hi hn hb =>
    obtain ⟨rest, rfl⟩ := List.head?_eq_some_iff.mp hh
    have hf := firstFailing_eq_some_iff.mpr
      ⟨hi, by simpa using hn, fun list hm => beq_iff_eq.mpr (hb list hm)⟩
    simp only [hf]
  | noColumns hn hs =>
    obtain ⟨first, rest, rfl⟩ := List.exists_cons_of_ne_nil hn
    obtain rfl := hs first List.mem_cons_self
    simp only [firstFailing_eq_none_of_shared hs]
    rfl
  | noValues hh hs hc hr =>
    obtain ⟨rest, rfl⟩ := List.head?_eq_some_iff.mp hh
    subst hr
    simp [firstFailing_eq_none_of_shared hs, hc]
  | @width columns row index hh hs hc hi hw hb =>
    obtain ⟨rest, rfl⟩ := List.head?_eq_some_iff.mp hh
    have hr : rows ≠ [] := List.ne_nil_of_mem (List.mem_of_getElem? hi)
    have hf : firstFailing (fun row : List Value => row.length == columns.length) rows =
        some (row, index) :=
      firstFailing_eq_some_iff.mpr
        ⟨hi, by simpa using hw, fun row hm => beq_iff_eq.mpr (hb row hm)⟩
    simp [firstFailing_eq_none_of_shared hs, hc, hr, hf]

/-- What cannot be inserted is refused for one of the reasons. -/
theorem rectangular_or_refused (lists : List (List String)) (rows : List (List Value)) :
    (∃ columns, Rectangular lists rows columns) ∨ ∃ error, Refused lists rows error := by
  cases lists with
  | nil =>
    by_cases hr : rows = []
    · exact .inr ⟨_, .nothing rfl hr⟩
    · exact .inr ⟨_, .noLists rfl hr⟩
  | cons columns rest =>
    cases hs : firstFailing (· == columns) (columns :: rest) with
    | some failing =>
      obtain ⟨hi, hn, hb⟩ := firstFailing_eq_some_iff.mp hs
      exact .inr ⟨_, .differing rfl hi (by simpa using hn) fun list hm => eq_of_beq (hb list hm)⟩
    | none =>
      have hs : ∀ list ∈ columns :: rest, list = columns := fun list hm =>
        eq_of_beq (firstFailing_eq_none_iff.mp hs list hm)
      by_cases hc : columns = []
      · exact .inr ⟨_, .noColumns (List.cons_ne_nil _ _) (hc ▸ hs)⟩
      · by_cases hr : rows = []
        · exact .inr ⟨_, .noValues rfl hs hc hr⟩
        · cases hw : firstFailing (fun row => row.length == columns.length) rows with
          | some failing =>
            obtain ⟨hi, hn, hb⟩ := firstFailing_eq_some_iff.mp hw
            exact .inr ⟨_, .width rfl hs hc hi (by simpa using hn) fun row hm =>
              eq_of_beq (hb row hm)⟩
          | none =>
            exact .inl ⟨columns, rfl, hs, hc, hr, fun row hm =>
              eq_of_beq (firstFailing_eq_none_iff.mp hw row hm)⟩

theorem Rectangular.checkedColumns {i : Insert} {columns : List String}
    (h : Rectangular i.columnLists i.rows columns) : i.checkedColumns = .ok columns :=
  checkedColumns_eq_ok_iff.mpr ⟨h.head, h.shared, h.columns_ne_nil, h.rows_ne_nil, h.width⟩

theorem rectangular_iff {i : Insert} {columns : List String} :
    Rectangular i.columnLists i.rows columns ↔ i.checkedColumns = .ok columns := by
  refine ⟨Rectangular.checkedColumns, fun h => ?_⟩
  obtain ⟨hh, hs, hc, hr, hw⟩ := checkedColumns_eq_ok_iff.mp h
  exact ⟨hh, hs, hc, hr, hw⟩

theorem checkedColumns_eq_error_iff {i : Insert} {error : BuildError} :
    i.checkedColumns = .error error ↔ Refused i.columnLists i.rows error := by
  refine ⟨fun h => ?_, checkedColumns_of_refused⟩
  rcases rectangular_or_refused i.columnLists i.rows with ⟨columns, hr⟩ | ⟨other, hr⟩
  · rw [hr.checkedColumns] at h
    cases h
  · rw [checkedColumns_of_refused hr] at h
    cases h
    exact hr

end Insert

namespace Template

/-- Joined parts that bind the same number of values are numbered by their places. -/
theorem sql_joined_of_width {α : Type} {style : Placeholder} {part : α → Template} {as : List α}
    (separator : String) (offset width : Nat) (text : Nat → String)
    (hw : ∀ a ∈ as, (part a).values.length = width)
    (ht : ∀ a ∈ as, ∀ k, (part a).sql style (offset + k * width) = text k) (k : Nat) :
    (joined separator (as.map part)).sql style (offset + k * width) =
      separator.intercalate ((List.range' k as.length).map text) := by
  induction as generalizing k with
  | nil => rfl
  | cons a as ih =>
    obtain ⟨hwidth, hw⟩ := List.forall_mem_cons.mp hw
    obtain ⟨htext, ht⟩ := List.forall_mem_cons.mp ht
    have hnext : offset + k * width + width = offset + (k + 1) * width := by
      rw [Nat.succ_mul, Nat.add_assoc]
    cases as with
    | nil => simp [htext, List.range'_succ]
    | cons next as =>
      have hrest := ih hw ht (k + 1)
      rw [List.map_cons, List.length_cons, List.range'_succ, List.map_cons] at hrest
      rw [List.map_cons, List.map_cons, joined_cons_cons, sql_append, htext, hwidth, hnext, sql,
        hrest, List.length_cons, List.length_cons, List.range'_succ, List.range'_succ,
        List.map_cons, List.map_cons, String.intercalate_cons_cons, String.append_assoc]

theorem sql_parenthesised (style : Placeholder) (offset : Nat) (t : Template) :
    t.parenthesised.sql style offset = "(" ++ t.sql style offset ++ ")" := by
  simp [parenthesised, sql, sql_append, String.append_assoc]

end Template

namespace Insert

/-- The marks of a row with so many rows of the same width before it. -/
def tuple (style : Placeholder) (width k : Nat) : String :=
  "(" ++ ", ".intercalate ((List.range width).map fun n => style.mark (k * width + n + 1)) ++ ")"

/-- The text of an insert of so many rows. -/
def textOf (style : Placeholder) (table : String) (columns : List String) (count : Nat) : String :=
  "INSERT INTO " ++ table ++ "\n(" ++ ", ".intercalate columns ++ ")\nVALUES\n" ++
    ",\n".intercalate ((List.range count).map (tuple style columns.length))

theorem sql_rowTemplate (style : Placeholder) (row : List Value) (k : Nat) :
    (rowTemplate row).sql style (0 + k * row.length) = tuple style row.length k := by
  let part (value : Value) : Template := [.bound value]
  have hw : ∀ value ∈ row, (part value).values.length = 1 := fun _ _ => rfl
  have ht : ∀ value ∈ row, ∀ n, (part value).sql style (0 + k * row.length + n * 1) =
      style.mark (k * row.length + n + 1) := by
    intro value _ n
    simp [part, Template.sql]
  have hrow := Template.sql_joined_of_width ", " (0 + k * row.length) 1 _ hw ht 0
  rw [Nat.zero_mul, Nat.add_zero] at hrow
  rw [rowTemplate, Template.sql_parenthesised, hrow, tuple, List.range_eq_range']

/-- Rectangular rows are written with the marks of their values in order. -/
theorem Rectangular.sql_opening {i : Insert} {columns : List String}
    (h : Rectangular i.columnLists i.rows columns) (style : Placeholder) :
    (Statement.insert i).opening.sql style 0 = textOf style i.table columns i.rows.length := by
  have hw : ∀ row ∈ i.rows, (rowTemplate row).values.length = columns.length := by
    intro row hm
    rw [values_rowTemplate, h.width row hm]
  have ht : ∀ row ∈ i.rows, ∀ k, (rowTemplate row).sql style (0 + k * columns.length) =
      tuple style columns.length k := by
    intro row hm k
    rw [← h.width row hm, sql_rowTemplate]
  have hrows := Template.sql_joined_of_width ",\n" 0 columns.length _ hw ht 0
  rw [Nat.zero_mul] at hrows
  rw [Statement.opening, h.head, Option.getD_some, Template.sql, hrows, ← List.range_eq_range']
  rfl

theorem build_eq (i : Insert) :
    (Statement.insert i).build = (do
      checkName "INSERT INTO" i.table
      let _ ← i.checkedColumns
      return (Statement.insert i).opening.fragment i.format.placeholder 0) := by
  rw [Statement.build, Statement.template_eq, Statement.check]
  cases checkName "INSERT INTO" i.table with
  | error e => rfl
  | ok =>
    cases i.checkedColumns with
    | error e => rfl
    | ok columns =>
      have hn : (Statement.insert i).opening ++ ([] ++ (Statement.insert i).closing) =
          (Statement.insert i).opening :=
        List.append_nil _
      change Except.ok (((Statement.insert i).opening ++
        ([] ++ (Statement.insert i).closing)).fragment i.format.placeholder 0) = _
      rw [hn]
      rfl

theorem build_eq_ok_iff {i : Insert} {f : Fragment} :
    (Statement.insert i).build = .ok f ↔
      IsPlainName i.table ∧ ∃ columns, Rectangular i.columnLists i.rows columns ∧
        f = ⟨textOf i.format.placeholder i.table columns i.rows.length, i.rows.flatten⟩ := by
  have hparams : (Statement.insert i).opening.values = i.rows.flatten := Statement.values_opening _
  rw [build_eq, bind_eq_ok_iff, ← @checkName_eq_ok_iff "INSERT INTO"]
  constructor
  · rintro ⟨⟨⟩, hp, h⟩
    obtain ⟨columns, hc, h⟩ := bind_eq_ok_iff.mp h
    have hr := rectangular_iff.mpr hc
    cases h
    exact ⟨hp, columns, hr, by rw [← hr.sql_opening, ← hparams]; rfl⟩
  · rintro ⟨hp, columns, hr, rfl⟩
    refine ⟨(), hp, bind_eq_ok_iff.mpr ⟨columns, hr.checkedColumns, ?_⟩⟩
    rw [← hr.sql_opening, ← hparams]
    rfl

theorem build_eq_error_iff {i : Insert} {error : BuildError} :
    (Statement.insert i).build = .error error ↔
      (¬ IsPlainName i.table ∧ error = .identifier "INSERT INTO" i.table) ∨
        (IsPlainName i.table ∧ Refused i.columnLists i.rows error) := by
  rw [build_eq, ← checkedColumns_eq_error_iff]
  by_cases hp : IsPlainName i.table
  · rw [checkName_eq_ok_iff.mpr hp]
    cases i.checkedColumns with
    | error e => simp [hp, bind, Except.bind]
    | ok columns => simp [hp, bind, Except.bind, pure, Except.pure]
  · rw [checkName_eq_error hp]
    simp [hp, bind, Except.bind, eq_comm]

theorem length_flatten_of_length {α : Type} {width : Nat} {rows : List (List α)}
    (h : ∀ row ∈ rows, row.length = width) : rows.flatten.length = rows.length * width := by
  rw [List.length_flatten, List.map_congr_left h, List.map_const', List.sum_replicate_nat]

/-- Exactly rectangular data is inserted. However rows and columns were given, an insert is built
exactly if its table has a plain name and the lists and rows that are recorded are rectangular; its
marks are then numbered row by row, each for the value in its place. Anything else is refused, and
for the reason that comes first. -/
theorem build_rectangular (table : String) (changes : List Change) :
    ((∃ f, (Statement.insert (({ table } : Insert).applyAll changes)).build = .ok f) ↔
      IsPlainName table ∧ ∃ columns,
        Rectangular (Change.recordedLists changes) (Change.recordedRows changes) columns) ∧
    (∀ f columns, (Statement.insert (({ table } : Insert).applyAll changes)).build = .ok f →
      Rectangular (Change.recordedLists changes) (Change.recordedRows changes) columns →
      f.sql = textOf (({ table } : Insert).applyAll changes).format.placeholder table columns
        (Change.recordedRows changes).length ∧
      f.params.length = (Change.recordedRows changes).length * columns.length ∧
      ∀ k n row value, (Change.recordedRows changes)[k]? = some row → row[n]? = some value →
        f.params[k * columns.length + n]? = some value) ∧
    ∀ error, (Statement.insert (({ table } : Insert).applyAll changes)).build = .error error ↔
      (¬ IsPlainName table ∧ error = .identifier "INSERT INTO" table) ∨
        (IsPlainName table ∧
          Refused (Change.recordedLists changes) (Change.recordedRows changes) error) := by
  have ht : (({ table } : Insert).applyAll changes).table = table := table_applyAll _ changes
  rw [← columnLists_applyAll table, ← rows_applyAll table]
  generalize ({ table } : Insert).applyAll changes = i at ht ⊢
  subst ht
  refine ⟨⟨?_, ?_⟩, ?_, fun error => build_eq_error_iff⟩
  · rintro ⟨f, hf⟩
    obtain ⟨hp, columns, h, _⟩ := build_eq_ok_iff.mp hf
    exact ⟨hp, columns, h⟩
  · rintro ⟨hp, columns, h⟩
    exact ⟨_, build_eq_ok_iff.mpr ⟨hp, columns, h, rfl⟩⟩
  · intro f columns hf h
    obtain ⟨_, columns', h', rfl⟩ := build_eq_ok_iff.mp hf
    obtain rfl : columns = columns' := Option.some.inj (h.head.symm.trans h'.head)
    refine ⟨rfl, length_flatten_of_length h.width, fun k n row value hk hn => ?_⟩
    have hlt : n < columns.length := by
      rw [← h.width row (List.mem_of_getElem? hk)]
      exact (List.getElem?_eq_some_iff.mp hn).1
    exact (getElem?_flatten_of_length h.width hk hlt).trans hn

/-- Rows given again with columns of their own, and rows of another width behind lists that
differ. -/
theorem build_rectangular_ripeFruit :
    (∃ f, (Statement.insert (({ table := "fruits" } : Insert).applyAll
        [.columns ["id"], .rows [ripeFruit, ripeFruit], .format ⟨.dollar, 4⟩])).build = .ok f ∧
      f.sql = "INSERT INTO fruits\n(name, weight)\nVALUES\n($1, $2),\n($3, $4)" ∧
      f.params.length = 4 ∧ f.params[2]? = some (.text "kiwi")) ∧
    (Statement.insert (({ table := "fruits" } : Insert).applyAll
      [.row {}, .row ripeFruit, .values [[]]])).build =
        .error (.shapeMismatch (.columns 1 ["name", "weight"] [])) := by
  constructor
  · have hr : Rectangular
        (Change.recordedLists
          [.columns ["id"], .rows [ripeFruit, ripeFruit], .format ⟨.dollar, 4⟩])
        (Change.recordedRows
          [.columns ["id"], .rows [ripeFruit, ripeFruit], .format ⟨.dollar, 4⟩])
        ["name", "weight"] :=
      ⟨by decide, by decide, by decide, by decide, by decide⟩
    have hp : IsPlainName "fruits" := isSafeName_iff.mp rfl
    obtain ⟨f, hf⟩ := (build_rectangular _ _).1.mpr ⟨hp, _, hr⟩
    obtain ⟨hsql, hlength, hbound⟩ := (build_rectangular _ _).2.1 f _ hf hr
    refine ⟨f, hf, ?_, hlength, hbound 1 0 _ _ rfl rfl⟩
    rw [hsql]
    decide
  · exact ((build_rectangular "fruits" _).2.2 _).mpr
      (.inr ⟨isSafeName_iff.mp rfl, .differing rfl rfl (by decide) (by decide)⟩)

end Insert

end Criteria
