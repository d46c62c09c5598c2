import Criteria.Proofs.PresentEntries
import Criteria.Statement

namespace Criteria

theorem Select.checkedTable_eq_ok {s : Select} {table : String} (h : s.checkedTable = .ok table) :
    s.table = some table := by
  unfold Select.checkedTable at h
  split at h
  next => cases h
  next given hg =>
    split at h
    next => cases h
    next =>
      obtain ⟨_, _, h⟩ := bind_eq_ok_iff.mp h
      cases h
      exact hg

/-- The faults of new rows in the order in which they are looked for. -/
theorem Insert.checkedColumns_eq (i : Insert) :
    i.checkedColumns =
      match i.columnLists with
      | [] => .error (.missingData (if i.rows.isEmpty then .rows else .columnLists))
      | columns :: rest =>
        match firstFailing (· == columns) (columns :: rest) with
        | some (other, index) => .error (.shapeMismatch (.columns index other columns))
        | none =>
          if columns.isEmpty then .error (.missingData .columns)
          else if i.rows.isEmpty then .error (.missingData .values)
          else
            match firstFailing (fun row => row.length == columns.length) i.rows with
            | some (row, index) => .error (.shapeMismatch (.width index row.length columns.length))
            | none => .ok columns := by
  unfold checkedColumns
  cases i.columnLists with
  | nil => cases i.rows.isEmpty <;> rfl
  | cons columns rest =>
    simp only
    cases firstFailing (· == columns) (columns :: rest) with
    | some failing => rfl
    | none =>
      cases columns.isEmpty with
      | true => rfl
      | false =>
        cases i.rows.isEmpty with
        | true => rfl
        | false => cases firstFailing (fun row => row.length == columns.length) i.rows <;> rfl

theorem Insert.firstFailing_eq_none_iff {α : Type} {test : α → Bool} {xs : List α} :
    firstFailing test xs = none ↔ ∀ x ∈ xs, test x := by
  simp only [firstFailing, List.find?_eq_none, Bool.not_eq_true', Bool.not_eq_false, Prod.forall]
  constructor
  · intro h x hx
    obtain ⟨k, hk⟩ := List.mem_iff_getElem?.mp hx
    exact h x k (List.mem_zipIdx_iff_getElem?.mpr hk)
  · intro h x k hk
    exact h x (List.mem_of_getElem? (List.mem_zipIdx_iff_getElem?.mp hk))

/-- Columns that pass are those of every row, and the rows are as long as they are. -/
theorem Insert.checkedColumns_eq_ok_iff {i : Insert} {columns : List String} :
    i.checkedColumns = .ok columns ↔ i.columnLists.head? = some columns ∧
      (∀ other ∈ i.columnLists, other = columns) ∧ columns ≠ [] ∧ i.rows ≠ [] ∧
      ∀ row ∈ i.rows, row.length = columns.length := by
  constructor
  · intro h
    rw [checkedColumns_eq] at h
    split at h
    next => cases h
    next first rest hlists =>
      split at h
      next => cases h
      next hshared =>
        split at h
        next => cases h
        next hne =>
          split at h
          next => cases h
          next hrows =>
            split at h
            next => cases h
            next hwidth =>
              cases h
              rw [hlists]
              exact ⟨rfl, fun other hm => eq_of_beq (firstFailing_eq_none_iff.mp hshared other hm),
                fun he => hne (List.isEmpty_iff.mpr he), fun he => hrows (List.isEmpty_iff.mpr he),
                fun row hm => eq_of_beq (firstFailing_eq_none_iff.mp hwidth row hm)⟩
  · rintro ⟨hhead, hshared, hne, hrows, hwidth⟩
    obtain ⟨rest, hlists⟩ := List.head?_eq_some_iff.mp hhead
    have hs : firstFailing (· == columns) (columns :: rest) = none :=
      firstFailing_eq_none_iff.mpr fun other hm => beq_iff_eq.mpr (hshared other (hlists ▸ hm))
    have hw : firstFailing (fun row => row.length == columns.length) i.rows = none :=
      firstFailing_eq_none_iff.mpr fun row hm => beq_iff_eq.mpr (hwidth row hm)
    simp [checkedColumns_eq, hlists, hs, hw, hne, hrows]

namespace Statement

def format : Statement → Format
  | .select s => s.format
  | .insert i => i.format
  | .update u => u.format
  | .delete d => d.format

def filter : Statement → Option Where
  | .select s => s.filter
  | .insert _ => none
  | .update u => u.filter
  | .delete d => d.filter

/-- The statement with another filter; new rows have none. -/
def withFilter (filter : Option Where) : Statement → Statement
  | .select s => .select { s with filter }
  | .insert i => .insert i
  | .update u => .update { u with filter }
  | .delete d => .delete { d with filter }

/-- What is checked before the filter is read. -/
def check : Statement → Except BuildError Unit
  | .select s => do
    let _ ← s.checkedTable
    s.options.entries.forM Select.checkOption
  | .insert i => do
    checkName "INSERT INTO" i.table
    let _ ← i.checkedColumns
  | .update u => do
    checkName "UPDATE" u.table
    if u.assignments.isEmpty then throw (.missingData .assignments)
  | .delete d => checkName "DELETE FROM" d.table

/-- What is written before the filter. -/
def opening : Statement → Template
  | .select s => [.text ("SELECT " ++ s.columnText ++ "\nFROM " ++ s.table.getD "")]
  | .insert i =>
    .text ("INSERT INTO " ++ i.table ++ "\n(" ++ ", ".intercalate (i.columnLists.head?.getD []) ++
        ")\nVALUES\n") ::
      Template.joined ",\n" (i.rows.map Insert.rowTemplate)
  | .update u => .text ("UPDATE " ++ u.table ++ "\nSET ") :: u.assignmentTemplate
  | .delete d => [.text ("DELETE FROM " ++ d.table)]

/-- What is written behind the filter. -/
def closing : Statement → Template
  | .select s => s.orderTemplate ++ s.limitTemplate ++ s.optionTemplate
  | _ => []

theorem placeholder_eq (s : Statement) : s.placeholder = s.format.placeholder := by
  cases s <;> rfl

/-- A statement is checked, then its filter is read between its two other parts. -/
theorem template_eq (s : Statement) :
    s.template = do
      s.check
      let condition ← filterTemplate s.filter s.format.indent
      return s.opening ++ (condition ++ s.closing) := by
  cases s with
  | select s =>
    simp only [template, Select.template, check, filter, format, opening, closing]
    cases ht : s.checkedTable with
    | error e => rfl
    | ok table =>
      rw [Select.checkedTable_eq_ok ht]
      cases s.options.entries.forM Select.checkOption with
      | error e => rfl
      | ok =>
        cases filterTemplate s.filter s.format.indent with
        | error e => rfl
        | ok condition => simp [bind, Except.bind, pure, Except.pure]
  | insert i =>
    simp only [template, Insert.template, check, filter, opening, closing]
    cases checkName "INSERT INTO" i.table with
    | error e => rfl
    | ok =>
      cases hc : i.checkedColumns with
      | error e => rfl
      | ok columns =>
        rw [(Insert.checkedColumns_eq_ok_iff.mp hc).1]
        simp [bind, Except.bind, pure, Except.pure, filterTemplate]
  | update u =>
    simp only [template, Update.template, check, filter, format, opening, closing]
    cases checkName "UPDATE" u.table with
    | error e => rfl
    | ok =>
      cases filterTemplate u.filter u.format.indent with
      | error e => cases u.assignments.isEmpty <;> rfl
      | ok condition => cases u.assignments.isEmpty <;> simp [bind, Except.bind, pure, Except.pure]
  | delete d =>
    simp only [template, Delete.template, check, filter, format, opening, closing]
    cases checkName "DELETE FROM" d.table with
    | error e => rfl
    | ok =>
      cases filterTemplate d.filter d.format.indent with
      | error e => rfl
      | ok condition => simp [bind, Except.bind, pure, Except.pure]

theorem build_eq_ok {s : Statement} {f : Fragment} (h : s.build = .ok f) :
    ∃ condition, s.check = .ok () ∧ filterTemplate s.filter s.format.indent = .ok condition ∧
      f = (s.opening ++ (condition ++ s.closing)).fragment s.format.placeholder 0 := by
  obtain ⟨t, ht, h⟩ := bind_eq_ok_iff.mp h
  rw [template_eq] at ht
  obtain ⟨_, hc, ht⟩ := bind_eq_ok_iff.mp ht
  obtain ⟨condition, hf, ht⟩ := bind_eq_ok_iff.mp ht
  cases ht
  cases h
  exact ⟨condition, hc, hf, by rw [placeholder_eq]⟩

theorem sql_of_build {s : Statement} {f : Fragment} {text : String} {rest : Template}
    (h : s.build = .ok f) (ho : s.opening = .text text :: rest) : ∃ more, f.sql = text ++ more := by
  obtain ⟨condition, _, _, rfl⟩ := build_eq_ok h
  rw [ho]
  exact ⟨_, rfl⟩

theorem build_eq_error_of_check {s : Statement} {error : BuildError} (h : s.check = .error error) :
    s.build = .error error := by
  rw [build, template_eq, h]
  rfl

@[simp] theorem check_withFilter (filter : Option Where) (s : Statement) :
    (s.withFilter filter).check = s.check := by
  cases s <;> rfl

@[simp] theorem opening_withFilter (filter : Option Where) (s : Statement) :
    (s.withFilter filter).opening = s.opening := by
  cases s <;> rfl

@[simp] theorem closing_withFilter (filter : Option Where) (s : Statement) :
    (s.withFilter filter).closing = s.closing := by
  cases s <;> rfl

@[simp] theorem format_withFilter (filter : Option Where) (s : Statement) :
    (s.withFilter filter).format = s.format := by
  cases s <;> rfl

theorem filter_withFilter {s : Statement} (hs : s.kind ≠ .insert) (filter : Option Where) :
    (s.withFilter filter).filter = filter := by
  cases s with
  | insert i => exact absurd rfl hs
  | _ => rfl

end Statement

end Criteria
