import Criteria.Proofs.StatementParts

namespace Criteria

/-- The characters of names that need no quotes. -/
def IsNameChar (c : Char) : Prop :=
  'a' ≤ c ∧ c ≤ 'z' ∨ 'A' ≤ c ∧ c ≤ 'Z' ∨ '0' ≤ c ∧ c ≤ '9' ∨ c = '_'

def IsPlainName (name : String) : Prop := ∀ c ∈ name.toList, IsNameChar c

theorem isNameChar_iff {c : Char} : IsNameChar c ↔ c.isAlphanum || c = '_' := by
  have h : c.isAlphanum = ((decide ('A' ≤ c ∧ c ≤ 'Z') || decide ('a' ≤ c) && decide (c ≤ 'z')) ||
      decide ('0' ≤ c) && decide (c ≤ '9')) := by
    rfl
  simp only [IsNameChar, h, Bool.or_eq_true, Bool.and_eq_true, decide_eq_true_eq]
  tauto

theorem isSafeName_iff {name : String} : isSafeName name ↔ IsPlainName name := by
  rw [isSafeName, List.all_eq_true]
  exact forall₂_congr fun c _ => isNameChar_iff.symm

theorem checkName_eq_ok_iff {role name : String} :
    checkName role name = .ok () ↔ IsPlainName name := by
  rw [← isSafeName_iff, checkName]
  split
  next h => exact iff_of_true rfl h
  next h => exact iff_of_false nofun h

theorem checkName_eq_error {role name : String} (h : ¬ IsPlainName name) :
    checkName role name = .error (.identifier role name) :=
  if_neg fun hs => h (isSafeName_iff.mp hs)

theorem Select.checkOption_eq_ok_iff {option : String × Value} :
    checkOption option = .ok () ↔ IsPlainName option.1 ∧ ¬ option.2.isNull := by
  rw [checkOption, bind_eq_ok_iff, ← @checkName_eq_ok_iff "OPTION name"]
  cases option.2.isNull with
  | false => exact ⟨fun ⟨_, h, _⟩ => ⟨h, Bool.false_ne_true⟩, fun h => ⟨(), h.1, rfl⟩⟩
  | true => exact ⟨fun ⟨_, _, h⟩ => (nomatch h), fun h => absurd rfl h.2⟩

theorem Select.checkedTable_of_empty {s : Select} (h : s.table.getD "" = "") :
    s.checkedTable = .error (.missingData .table) := by
  unfold checkedTable
  cases ht : s.table with
  | none => rfl
  | some table =>
    rw [ht] at h
    cases h
    rfl

theorem Select.checkedTable_of_ne_empty {s : Select} {table : String} (h : s.table = some table)
    (hn : table ≠ "") : s.checkedTable = (checkName "FROM" table).map fun _ => table := by
  have he : ¬ table.isEmpty := fun he => hn (String.isEmpty_iff.mp he)
  simp only [checkedTable, h, if_neg he]
  cases checkName "FROM" table <;> rfl

theorem Select.isPlainName_of_checkedTable {s : Select} {table : String}
    (h : s.checkedTable = .ok table) : table ≠ "" ∧ IsPlainName table := by
  have ht := checkedTable_eq_ok h
  by_cases hn : table = ""
  · rw [checkedTable_of_empty (by rw [ht]; exact hn)] at h
    cases h
  · refine ⟨hn, Classical.byContradiction fun hp => ?_⟩
    rw [checkedTable_of_ne_empty ht hn, checkName_eq_error hp] at h
    cases h

namespace Statement

def table? : Statement → Option String
  | .select s => s.table
  | .insert i => some i.table
  | .update u => some u.table
  | .delete d => some d.table

/-- Where the table stands, as a refusal of its name says. -/
def tableRole : Statement → String
  | .select _ => "FROM"
  | .insert _ => "INSERT INTO"
  | .update _ => "UPDATE"
  | .delete _ => "DELETE FROM"

/-- What is written in front of the table. -/
def lead : Statement → String
  | .select s => "SELECT " ++ s.columnText ++ "\nFROM "
  | .insert _ => "INSERT INTO "
  | .update _ => "UPDATE "
  | .delete _ => "DELETE FROM "

def optionNames : Statement → List String
  | .select s => s.options.keys
  | _ => []

theorem opening_of_table {s : Statement} {table : String} (h : s.table? = some table) :
    ∃ text rest, s.opening = .text (s.lead ++ table ++ text) :: rest := by
  cases s with
  | select s =>
    have ht : s.table = some table := h
    exact ⟨"", [], by rw [opening, ht, String.append_empty]; rfl⟩
  | insert i =>
    cases h
    refine ⟨"\n(" ++ ", ".intercalate (i.columnLists.head?.getD []) ++ ")\nVALUES\n",
      Template.joined ",\n" (i.rows.map Insert.rowTemplate), ?_⟩
    simp only [opening, lead, String.append_assoc]
  | update u =>
    cases h
    exact ⟨"\nSET ", u.assignmentTemplate, rfl⟩
  | delete d =>
    cases h
    exact ⟨"", [], by rw [String.append_empty]; rfl⟩

/-- A statement is checked only when its names are. -/
theorem names_of_check {s : Statement} (h : s.check = .ok ()) :
    ∃ table, s.table? = some table ∧ IsPlainName table ∧ (s.kind = .select → table ≠ "") ∧
      ∀ name ∈ s.optionNames, IsPlainName name := by
  cases s with
  | select s =>
    obtain ⟨table, ht, ho⟩ := bind_eq_ok_iff.mp h
    obtain ⟨hn, hp⟩ := Select.isPlainName_of_checkedTable ht
    refine ⟨table, Select.checkedTable_eq_ok ht, hp, fun _ => hn, ?_⟩
    intro name hm
    obtain ⟨option, ho', rfl⟩ := List.mem_map.mp hm
    exact (Select.checkOption_eq_ok_iff.mp (forM_eq_ok_iff.mp ho option ho')).1
  | insert i =>
    obtain ⟨_, ht, _⟩ := bind_eq_ok_iff.mp h
    exact ⟨i.table, rfl, checkName_eq_ok_iff.mp ht, nofun, nofun⟩
  | update u =>
    obtain ⟨_, ht, _⟩ := bind_eq_ok_iff.mp h
    exact ⟨u.table, rfl, checkName_eq_ok_iff.mp ht, nofun, nofun⟩
  | delete d => exact ⟨d.table, rfl, checkName_eq_ok_iff.mp h, nofun, nofun⟩

theorem check_of_not_plain_table {s : Statement} {table : String} (ht : s.table? = some table)
    (hp : ¬ IsPlainName table) : s.check = .error (.identifier s.tableRole table) := by
  cases s with
  | select s =>
    have hn : table ≠ "" := fun hn => hp (hn ▸ nofun)
    rw [check, Select.checkedTable_of_ne_empty ht hn, checkName_eq_error hp]
    rfl
  | insert i =>
    cases ht
    rw [check, checkName_eq_error hp]
    rfl
  | update u =>
    cases ht
    rw [check, checkName_eq_error hp]
    rfl
  | delete d =>
    cases ht
    exact checkName_eq_error hp

theorem check_select_of_empty {s : Select} (h : s.table.getD "" = "") :
    (Statement.select s).check = .error (.missingData .table) := by
  rw [check, Select.checkedTable_of_empty h]
  rfl

/-- Nothing is built with a name that would need quotes, of a table or of an option, nor without a
table to select from. The table that is written is the one that was checked. -/
theorem build_names (s : Statement) :
    (∀ f, s.build = .ok f → ∃ table rest, s.table? = some table ∧
      f.sql = s.lead ++ table ++ rest ∧ IsPlainName table ∧ (s.kind = .select → table ≠ "") ∧
      ∀ name ∈ s.optionNames, IsPlainName name) ∧
    (∀ table, s.table? = some table → ¬ IsPlainName table →
      s.build = .error (.identifier s.tableRole table)) ∧
    (s.kind = .select → s.table?.getD "" = "" → s.build = .error (.missingData .table)) ∧
    ∀ name ∈ s.optionNames, ¬ IsPlainName name → ∃ error, s.build = .error error := by
  refine ⟨fun f h => ?_, fun table ht hp => ?_, fun hs ht => ?_, fun name hm hp => ?_⟩
  · obtain ⟨_, hc, _, _⟩ := build_eq_ok h
    obtain ⟨table, ht, hnames⟩ := names_of_check hc
    obtain ⟨text, _, ho⟩ := opening_of_table ht
    obtain ⟨more, hsql⟩ := sql_of_build h ho
    exact ⟨table, text ++ more, ht, hsql.trans (String.append_assoc ..), hnames⟩
  · exact build_eq_error_of_check (check_of_not_plain_table ht hp)
  · cases s with
    | select s => exact build_eq_error_of_check (check_select_of_empty ht)
    | _ => cases hs
  · cases hc : s.check with
    | error error => exact ⟨error, build_eq_error_of_check hc⟩
    | ok =>
      obtain ⟨_, _, _, _, hnames⟩ := names_of_check hc
      exact absurd (hnames name hm) hp

def cappedFruits : Statement :=
  .select { table := some "fruits", options := Keyed.ofList [("max_rows", .int 5)] }

theorem build_names_cappedFruits :
    (∃ f table rest, cappedFruits.build = .ok f ∧ cappedFruits.table? = some table ∧
      f.sql = cappedFruits.lead ++ table ++ rest ∧ IsPlainName table ∧ table ≠ "" ∧
      ∀ name ∈ cappedFruits.optionNames, IsPlainName name) ∧
    (Statement.delete { table := "ripe fruits" }).build =
      .error (.identifier "DELETE FROM" "ripe fruits") ∧
    (Statement.select {}).build = .error (.missingData .table) ∧
    ∃ error, (Statement.select
      { table := some "fruits", options := Keyed.ofList [("max rows", .int 5)] }).build =
        .error error := by
  have hb : cappedFruits.build = .ok ⟨"SELECT *\nFROM fruits\nOPTION max_rows=?", [.int 5]⟩ := by
    rfl
  obtain ⟨table, rest, ht, hsql, hp, hn, hnames⟩ := (build_names cappedFruits).1 _ hb
  have hrefused {name : String} (h : isSafeName name = false) : ¬ IsPlainName name := fun hp =>
    Bool.false_ne_true (h.symm.trans (isSafeName_iff.mpr hp))
  refine ⟨⟨_, table, rest, hb, ht, hsql, hp, hn rfl, hnames⟩, ?_, ?_, ?_⟩
  · exact (build_names _).2.1 "ripe fruits" rfl (hrefused rfl)
  · exact (build_names _).2.2.1 rfl rfl
  · exact (build_names _).2.2.2 "max rows" (List.mem_singleton_self _) (hrefused rfl)

/-- What has no name is removed from, inserted into and updated all the same, and options may go
without a name as well. -/
theorem build_unnamed :
    (Statement.delete { table := "" }).build = .ok ⟨"DELETE FROM ", []⟩ ∧
    (Statement.insert { table := "", columnLists := [["id"]], rows := [[.int 5]] }).build =
      .ok ⟨"INSERT INTO \n(id)\nVALUES\n(?)", [.int 5]⟩ ∧
    (Statement.update { table := "", assignments := Keyed.ofList [("id", .int 5)] }).build =
      .ok ⟨"UPDATE \nSET id = ?", [.int 5]⟩ ∧
    (Statement.select { table := some "fruits", options := Keyed.ofList [("", .int 5)] }).build =
      .ok ⟨"SELECT *\nFROM fruits\nOPTION =?", [.int 5]⟩ :=
  ⟨rfl, rfl, rfl, rfl⟩

end Statement

end Criteria
