import Criteria.Proofs.StatementParts
import Criteria.Proofs.ValueMap

namespace Criteria

section

variable (f : Value → Value)

def Select.map (s : Select) : Select :=
  { s with filter := s.filter.map (Where.map f), options := s.options.map f }

def Insert.map (i : Insert) : Insert := { i with rows := i.rows.map (List.map f) }

def Update.map (u : Update) : Update :=
  { u with assignments := Keyed.map f u.assignments, filter := u.filter.map (Where.map f) }

def Delete.map (d : Delete) : Delete := { d with filter := d.filter.map (Where.map f) }

def Statement.map : Statement → Statement
  | .select s => .select (s.map f)
  | .insert i => .insert (i.map f)
  | .update u => .update (u.map f)
  | .delete d => .delete (d.map f)

end

variable {f : Value → Value}

theorem filterTemplate_map (hf : KeepsNull f) (filter : Option Where) (indent : Nat) :
    filterTemplate (filter.map (Where.map f)) indent =
      (filterTemplate filter indent).map (Template.map f) := by
  cases filter with
  | none => rfl
  | some tree =>
    have he : (tree.map f).isEmpty = tree.isEmpty := by
      cases h : tree.nodes <;> simp [Where.isEmpty, Where.map, mapNodes, h]
    simp only [Option.map_some, filterTemplate, he, tree.template_map hf]
    split
    next => rfl
    next =>
      cases tree.template indent with
      | error e => rfl
      | ok t => cases t <;> rfl

theorem forM_checkOption_map (hf : KeepsNull f) (entries : List (String × Value)) :
    (entries.map fun entry => (entry.1, f entry.2)).forM Select.checkOption =
      entries.forM Select.checkOption := by
  induction entries with
  | nil => rfl
  | cons entry rest ih =>
    have hs : Select.checkOption (entry.1, f entry.2) = Select.checkOption entry := by
      rw [Select.checkOption, Select.checkOption, hf]
    simp only [List.forM_eq_forM] at ih ⊢
    rw [List.map_cons, List.forM_cons, List.forM_cons, hs, ih]

theorem Insert.firstFailing_map {α β : Type} (g : α → β) (test : β → Bool) (xs : List α) :
    firstFailing test (xs.map g) = (firstFailing (test ∘ g) xs).map (Prod.map g id) := by
  rw [firstFailing, firstFailing, List.zipIdx_map, List.find?_map]
  rfl

theorem Insert.checkedColumns_map (i : Insert) : (i.map f).checkedColumns = i.checkedColumns := by
  have hrows (n : Nat) : firstFailing (fun row => row.length == n) (i.rows.map (List.map f)) =
      (firstFailing (fun row => row.length == n) i.rows).map (Prod.map (List.map f) id) := by
    rw [firstFailing_map]
    simp [Function.comp_def]
  rw [checkedColumns_eq, checkedColumns_eq]
  simp only [Insert.map, List.isEmpty_map, hrows]
  cases i.columnLists with
  | nil => rfl
  | cons columns rest =>
    dsimp only
    cases firstFailing (fun row => row.length == columns.length) i.rows with
    | none => rfl
    | some failing => simp only [Option.map_some, Prod.map, List.length_map, id]

namespace Statement

theorem format_map (s : Statement) : (s.map f).format = s.format := by
  cases s <;> rfl

theorem filter_map (s : Statement) : (s.map f).filter = s.filter.map (Where.map f) := by
  cases s <;> rfl

theorem check_map (hf : KeepsNull f) (s : Statement) : (s.map f).check = s.check := by
  cases s with
  | select s =>
    simp only [check, map, Select.map, Keyed.map, forM_checkOption_map hf]
    rfl
  | insert i =>
    simp only [check, map, Insert.checkedColumns_map]
    rfl
  | update u =>
    simp only [check, map, Update.map, Keyed.isEmpty_map]
  | delete d => rfl

theorem opening_map (s : Statement) : (s.map f).opening = s.opening.map f := by
  cases s with
  | select s => rfl
  | insert i =>
    have hrow : (fun row => Insert.rowTemplate (row.map f)) =
        fun row => (Insert.rowTemplate row).map f := by
      funext row
      rw [Insert.rowTemplate, Insert.rowTemplate, Template.map_parenthesised,
        Template.map_joined_bound]
    have hrows : Template.joined ",\n" ((i.rows.map (List.map f)).map Insert.rowTemplate) =
        (Template.joined ",\n" (i.rows.map Insert.rowTemplate)).map f := by
      rw [Template.map_joined, List.map_map, List.map_map]
      exact congrArg (fun g => Template.joined ",\n" (i.rows.map g)) hrow
    exact congrArg (Piece.text _ :: ·) hrows
  | update u =>
    have ha : (u.map f).assignmentTemplate = u.assignmentTemplate.map f := by
      rw [Update.assignmentTemplate, Update.assignmentTemplate, Template.map_joined, List.map_map]
      simp only [Update.map, Keyed.map, List.map_map]
      rfl
    exact congrArg (Piece.text _ :: ·) ha
  | delete d => rfl

theorem closing_map (s : Statement) : (s.map f).closing = s.closing.map f := by
  cases s with
  | select s =>
    have ho : (s.map f).orderTemplate = s.orderTemplate.map f := by
      unfold Select.orderTemplate
      simp only [Select.map]
      cases s.order with
      | none => rfl
      | some order =>
        dsimp only
        split <;> rfl
    have hl : (s.map f).limitTemplate = s.limitTemplate.map f := by
      unfold Select.limitTemplate
      simp only [Select.map]
      cases s.limit <;> rfl
    have hop : (s.map f).optionTemplate = s.optionTemplate.map f := by
      have hopt : (s.map f).options = Keyed.map f s.options := rfl
      rw [Select.optionTemplate, Select.optionTemplate, hopt, Keyed.isEmpty_map]
      by_cases he : s.options.isEmpty
      · rw [if_pos he, if_pos he]
        rfl
      · rw [if_neg he, if_neg he, Keyed.map, List.map_map]
        have hj := Template.map_joined f ", "
          (s.options.entries.map fun option => [.text (option.1 ++ "="), .bound option.2])
        rw [List.map_map] at hj
        exact (congrArg (Piece.text "\nOPTION " :: ·) hj).symm
    rw [closing, Template.map_append, Template.map_append, ← ho, ← hl, ← hop]
    rfl
  | _ => rfl

/-- A statement has the same text whatever its values, and binds each of them as it is. -/
theorem build_map (hf : KeepsNull f) (s : Statement) :
    (s.map f).build = s.build.map (Fragment.map f) := by
  rw [build, build, template_eq, template_eq, check_map hf, filter_map, format_map,
    filterTemplate_map hf, opening_map, closing_map, placeholder_eq, placeholder_eq, format_map]
  cases s.check with
  | error e => rfl
  | ok =>
    cases filterTemplate s.filter s.format.indent with
    | error e => rfl
    | ok condition =>
      have ht : s.opening.map f ++ (condition.map f ++ s.closing.map f) =
          Template.map f (s.opening ++ (condition ++ s.closing)) := by
        rw [Template.map_append, Template.map_append]
      exact congrArg Except.ok ((congrArg (·.fragment s.format.placeholder 0) ht).trans
        (Template.fragment_map f s.format.placeholder 0 _))

end Statement

/-- Null as it is, and one value in place of all others. -/
def Value.blank (value : Value) : Value := if value.isNull then .null else .int 0

theorem keepsNull_blank : KeepsNull Value.blank := by
  intro value
  cases value <;> rfl

/-- The same failure, or the same text with as many bound values. -/
def SameText (x y : Except BuildError Fragment) : Prop :=
  (∃ error, x = .error error ∧ y = .error error) ∨
    ∃ a b, x = .ok a ∧ y = .ok b ∧ a.sql = b.sql ∧ a.params.length = b.params.length

theorem sameText_of_map_eq {x y : Except BuildError Fragment}
    (h : x.map (Fragment.map f) = y.map (Fragment.map f)) : SameText x y := by
  cases x with
  | error e =>
    cases y with
    | error e' => exact .inl ⟨e, rfl, congrArg Except.error (Except.error.inj h).symm⟩
    | ok b => cases h
  | ok a =>
    cases y with
    | error e' => cases h
    | ok b =>
      obtain ⟨hsql, hparams⟩ := Fragment.mk.inj (Except.ok.inj h)
      exact .inr ⟨a, b, rfl, rfl, hsql, by simpa using congrArg List.length hparams⟩

/-- Values never reach the text: two trees, and two statements, that agree in everything but values
other than null fail alike or have the same text. -/
theorem sameText_of_blank_eq :
    (∀ a b : Where, a.map Value.blank = b.map Value.blank →
      ∀ format offset, SameText (a.compile format offset) (b.compile format offset)) ∧
    ∀ a b : Statement, a.map Value.blank = b.map Value.blank → SameText a.build b.build := by
  constructor
  · intro a b h format offset
    apply sameText_of_map_eq
    rw [← a.compile_map keepsNull_blank, ← b.compile_map keepsNull_blank, h]
  · intro a b h
    apply sameText_of_map_eq
    rw [← a.build_map keepsNull_blank, ← b.build_map keepsNull_blank, h]

theorem sameText_fruits :
    SameText
        ((Where.ofGroup (Group.withOperand {} "id" (.list [.int 5, .null]))).compile ⟨.dollar, 4⟩ 2)
        ((Where.ofGroup (Group.withOperand {} "id"
          (.list [.text "x' OR 1=1", .null]))).compile ⟨.dollar, 4⟩ 2) ∧
      SameText
        (Statement.build (.update (({ table := "fruits" } : Update).set "name" (.text "kiwi"))))
        (Statement.build (.update (({ table := "fruits" } : Update).set "name" (.int 7)))) := by
  refine ⟨sameText_of_blank_eq.1 _ _ ?_ _ _, sameText_of_blank_eq.2 _ _ ?_⟩
  · rfl
  · rfl

end Criteria
