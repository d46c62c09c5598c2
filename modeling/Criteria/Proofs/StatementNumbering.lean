import Criteria.Proofs.FilterRetention

namespace Criteria

/-- What a filter asks for behind `offset` bound values. A statement without a filter, and a tree
without elements, ask for nothing. -/
def compileFilter (filter : Option Where) (format : Format) (offset : Nat) :
    Except BuildError Fragment :=
  match filter with
  | none => .ok ⟨"", []⟩
  | some tree => if tree.isEmpty then .ok ⟨"", []⟩ else tree.compile format offset

theorem compileFilter_of_filterTemplate {filter : Option Where} {format : Format}
    {condition : Template} (h : filterTemplate filter format.indent = .ok condition)
    (offset : Nat) :
    ∃ f, compileFilter filter format offset = .ok f ∧ f.params = condition.values := by
  cases filter with
  | none =>
    cases h
    exact ⟨_, rfl, rfl⟩
  | some tree =>
    rw [compileFilter]
    split
    next he =>
      rw [filterTemplate, if_pos he] at h
      cases h
      exact ⟨_, rfl, rfl⟩
    next he =>
      have hn : tree.nodes ≠ [] := by simpa [Where.isEmpty] using he
      obtain ⟨clause, hc, rfl⟩ := filterTemplate_eq_ok hn h
      refine ⟨_, Where.compile_of_clause? hc _ _, ?_⟩
      cases clause <;> rfl

theorem filterTemplate_of_empty {tree : Where} {format : Format} {offset : Nat} {f : Fragment}
    (h : tree.compile format offset = .ok f) (he : f.sql = "") :
    f.params = [] ∧ filterTemplate (some tree) format.indent = .ok [] := by
  have hentries := (Where.sql_compile_eq_empty_iff h).mp he
  obtain ⟨t, ht, rfl⟩ := Where.compile_eq_ok h
  obtain ⟨clause, hc, rfl⟩ := Where.template_eq_ok ht
  obtain rfl := (Where.clause?_eq_none_iff hc).mpr hentries
  refine ⟨rfl, ?_⟩
  rw [filterTemplate]
  split
  next => rfl
  next =>
    rw [ht]
    rfl

theorem flatMap_values_bound (texts : String × Value → String) (entries : List (String × Value)) :
    (entries.map fun entry => [Piece.text (texts entry), .bound entry.2]).flatMap
      Template.values = entries.map Prod.snd := by
  induction entries with
  | nil => rfl
  | cons entry rest ih =>
    rw [List.map_cons, List.flatMap_cons, ih]
    rfl

theorem Insert.values_rowTemplate (row : List Value) : (rowTemplate row).values = row := by
  rw [rowTemplate, Template.values_parenthesised, Template.values_joined_bound]

namespace Statement

/-- The values bound before the filter is read. -/
def leadingValues : Statement → List Value
  | .insert i => i.rows.flatten
  | .update u => u.assignments.values
  | .select _ | .delete _ => []

/-- The values bound behind the filter. -/
def trailingValues : Statement → List Value
  | .select s => s.options.values
  | .insert _ | .update _ | .delete _ => []

theorem values_opening (s : Statement) : s.opening.values = s.leadingValues := by
  cases s with
  | select s => rfl
  | insert i =>
    have hrows : i.rows.map (fun row => (Insert.rowTemplate row).values) = i.rows := by
      simp only [Insert.values_rowTemplate, List.map_id']
    rw [opening, Template.values_text, Template.values_joined, List.flatMap_map, List.flatMap,
      hrows, leadingValues]
  | update u =>
    rw [opening, Template.values_text, Update.assignmentTemplate, Template.values_joined]
    exact flatMap_values_bound (fun entry => entry.1 ++ " = ") u.assignments.entries
  | delete d => rfl

theorem values_closing (s : Statement) : s.closing.values = s.trailingValues := by
  cases s with
  | select s =>
    have horder : s.orderTemplate.values = [] := by
      unfold Select.orderTemplate
      split
      next => rfl
      next => split <;> rfl
    have hlimit : s.limitTemplate.values = [] := by
      unfold Select.limitTemplate
      split <;> rfl
    have hoptions : s.optionTemplate.values = s.options.values := by
      unfold Select.optionTemplate
      split
      next he =>
        rw [Keyed.values, List.isEmpty_iff.mp he]
        rfl
      next =>
        rw [Template.values_text, Template.values_joined]
        exact flatMap_values_bound (fun entry => entry.1 ++ "=") s.options.entries
    rw [closing, Template.values_append, Template.values_append, horder, hlimit, hoptions]
    rfl
  | _ => rfl

def withStyle (style : Placeholder) : Statement → Statement
  | .select s => .select { s with format.placeholder := style }
  | .insert i => .insert { i with format.placeholder := style }
  | .update u => .update { u with format.placeholder := style }
  | .delete d => .delete { d with format.placeholder := style }

@[simp] theorem template_withStyle (style : Placeholder) (s : Statement) :
    (s.withStyle style).template = s.template := by
  cases s <;> rfl

@[simp] theorem placeholder_withStyle (style : Placeholder) (s : Statement) :
    (s.withStyle style).placeholder = style := by
  cases s <;> rfl

/-- The bound values of a statement in the order of its clauses: new rows one after the other; the
assignments, then what the filter binds behind them; what the filter binds, then the options. -/
def BindsInOrder (params : List Value) : Statement → Prop
  | .insert i => params = i.rows.flatten
  | .update u => ∃ condition, compileFilter u.filter u.format u.assignments.size = .ok condition ∧
      params = u.assignments.values ++ condition.params
  | .select s => ∃ condition, compileFilter s.filter s.format 0 = .ok condition ∧
      params = condition.params ++ s.options.values
  | .delete d => ∃ condition, compileFilter d.filter d.format 0 = .ok condition ∧
      params = condition.params

theorem bindsInOrder_of_build {s : Statement} {f : Fragment} (h : s.build = .ok f) :
    s.BindsInOrder f.params := by
  obtain ⟨condition, _, hf, rfl⟩ := build_eq_ok h
  obtain ⟨g, hg, hgv⟩ := compileFilter_of_filterTemplate hf s.leadingValues.length
  have hv : ((s.opening ++ (condition ++ s.closing)).fragment s.format.placeholder 0).params =
      s.leadingValues ++ g.params ++ s.trailingValues := by
    rw [Template.fragment, Template.values_append, Template.values_append, values_opening,
      values_closing, hgv, List.append_assoc]
  rw [hv]
  cases s with
  | select s => exact ⟨g, hg, rfl⟩
  | insert i =>
    cases hg
    simp [BindsInOrder, leadingValues, trailingValues]
  | update u =>
    have hsize : u.assignments.size = (update u).leadingValues.length := by
      simp [Keyed.size, Keyed.values, leadingValues]
    exact ⟨g, hsize ▸ hg, List.append_nil _⟩
  | delete d => exact ⟨g, hg, List.append_nil _⟩

theorem build_withFilter_of_empty {s : Statement} {tree : Where} {offset : Nat} {f : Fragment}
    (h : tree.compile s.format offset = .ok f) (he : f.sql = "") :
    (s.withFilter (some tree)).build = (s.withFilter none).build := by
  by_cases hs : s.kind = .insert
  · cases s with
    | insert i => rfl
    | _ => cases hs
  · have hf := (filterTemplate_of_empty h he).2
    rw [build, build, template_eq, template_eq, filter_withFilter hs, filter_withFilter hs,
      format_withFilter, format_withFilter, hf, placeholder_eq, placeholder_eq]
    simp only [check_withFilter, opening_withFilter, closing_withFilter, format_withFilter]
    rfl

/-- The bound values of a statement are those of its clauses in order, and its text has their marks
numbered from 1 between literal texts that the placeholder style has no say in. A filter whose text
is empty binds nothing and is as good as none. -/
theorem build_numbered (s : Statement) :
    (∀ f, s.build = .ok f → s.BindsInOrder f.params ∧
      ∃ first rest, rest.length = f.params.length ∧
        ∀ style, (s.withStyle style).build = .ok ⟨style.spread 0 first rest, f.params⟩) ∧
    ∀ tree offset condition, tree.compile s.format offset = .ok condition → condition.sql = "" →
      condition.params = [] ∧ (s.withFilter (some tree)).build = (s.withFilter none).build := by
  constructor
  · intro f h
    refine ⟨bindsInOrder_of_build h, ?_⟩
    obtain ⟨t, ht, h⟩ := bind_eq_ok_iff.mp h
    cases h
    refine ⟨t.segments.1, t.segments.2, t.length_segments, fun style => ?_⟩
    rw [build, template_withStyle, placeholder_withStyle, ht, ← t.sql_eq_spread]
    rfl
  · intro tree offset condition h he
    exact ⟨(filterTemplate_of_empty h he).1, build_withFilter_of_empty h he⟩

def fruitsWithOption : Statement :=
  .select ((({ table := some "fruits", format := ⟨.dollar, 4⟩ } : Select).apply
    (.filter (Where.ofGroup (Group.withOperand {} "!id" (.list [.int 5, .null, .int 6])))) |>.apply
    (.option "most" (.int 9))))

theorem build_numbered_fruitsWithOption :
    fruitsWithOption.BindsInOrder [.int 5, .int 6, .int 9] ∧
      (∃ first rest, rest.length = 3 ∧ ∀ style, (fruitsWithOption.withStyle style).build =
        .ok ⟨style.spread 0 first rest, [.int 5, .int 6, .int 9]⟩) ∧
      (fruitsWithOption.withFilter (some (Where.ofGroup (Group.withOption {} "id" none)))).build =
        (fruitsWithOption.withFilter none).build := by
  have hb : fruitsWithOption.build = .ok ⟨"SELECT *\nFROM fruits\nWHERE " ++
      "(id IS NOT NULL AND id NOT IN ($1, $2))\nOPTION most=$3", [.int 5, .int 6, .int 9]⟩ := by
    rfl
  have h := fruitsWithOption.build_numbered.1 _ hb
  exact ⟨h.1, h.2, (fruitsWithOption.build_numbered.2 _ 0 ⟨"", []⟩ rfl rfl).2⟩

end Statement

end Criteria
