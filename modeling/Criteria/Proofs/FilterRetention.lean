import Criteria.Proofs.LevelShape
import Criteria.Proofs.Numbering
import Criteria.Proofs.StatementParts

namespace Criteria

namespace Template

def StartsWithText (t : Template) : Prop := ∃ s rest, s ≠ "" ∧ t = .text s :: rest

theorem StartsWithText.append {a : Template} (h : a.StartsWithText) (b : Template) :
    StartsWithText (a ++ b) := by
  obtain ⟨s, rest, hs, rfl⟩ := h
  exact ⟨s, rest ++ b, hs, rfl⟩

theorem StartsWithText.sql_ne_empty {t : Template} (h : t.StartsWithText) (style : Placeholder)
    (offset : Nat) : t.sql style offset ≠ "" := by
  obtain ⟨s, rest, hs, rfl⟩ := h
  intro he
  rw [sql, String.append_eq_empty_iff] at he
  exact hs he.1

theorem startsWithText_parenthesised (t : Template) : t.parenthesised.StartsWithText :=
  ⟨"(", t ++ [.text ")"], by decide, rfl⟩

end Template

theorem append_ne_empty {s t : String} (h : s ≠ "" ∨ t ≠ "") : s ++ t ≠ "" := by
  intro he
  obtain ⟨hs, ht⟩ := String.append_eq_empty_iff.mp he
  exact h.elim (absurd hs) (absurd ht)

theorem Atom.startsWithText (a : Atom) : a.template.StartsWithText := by
  cases a with
  | compare column comparison value =>
    exact ⟨_, _, append_ne_empty (.inr (by decide)), rfl⟩
  | isNull column negated =>
    refine ⟨_, _, append_ne_empty (.inr ?_), rfl⟩
    cases negated <;> decide
  | isIn column negated values =>
    refine ⟨_, _, append_ne_empty (.inr ?_), rfl⟩
    cases negated <;> decide
  | numerals left right =>
    refine ⟨_, _, ?_, rfl⟩
    simp [String.append_eq_empty_iff]

theorem Condition.startsWithText (c : Condition) : c.template.StartsWithText := by
  cases c with
  | atom a => exact a.startsWithText
  | joined c atoms => exact Template.startsWithText_parenthesised _

theorem startsWithText_groupTemplate (first : Condition) (rest : List Condition) :
    (groupTemplate first rest).StartsWithText := by
  unfold groupTemplate
  split
  next => exact first.startsWithText
  next => exact Template.startsWithText_parenthesised _

theorem Term.startsWithText (indent depth : Nat) (term : Term) :
    (term.template indent depth).StartsWithText := by
  cases term with
  | group first rest =>
    rw [template]
    exact startsWithText_groupTemplate first rest
  | block first rest =>
    rw [template]
    exact ⟨_, _, append_ne_empty (.inl (by decide)), rfl⟩

theorem Clause.startsWithText (indent : Nat) (clause : Clause) :
    (clause.template indent).StartsWithText :=
  (clause.first.startsWithText indent 0).append _

theorem Term.conditions_ne_nil (term : Term) : term.conditions ≠ [] := by
  cases term with
  | group first rest =>
    rw [conditions]
    exact List.cons_ne_nil _ _
  | block first rest =>
    rw [conditions]
    exact List.append_ne_nil_of_left_ne_nil (Term.conditions_ne_nil first) _

/-- A tree asks for something exactly if it has a present entry. -/
theorem Where.clause?_eq_none_iff {tree : Where} {clause : Option Clause}
    (h : tree.clause? = .ok clause) : clause = none ↔ tree.entries = [] := by
  have pairs := forall₂_of_mapM_ok (Where.mapM_entries h)
  constructor
  · rintro rfl
    simpa using pairs
  · intro he
    rw [he, List.forall₂_nil_left_iff] at pairs
    cases clause with
    | none => rfl
    | some clause =>
      exact absurd (List.append_eq_nil_iff.mp pairs).1 clause.first.conditions_ne_nil

/-- The text of a compiled tree is empty exactly if no group at any depth has a present entry. -/
theorem Where.sql_compile_eq_empty_iff {tree : Where} {format : Format} {offset : Nat}
    {f : Fragment} (h : tree.compile format offset = .ok f) : f.sql = "" ↔ tree.entries = [] := by
  obtain ⟨t, ht, rfl⟩ := Where.compile_eq_ok h
  obtain ⟨clause, hc, rfl⟩ := Where.template_eq_ok ht
  rw [← Where.clause?_eq_none_iff hc]
  cases clause with
  | none => exact ⟨fun _ => rfl, fun _ => rfl⟩
  | some clause =>
    have hne := (clause.startsWithText format.indent).sql_ne_empty format.placeholder offset
    exact ⟨fun he => absurd he hne, fun he => nomatch he⟩

/-- Behind its keyword stands what a filter asks for; one that asks for nothing leaves no trace. -/
theorem filterTemplate_eq_ok {tree : Where} {indent : Nat} {condition : Template}
    (hn : tree.nodes ≠ []) (h : filterTemplate (some tree) indent = .ok condition) :
    ∃ clause, tree.clause? = .ok clause ∧
      condition = (clause.map fun c => Piece.text "\nWHERE " :: c.template indent).getD [] := by
  have he : ¬ tree.isEmpty := by simpa [Where.isEmpty] using hn
  simp only [filterTemplate, if_neg he] at h
  obtain ⟨t, ht, h⟩ := bind_eq_ok_iff.mp h
  obtain ⟨clause, hc, rfl⟩ := Where.template_eq_ok ht
  refine ⟨clause, hc, ?_⟩
  cases clause with
  | none => cases h; rfl
  | some clause =>
    obtain ⟨s, rest, _, hs⟩ := clause.startsWithText indent
    simp only [Option.map_some, Option.getD_some, hs] at h ⊢
    exact (Except.ok.inj h).symm

theorem Where.nodes_ne_nil_of_entries {tree : Where} (h : tree.entries ≠ []) :
    tree.nodes ≠ [] := by
  intro hn
  rw [Where.entries, hn] at h
  exact h rfl

namespace Statement

theorem build_withFilter_eq_ok {s : Statement} {tree : Where} {f : Fragment}
    (hs : s.kind ≠ .insert) (he : tree.entries ≠ [])
    (h : (s.withFilter (some tree)).build = .ok f) :
    ∃ condition, tree.compile s.format s.opening.values.length = .ok condition ∧
      condition.sql ≠ "" ∧
      f.sql = s.opening.sql s.format.placeholder 0 ++ "\nWHERE " ++ condition.sql ++
        s.closing.sql s.format.placeholder (s.opening.values.length + condition.params.length) ∧
      f.params = s.opening.values ++ condition.params ++ s.closing.values := by
  obtain ⟨condition, _, hf, rfl⟩ := build_eq_ok h
  rw [filter_withFilter hs, format_withFilter] at hf
  obtain ⟨clause, hc, rfl⟩ := filterTemplate_eq_ok (Where.nodes_ne_nil_of_entries he) hf
  cases clause with
  | none => exact absurd ((Where.clause?_eq_none_iff hc).mp rfl) he
  | some clause =>
    refine ⟨_, Where.compile_of_clause? hc _ _, ?_, ?_, ?_⟩
    · exact (clause.startsWithText _).sql_ne_empty _ _
    · simp [Template.fragment, Template.sql_append, Template.sql, String.append_assoc]
    · simp [Template.fragment, Template.values_append]

theorem build_withoutFilter_eq_ok {s : Statement} {f : Fragment} (hs : s.kind ≠ .insert)
    (h : (s.withFilter none).build = .ok f) :
    f.sql = s.opening.sql s.format.placeholder 0 ++
        s.closing.sql s.format.placeholder s.opening.values.length ∧
      f.params = s.opening.values ++ s.closing.values := by
  obtain ⟨condition, _, hf, rfl⟩ := build_eq_ok h
  rw [filter_withFilter hs] at hf
  cases hf
  constructor
  · simp [Template.fragment, Template.sql_append]
  · simp [Template.fragment, Template.values_append]

theorem entries_eq_nil_of_same_build {s : Statement} {tree : Where} {f g : Fragment}
    (hs : s.kind ≠ .insert) (hf : (s.withFilter (some tree)).build = .ok f)
    (hg : (s.withFilter none).build = .ok g) (hsql : f.sql = g.sql) (hparams : f.params = g.params) :
    tree.entries = [] := by
  by_contra he
  obtain ⟨condition, _, hne, hfs, hfp⟩ := build_withFilter_eq_ok hs he hf
  obtain ⟨hgs, hgp⟩ := build_withoutFilter_eq_ok hs hg
  have hlen : condition.params.length = 0 := by
    have := congrArg List.length (hfp.symm.trans (hparams.trans hgp))
    simp only [List.length_append] at this
    omega
  have htext := congrArg String.length (hfs.symm.trans (hsql.trans hgs))
  simp only [hlen, Nat.add_zero, String.length_append] at htext
  have hword : "\nWHERE ".length = 7 := rfl
  omega

theorem build_error_of_not_wellShaped {s : Statement} {tree : Where} (hs : s.kind ≠ .insert)
    (hn : tree.nodes ≠ []) (hw : ¬ tree.WellShaped) :
    ∃ error, (s.withFilter (some tree)).build = .error error := by
  cases h : (s.withFilter (some tree)).build with
  | error error => exact ⟨error, rfl⟩
  | ok f =>
    obtain ⟨condition, _, hf, _⟩ := build_eq_ok h
    rw [filter_withFilter hs] at hf
    obtain ⟨clause, hc, _⟩ := filterTemplate_eq_ok hn hf
    exact absurd (Where.wellShaped_of_clause? hc) hw

/-- A filter is never dropped in silence. If a group of it, at any depth, has a present entry, the
statement fails or has the condition behind its keyword; if the statement is the same without it,
no group asks for anything; and if it is malformed anywhere, the statement fails. -/
theorem build_keeps_filter (s : Statement) (tree : Where) (hs : s.kind ≠ .insert) :
    (tree.entries ≠ [] →
      (∃ error, (s.withFilter (some tree)).build = .error error) ∨
      ∃ f condition, (s.withFilter (some tree)).build = .ok f ∧
        tree.compile s.format s.opening.values.length = .ok condition ∧ condition.sql ≠ "" ∧
        f.sql = s.opening.sql s.format.placeholder 0 ++ "\nWHERE " ++ condition.sql ++
          s.closing.sql s.format.placeholder (s.opening.values.length + condition.params.length) ∧
        f.params = s.opening.values ++ condition.params ++ s.closing.values) ∧
    (∀ f g, (s.withFilter (some tree)).build = .ok f → (s.withFilter none).build = .ok g →
      f.sql = g.sql → f.params = g.params → tree.nodes = [] ∨ tree.entries = []) ∧
    (tree.nodes ≠ [] → ¬ tree.WellShaped →
      ∃ error, (s.withFilter (some tree)).build = .error error) := by
  refine ⟨fun he => ?_, fun f g hf hg hsql hparams => ?_, build_error_of_not_wellShaped hs⟩
  · cases h : (s.withFilter (some tree)).build with
    | error error => exact .inl ⟨error, rfl⟩
    | ok f =>
      obtain ⟨condition, hc⟩ := build_withFilter_eq_ok hs he h
      exact .inr ⟨f, condition, rfl, hc⟩
  · exact .inr (entries_eq_nil_of_same_build hs hf hg hsql hparams)

theorem build_keeps_filter_fruits :
    ((∃ error, ((delete { table := "fruits" }).withFilter
          (some (Where.ofGroup (Group.withOperand {} "id" (.scalar (.int 5)))))).build =
          .error error) ∨
      ∃ f condition, ((delete { table := "fruits" }).withFilter
          (some (Where.ofGroup (Group.withOperand {} "id" (.scalar (.int 5)))))).build = .ok f ∧
        (Where.ofGroup (Group.withOperand {} "id" (.scalar (.int 5)))).compile = .ok condition ∧
        condition.sql ≠ "" ∧
        f.sql = "DELETE FROM fruits" ++ "\nWHERE " ++ condition.sql ++ "" ∧
        f.params = [] ++ condition.params ++ []) ∧
    ((Where.ofGroup (Group.withOption {} "id" none)).nodes = [] ∨
      (Where.ofGroup (Group.withOption {} "id" none)).entries = []) ∧
    ∃ error, ((delete { table := "fruits" }).withFilter
      (some (Where.mk [.connective .and]))).build = .error error := by
  have hs : (delete { table := "fruits" }).kind ≠ .insert := by decide
  have hw : ¬ (Where.mk [.connective .and]).WellShaped := by
    rintro ⟨⟨_, h⟩, _⟩
    exact absurd ((h 0 (by decide)).mp rfl) (by decide)
  refine ⟨(build_keeps_filter _ _ hs).1 (List.cons_ne_nil _ _), ?_, ?_⟩
  · exact (build_keeps_filter (delete { table := "fruits" })
      (Where.ofGroup (Group.withOption {} "id" none)) hs).2.1 ⟨"DELETE FROM fruits", []⟩
      ⟨"DELETE FROM fruits", []⟩ rfl rfl rfl rfl
  · exact (build_keeps_filter _ _ hs).2.2 (List.cons_ne_nil _ _) hw

end Statement

end Criteria
