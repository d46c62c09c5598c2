import Criteria.Proofs.FiniteNumbers
import Criteria.Proofs.JsonReadback
import Criteria.Proofs.NotationReading
import Criteria.Proofs.Numbering

namespace Criteria

def JsonToken.numbers : JsonToken → List JsonNumber
  | .literal value => value.numbers
  | _ => []

def JsonFrame.numbers : JsonFrame → List JsonNumber
  | .array done => Json.itemNumbers done
  | .object done _ => Json.memberNumbers done

namespace Json

theorem mem_itemNumbers {items : List Json} {n : JsonNumber} :
    n ∈ itemNumbers items ↔ ∃ item ∈ items, n ∈ item.numbers := by
  induction items with
  | nil => simp [itemNumbers]
  | cons item items ih => simp [itemNumbers, ih]

theorem mem_memberNumbers {members : List (String × Json)} {n : JsonNumber} :
    n ∈ memberNumbers members ↔ ∃ member ∈ members, n ∈ member.2.numbers := by
  induction members with
  | nil => simp [memberNumbers]
  | cons member members ih => simp [memberNumbers, ih]

theorem mem_numbers_array_reverse {value : Json} {done : List Json} {n : JsonNumber} :
    n ∈ (Json.array (value :: done).reverse).numbers ↔ n ∈ value.numbers ∨ n ∈ itemNumbers done := by
  simp [numbers, mem_itemNumbers, or_comm]

theorem mem_numbers_object_reverse {key : String} {value : Json} {done : List (String × Json)}
    {n : JsonNumber} : n ∈ (Json.object ((key, value) :: done).reverse).numbers ↔
      n ∈ value.numbers ∨ n ∈ memberNumbers done := by
  simp [numbers, mem_memberNumbers, or_comm]

/-- The numbers that stand in open containers and in tokens that are not read yet. -/
def pendingNumbers (frames : List JsonFrame) (tokens : List JsonToken) : List JsonNumber :=
  frames.flatMap JsonFrame.numbers ++ tokens.flatMap JsonToken.numbers

theorem mem_pendingNumbers_frame {frame : JsonFrame} {frames : List JsonFrame}
    {tokens : List JsonToken} {n : JsonNumber} : n ∈ pendingNumbers (frame :: frames) tokens ↔
      n ∈ frame.numbers ∨ n ∈ pendingNumbers frames tokens := by
  simp [pendingNumbers]

theorem mem_pendingNumbers_token {frames : List JsonFrame} {token : JsonToken}
    {tokens : List JsonToken} {n : JsonNumber} : n ∈ pendingNumbers frames (token :: tokens) ↔
      n ∈ token.numbers ∨ n ∈ pendingNumbers frames tokens := by
  simp [pendingNumbers, or_left_comm]

theorem pendingNumbers_sign (frames : List JsonFrame) {token : JsonToken} (h : token.numbers = [])
    (tokens : List JsonToken) : pendingNumbers frames (token :: tokens) =
      pendingNumbers frames tokens := by
  rw [pendingNumbers, List.flatMap_cons, h, List.nil_append, pendingNumbers]

/-- Reading makes up no numbers. -/
theorem mem_numbers_of_readValue (n : JsonNumber) :
    (∀ frames tokens j rest, readValue frames tokens = some (j, rest) → n ∈ j.numbers →
      n ∈ pendingNumbers frames tokens) ∧
    ∀ value frames tokens j rest, resume value frames tokens = some (j, rest) → n ∈ j.numbers →
      n ∈ value.numbers ∨ n ∈ pendingNumbers frames tokens := by
  apply readValue.mutual_induct
    (fun frames tokens => ∀ j rest, readValue frames tokens = some (j, rest) → n ∈ j.numbers →
      n ∈ pendingNumbers frames tokens)
    (fun value frames tokens => ∀ j rest, resume value frames tokens = some (j, rest) →
      n ∈ j.numbers → n ∈ value.numbers ∨ n ∈ pendingNumbers frames tokens)
  -- cases 1 to 10: a value begins; the even ones from 4 on open too many containers
  case case1 =>
    intro frames value rest ih j rest' h hn
    rw [readValue] at h
    exact mem_pendingNumbers_token.mpr (ih j rest' h hn)
  case case2 =>
    intro frames s rest ih j rest' h hn
    rw [readValue] at h
    exact mem_pendingNumbers_token.mpr (ih j rest' h hn)
  case case3 =>
    intro frames rest hl ih j rest' h hn
    rw [readValue, if_pos hl] at h
    rw [pendingNumbers_sign frames rfl, pendingNumbers_sign frames rfl]
    exact (ih j rest' h hn).resolve_left List.not_mem_nil
  case case4 =>
    intro frames rest hl j rest' h
    rw [readValue, if_neg hl] at h
    cases h
  case case5 =>
    intro frames rest hl ih j rest' h hn
    rw [readValue, if_pos hl] at h
    rw [pendingNumbers_sign frames rfl, pendingNumbers_sign frames rfl]
    exact (ih j rest' h hn).resolve_left List.not_mem_nil
  case case6 =>
    intro frames rest hl j rest' h
    rw [readValue, if_neg hl] at h
    cases h
  case case7 =>
    intro frames key rest hl ih j rest' h hn
    rw [readValue, if_pos hl] at h
    rw [pendingNumbers_sign frames rfl, pendingNumbers_sign frames rfl,
      pendingNumbers_sign frames rfl]
    exact (mem_pendingNumbers_frame.mp (ih j rest' h hn)).resolve_left List.not_mem_nil
  case case8 =>
    intro frames key rest hl j rest' h
    rw [readValue, if_neg hl] at h
    cases h
  case case9 =>
    intro frames rest hc hl ih j rest' h hn
    rw [readValue.eq_6 _ _ hc, if_pos hl] at h
    rw [pendingNumbers_sign frames rfl]
    exact (mem_pendingNumbers_frame.mp (ih j rest' h hn)).resolve_left List.not_mem_nil
  case case10 =>
    intro frames rest hc hl j rest' h
    rw [readValue.eq_6 _ _ hc, if_neg hl] at h
    cases h
  case case11 =>
    intro tokens frames h1 h2 h3 h4 h5 h6 j rest' h
    rw [readValue.eq_7 _ _ h1 h2 h3 h4 h5 h6] at h
    cases h
  -- cases 12 to 17: a value is complete and joins the container around it
  case case12 =>
    intro value rest j rest' h hn
    rw [resume] at h
    cases h
    exact .inl hn
  case case13 =>
    intro value done frames rest ih j rest' h hn
    rw [resume] at h
    rw [pendingNumbers_sign _ rfl, mem_pendingNumbers_frame, ← or_assoc]
    exact (mem_pendingNumbers_frame.mp (ih j rest' h hn)).imp_left List.mem_append.mp
  case case14 =>
    intro value done frames rest ih j rest' h hn
    rw [resume] at h
    rw [pendingNumbers_sign _ rfl, mem_pendingNumbers_frame, ← or_assoc]
    exact (ih j rest' h hn).imp_left mem_numbers_array_reverse.mp
  case case15 =>
    intro value done key frames next rest ih j rest' h hn
    rw [resume] at h
    rw [pendingNumbers_sign _ rfl, pendingNumbers_sign _ rfl, pendingNumbers_sign _ rfl,
      mem_pendingNumbers_frame, ← or_assoc]
    exact (mem_pendingNumbers_frame.mp (ih j rest' h hn)).imp_left List.mem_append.mp
  case case16 =>
    intro value done key frames rest ih j rest' h hn
    rw [resume] at h
    rw [pendingNumbers_sign _ rfl, mem_pendingNumbers_frame, ← or_assoc]
    exact (ih j rest' h hn).imp_left mem_numbers_object_reverse.mp
  case case17 =>
    intro tokens value frames h1 h2 h3 h4 h5 j rest' h
    rw [resume.eq_6 _ _ _ h1 h2 h3 h4 h5] at h
    cases h

end Json

namespace JsonToken

theorem isFinite_of_word? {spelling : String} {value : Json} {cs : List Char} {token : JsonToken}
    {taken : Nat} (hv : value.numbers = []) (h : word? spelling value cs = some (token, taken)) :
    ∀ n ∈ token.numbers, n.isFinite := by
  unfold word? at h
  split at h
  next =>
    cases h
    rw [numbers, hv]
    nofun
  next => cases h

theorem isFinite_of_first? {cs : List Char} {token : JsonToken} {taken : Nat}
    (h : first? cs = some (token, taken)) : ∀ n ∈ token.numbers, n.isFinite := by
  have hsign {sign : JsonToken} (hs : sign.numbers = [])
      (h : some (sign, 1) = some (token, taken)) : ∀ n ∈ token.numbers, n.isFinite := by
    cases h
    rw [hs]
    nofun
  unfold first? at h
  split at h
  next => exact hsign rfl h
  next => exact hsign rfl h
  next => exact hsign rfl h
  next => exact hsign rfl h
  next => exact hsign rfl h
  next => exact hsign rfl h
  next =>
    obtain ⟨⟨s, taken⟩, _, h⟩ := Option.map_eq_some_iff.mp h
    cases h
    nofun
  next => exact isFinite_of_word? rfl h
  next => exact isFinite_of_word? rfl h
  next => exact isFinite_of_word? rfl h
  next =>
    obtain ⟨⟨numeral, taken⟩, _, h⟩ := Option.bind_eq_some_iff.mp h
    obtain ⟨number, hv, h⟩ := Option.bind_eq_some_iff.mp h
    cases h
    intro n hn
    rw [List.mem_singleton.mp hn]
    exact Numeral.isFinite_of_value? hv

theorem isFinite_of_mem_scan (skip : Nat) (cs : List Char) :
    ∀ token ∈ scan skip cs, ∀ n ∈ token.numbers, n.isFinite := by
  induction cs generalizing skip with
  | nil =>
    intro token ht
    rw [scan] at ht
    exact absurd ht List.not_mem_nil
  | cons c cs ih =>
    cases skip with
    | succ skip => exact ih skip
    | zero =>
      rw [scan]
      split
      next => exact ih 0
      next =>
        split
        next token taken hf =>
          intro token' ht
          rcases List.mem_cons.mp ht with rfl | ht
          · exact isFinite_of_first? hf
          · exact ih _ token' ht
        next =>
          intro token ht n hn
          rw [List.mem_singleton.mp ht] at hn
          exact absurd hn List.not_mem_nil

end JsonToken

/-- No number of a value that is read from a text is infinite. -/
theorem Json.isFinite_of_read? {text : String} {j : Json} (h : read? text = some j) :
    ∀ n ∈ j.numbers, n.isFinite := by
  intro n hn
  have hp := (mem_numbers_of_readValue n).1 _ _ _ _ (read?_eq_some_iff.mp h) hn
  rw [pendingNumbers, List.flatMap_nil, List.nil_append] at hp
  obtain ⟨token, ht, hn⟩ := List.mem_flatMap.mp hp
  exact JsonToken.isFinite_of_mem_scan 0 _ token ht n hn

/-- An integer that is kept does not become infinite as a floating-point number. -/
theorem Value.isFinite_ofNumber {n : JsonNumber} (h : n.isFinite) : (ofNumber n).isFinite := by
  cases n with
  | real x => exact h
  | integer n =>
    obtain ⟨hl, hh⟩ := of_decide_eq_true h
    rw [ofNumber]
    split
    next => rfl
    next =>
      have hword : n.natAbs < UInt64.size := by
        have := Int64.toInt_minValue
        have hsize : UInt64.size = 2 ^ 64 := rfl
        omega
      exact Binary.isFinite_ofRank _ (lt_limit_of_le (by decide) (nearest_word_le hword))

namespace Json

theorem DenotesValue.isFinite {j : Json} {value : Value} (h : j.DenotesValue value)
    (hn : ∀ n ∈ j.numbers, n.isFinite) : value.isFinite := by
  cases h with
  | null => rfl
  | text s => rfl
  | integer n => rfl
  | wide hw =>
    have hf := Value.isFinite_ofNumber (hn _ List.mem_cons_self)
    rwa [Value.ofNumber_wide hw] at hf
  | real x => exact hn _ List.mem_cons_self

theorem DenotesOperand.isFinite {j : Json} {operand : Operand} (h : j.DenotesOperand operand)
    (hn : ∀ n ∈ j.numbers, n.isFinite) : operand.isFinite := by
  rw [Operand.isFinite, List.all_eq_true]
  cases h with
  | scalar hv =>
    intro value hm
    rw [List.mem_singleton.mp hm]
    exact hv.isFinite hn
  | @list items values hv =>
    intro value hm
    obtain ⟨item, hi, hd⟩ := exists_of_forall₂_of_mem hv hm
    exact hd.isFinite fun n hin => hn n (mem_itemNumbers.mpr ⟨item, hi, hin⟩)

theorem DenotesGroup.isFinite {members : List (String × Json)} {g : Group}
    (h : DenotesGroup members g) (hn : ∀ n ∈ memberNumbers members, n.isFinite) :
    ∀ entry ∈ g.present, entry.2.isFinite := by
  intro entry he
  obtain ⟨⟨key, operand?⟩, hm, hp⟩ := List.mem_filterMap.mp he
  obtain ⟨member, hmember, _, operand, ho, hd⟩ := exists_of_forall₂_of_mem h hm
  cases (show operand? = some operand from ho)
  cases Option.some.inj hp
  refine hd.isFinite fun n hin => hn n ?_
  exact mem_memberNumbers.mpr ⟨member, Keyed.mem_of_mem_lastValues hmember, hin⟩

mutual

theorem DenotesLevel.isFinite : ∀ {j : Json} {nodes : List Node}, j.DenotesLevel nodes →
    (∀ n ∈ j.numbers, n.isFinite) → ∀ entry ∈ presentEntries nodes, entry.2.isFinite
  | _, nodes, .intro odd length connectives parts, hn, entry, he => by
    obtain ⟨node, hm, he⟩ := mem_presentEntries.mp he
    obtain ⟨i, hi', rfl⟩ := List.getElem_of_mem hm
    have hi := length ▸ hi'
    rcases Nat.mod_two_eq_zero_or_one i with h | h
    · refine (parts i hi hi' h).isFinite (fun n hin => hn n ?_) entry he
      exact mem_itemNumbers.mpr ⟨_, List.getElem_mem hi, hin⟩
    · obtain ⟨c, hc, _⟩ := connectives i hi hi' h
      rw [hc] at he
      cases he

theorem DenotesPart.isFinite : ∀ {j : Json} {node : Node}, j.DenotesPart node →
    (∀ n ∈ j.numbers, n.isFinite) → ∀ entry ∈ node.entries, entry.2.isFinite
  | _, _, .group entries, hn, entry, he => entries.isFinite hn entry he
  | _, _, .nested level, hn, entry, he =>
    level.isFinite (fun n hin => hn n (List.mem_append_left _ hin)) entry he

end

end Json

/-- A tree that is read from a text binds finite numbers only. -/
theorem Where.isFinite_boundValues {text : String} {j : Json} {tree : Where}
    (hj : Json.read? text = some j) (ht : ofJson j = .ok tree) :
    ∀ value ∈ tree.boundValues, value.isFinite := by
  intro value hv
  obtain ⟨entry, he, hv⟩ := List.mem_flatMap.mp hv
  have hentry := (ofJson_eq_ok_iff.mp ht).isFinite (Json.isFinite_of_read? hj) entry he
  exact List.all_eq_true.mp hentry value (List.mem_of_mem_filter hv)

end Criteria
