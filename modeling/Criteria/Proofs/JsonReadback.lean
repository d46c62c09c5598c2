import Criteria.Proofs.JsonTokens
import Criteria.Template
import Mathlib.Data.List.Forall2

namespace Criteria

namespace Json

mutual

/-- The tokens of a value, whatever blanks stand between them. -/
def tokens : Json → List JsonToken
  | .null => [.literal .null]
  | .bool b => [.literal (.bool b)]
  | .number n => [.literal (.number n)]
  | .string s => [.string s]
  | .array items => .openArray :: ([.comma].intercalate (itemTokens items) ++ [.closeArray])
  | .object members =>
    .openObject :: ([.comma].intercalate (memberTokens members) ++ [.closeObject])

def itemTokens : List Json → List (List JsonToken)
  | [] => []
  | item :: rest => tokens item :: itemTokens rest

def memberTokens : List (String × Json) → List (List JsonToken)
  | [] => []
  | (key, value) :: rest => (.string key :: .colon :: tokens value) :: memberTokens rest

end

mutual

/-- The numbers of a value, at any depth. -/
def numbers : Json → List JsonNumber
  | .null | .bool _ | .string _ => []
  | .number n => [n]
  | .array items => itemNumbers items
  | .object members => memberNumbers members

def itemNumbers : List Json → List JsonNumber
  | [] => []
  | item :: rest => numbers item ++ itemNumbers rest

def memberNumbers : List (String × Json) → List JsonNumber
  | [] => []
  | (_, value) :: rest => numbers value ++ memberNumbers rest

end

mutual

/-- How many containers of a value stand inside each other. -/
def depth : Json → Nat
  | .null | .bool _ | .number _ | .string _ => 0
  | .array items => itemDepth items + 1
  | .object members => memberDepth members + 1

def itemDepth : List Json → Nat
  | [] => 0
  | item :: rest => max (depth item) (itemDepth rest)

def memberDepth : List (String × Json) → Nat
  | [] => 0
  | (_, value) :: rest => max (depth value) (memberDepth rest)

end

end Json

/-- A text is scanned as the tokens, before anything that no number goes on with. -/
def ScansTo (text : List Char) (tokens : List JsonToken) : Prop :=
  ∀ rest, EndsNumeral rest →
    JsonToken.scan 0 (text ++ rest) = tokens ++ JsonToken.scan 0 rest

/-- A character that is a token by itself, and that no number goes on with. -/
def IsSign (c : Char) (token : JsonToken) : Prop :=
  isNumeralChar c = false ∧ ∀ cs, JsonToken.scan 0 (c :: cs) = token :: JsonToken.scan 0 cs

theorem isSign_comma : IsSign ',' .comma := ⟨rfl, fun _ => rfl⟩

theorem isSign_colon : IsSign ':' .colon := ⟨rfl, fun _ => rfl⟩

theorem isSign_openArray : IsSign '[' .openArray := ⟨rfl, fun _ => rfl⟩

theorem isSign_closeArray : IsSign ']' .closeArray := ⟨rfl, fun _ => rfl⟩

theorem isSign_openObject : IsSign '{' .openObject := ⟨rfl, fun _ => rfl⟩

theorem isSign_closeObject : IsSign '}' .closeObject := ⟨rfl, fun _ => rfl⟩

theorem endsNumeral_blanks {bs rest : List Char} (hb : ∀ c ∈ bs, JsonToken.isBlank c)
    (hr : EndsNumeral rest) : EndsNumeral (bs ++ rest) := by
  cases bs with
  | nil => exact hr
  | cons c bs =>
    refine endsNumeral_cons ?_ (bs ++ rest)
    by_contra hn
    have hc := JsonToken.isBlank_of_isNumeralChar (eq_true_of_ne_false hn)
    rw [hb c List.mem_cons_self] at hc
    cases hc

namespace ScansTo

theorem nil : ScansTo [] [] := fun _ _ => rfl

theorem blanks {bs text : List Char} {tokens : List JsonToken} (hb : ∀ c ∈ bs, JsonToken.isBlank c)
    (h : ScansTo text tokens) : ScansTo (bs ++ text) tokens := by
  intro rest hr
  rw [List.append_assoc, JsonToken.scan_blanks hb, h rest hr]

theorem separated {text more : List Char} {tokens moreTokens : List JsonToken} {c : Char}
    {token : JsonToken} (hc : IsSign c token) (h : ScansTo text tokens)
    (hm : ScansTo more moreTokens) :
    ScansTo (text ++ c :: more) (tokens ++ token :: moreTokens) := by
  intro rest hr
  rw [List.append_assoc, List.cons_append, h _ (endsNumeral_cons hc.1 _), hc.2, hm rest hr,
    List.append_assoc, List.cons_append]

/-- Parts one after the other, with commas between them. -/
theorem intercalate {parts : List (List Char)} {tokens : List (List JsonToken)}
    (h : List.Forall₂ ScansTo parts tokens) :
    ScansTo ([','].intercalate parts) ([.comma].intercalate tokens) := by
  induction h with
  | nil => exact nil
  | @cons part token parts tokens hp ht ih =>
    cases ht with
    | nil =>
      rw [List.intercalate_singleton, List.intercalate_singleton]
      exact hp
    | cons =>
      rw [List.intercalate_cons_cons, List.intercalate_cons_cons, List.append_assoc,
        List.append_assoc]
      exact separated isSign_comma hp ih

theorem enclosed {text bs : List Char} {tokens : List JsonToken} {opening closing : Char}
    {openToken closeToken : JsonToken} (ho : IsSign opening openToken)
    (hc : IsSign closing closeToken) (h : ScansTo text tokens) (hb : ∀ c ∈ bs, JsonToken.isBlank c) :
    ScansTo (opening :: (text ++ (bs ++ [closing]))) (openToken :: (tokens ++ [closeToken])) := by
  intro rest hr
  have he : EndsNumeral (bs ++ closing :: rest) :=
    endsNumeral_blanks hb (endsNumeral_cons hc.1 rest)
  rw [List.cons_append, ho.2, List.append_assoc, List.append_assoc, List.singleton_append, h _ he,
    JsonToken.scan_blanks hb, hc.2]
  simp

theorem enclosedTightly {text : List Char} {tokens : List JsonToken} {opening closing : Char}
    {openToken closeToken : JsonToken} (ho : IsSign opening openToken)
    (hc : IsSign closing closeToken) (h : ScansTo text tokens) :
    ScansTo (opening :: (text ++ [closing])) (openToken :: (tokens ++ [closeToken])) := by
  have hb : ∀ c ∈ ([] : List Char), JsonToken.isBlank c := nofun
  exact enclosed ho hc h hb

theorem string (s : String) : ScansTo (Json.stringText s) [.string s] :=
  fun rest _ => JsonToken.scan_stringText s rest

theorem number {n : JsonNumber} (h : n.ReadsBack) : ScansTo n.text [.literal (.number n)] :=
  fun _ hr => JsonToken.scan_number h hr

theorem null : ScansTo ['n', 'u', 'l', 'l'] [.literal .null] :=
  fun rest _ => JsonToken.scan_of_first? rfl rfl rest rfl

theorem bool (b : Bool) : ScansTo (Json.boolText b) [.literal (.bool b)] := by
  intro rest _
  cases b with
  | false => exact JsonToken.scan_of_first? rfl rfl rest rfl
  | true => exact JsonToken.scan_of_first? rfl rfl rest rfl

end ScansTo

namespace Json

mutual

theorem scansTo_compactText : ∀ j : Json, (∀ n ∈ j.numbers, n.ReadsBack) →
    ScansTo j.compactText j.tokens
  | .null, _ => .null
  | .bool b, _ => .bool b
  | .number _, h => .number (h _ List.mem_cons_self)
  | .string s, _ => .string s
  | .array items, h => by
    have hi := ScansTo.intercalate (scansTo_compactItems items h)
    exact hi.enclosedTightly isSign_openArray isSign_closeArray
  | .object members, h => by
    have hm := ScansTo.intercalate (scansTo_compactMembers members h)
    exact hm.enclosedTightly isSign_openObject isSign_closeObject

theorem scansTo_compactItems : ∀ items : List Json, (∀ n ∈ itemNumbers items, n.ReadsBack) →
    List.Forall₂ ScansTo (compactItems items) (itemTokens items)
  | [], _ => .nil
  | item :: rest, h => by
    rw [itemNumbers, List.forall_mem_append] at h
    exact .cons (scansTo_compactText item h.1) (scansTo_compactItems rest h.2)

theorem scansTo_compactMembers : ∀ members : List (String × Json),
    (∀ n ∈ memberNumbers members, n.ReadsBack) →
    List.Forall₂ ScansTo (compactMembers members) (memberTokens members)
  | [], _ => .nil
  | (key, value) :: rest, h => by
    rw [memberNumbers, List.forall_mem_append] at h
    have hv := (ScansTo.string key).separated isSign_colon (scansTo_compactText value h.1)
    exact .cons hv (scansTo_compactMembers rest h.2)

end

theorem isBlank_of_mem_newline {n : Nat} : ∀ c ∈ '\n' :: List.replicate n ' ',
    JsonToken.isBlank c := by
  intro c hc
  rcases List.mem_cons.mp hc with rfl | hc
  · rfl
  · rw [List.eq_of_mem_replicate hc]
    rfl

theorem scansTo_indented {opening closing : Char} {openToken closeToken : JsonToken}
    (ho : IsSign opening openToken) (hc : IsSign closing closeToken) (depth : Nat)
    {parts : List (List Char)} {tokens : List (List JsonToken)}
    (h : List.Forall₂ ScansTo parts tokens) :
    ScansTo (indented opening closing depth parts)
      (openToken :: ([.comma].intercalate tokens ++ [closeToken])) := by
  cases h with
  | nil => exact ScansTo.nil.enclosedTightly ho hc
  | @cons part token parts tokens hp ht =>
    have hlines : List.Forall₂ ScansTo
        ((part :: parts).map (('\n' :: List.replicate (2 * (depth + 1)) ' ') ++ ·))
        (token :: tokens) := by
      rw [List.forall₂_map_left_iff]
      exact (List.Forall₂.cons hp ht).imp fun _ _ h => h.blanks isBlank_of_mem_newline
    rw [indented, if_neg (by simp), List.append_assoc]
    exact (ScansTo.intercalate hlines).enclosed ho hc isBlank_of_mem_newline

mutual

theorem scansTo_prettyText (depth : Nat) : ∀ j : Json, (∀ n ∈ j.numbers, n.ReadsBack) →
    ScansTo (prettyText depth j) j.tokens
  | .null, _ => .null
  | .bool b, _ => .bool b
  | .number _, h => .number (h _ List.mem_cons_self)
  | .string s, _ => .string s
  | .array items, h =>
    scansTo_indented isSign_openArray isSign_closeArray depth
      (scansTo_prettyItems (depth + 1) items h)
  | .object members, h =>
    scansTo_indented isSign_openObject isSign_closeObject depth
      (scansTo_prettyMembers (depth + 1) members h)

theorem scansTo_prettyItems (depth : Nat) : ∀ items : List Json,
    (∀ n ∈ itemNumbers items, n.ReadsBack) →
    List.Forall₂ ScansTo (prettyItems depth items) (itemTokens items)
  | [], _ => .nil
  | item :: rest, h => by
    rw [itemNumbers, List.forall_mem_append] at h
    exact .cons (scansTo_prettyText depth item h.1) (scansTo_prettyItems depth rest h.2)

theorem scansTo_prettyMembers (depth : Nat) : ∀ members : List (String × Json),
    (∀ n ∈ memberNumbers members, n.ReadsBack) →
    List.Forall₂ ScansTo (prettyMembers depth members) (memberTokens members)
  | [], _ => .nil
  | (key, value) :: rest, h => by
    rw [memberNumbers, List.forall_mem_append] at h
    have hb : ∀ c ∈ [' '], JsonToken.isBlank c := by
      rw [List.forall_mem_singleton]
      rfl
    have hv := (scansTo_prettyText depth value h.1).blanks hb
    exact .cons ((ScansTo.string key).separated isSign_colon hv)
      (scansTo_prettyMembers depth rest h.2)

end

/-- No value begins with a closing bracket. -/
theorem tokens_eq_cons (j : Json) : ∃ token rest, j.tokens = token :: rest ∧ token ≠ .closeArray := by
  cases j <;> exact ⟨_, _, rfl, nofun⟩

mutual

/-- The tokens of a value are read as the value, if no more containers than allowed are open. -/
theorem readValue_tokens : ∀ (j : Json) (frames : List JsonFrame) (rest : List JsonToken),
    frames.length + j.depth ≤ maxDepth →
    readValue frames (j.tokens ++ rest) = resume j frames rest
  | .null, frames, rest, _ => by rw [tokens, List.singleton_append, readValue]
  | .bool b, frames, rest, _ => by rw [tokens, List.singleton_append, readValue]
  | .number n, frames, rest, _ => by rw [tokens, List.singleton_append, readValue]
  | .string s, frames, rest, _ => by rw [tokens, List.singleton_append, readValue]
  | .array [], frames, rest, h => by
    have hl : frames.length < maxDepth := h
    exact if_pos hl
  | .array (item :: items), frames, rest, h => by
    rw [depth, itemDepth] at h
    have hl : frames.length < maxDepth := by
      omega
    have hd : (JsonFrame.array [] :: frames).length + item.depth ≤ maxDepth := by
      rw [List.length_cons]
      omega
    obtain ⟨token, behind, ht, hne⟩ := tokens_eq_cons item
    rw [tokens, itemTokens, intercalate_cons_eq_flatMap, List.cons_append, List.append_assoc,
      List.append_assoc, readValue.eq_6 _ _ (by simp [ht, hne]), if_pos hl,
      readValue_tokens item _ _ hd]
    exact resume_items items item [] frames rest (by omega)
  | .object [], frames, rest, h => by
    have hl : frames.length < maxDepth := h
    exact if_pos hl
  | .object ((key, value) :: members), frames, rest, h => by
    rw [depth, memberDepth] at h
    have hl : frames.length < maxDepth := by
      omega
    have hd : (JsonFrame.object [] key :: frames).length + value.depth ≤ maxDepth := by
      rw [List.length_cons]
      omega
    rw [tokens, memberTokens, intercalate_cons_eq_flatMap, List.cons_append, List.append_assoc,
      List.append_assoc, List.cons_append, List.cons_append, readValue, if_pos hl,
      readValue_tokens value _ _ hd]
    exact resume_members members value [] key frames rest (by omega)

theorem resume_items : ∀ (items : List Json) (value : Json) (done : List Json)
    (frames : List JsonFrame) (rest : List JsonToken),
    frames.length + 1 + itemDepth items ≤ maxDepth →
    resume value (.array done :: frames)
      ((itemTokens items).flatMap (.comma :: ·) ++ ([.closeArray] ++ rest)) =
    resume (.array (done.reverse ++ value :: items)) frames rest
  | [], value, done, frames, rest, _ => by
    rw [itemTokens, List.flatMap_nil, List.nil_append, List.singleton_append, resume,
      List.reverse_cons]
  | item :: items, value, done, frames, rest, h => by
    rw [itemDepth] at h
    have hd : (JsonFrame.array (value :: done) :: frames).length + item.depth ≤ maxDepth := by
      rw [List.length_cons]
      omega
    rw [itemTokens, List.flatMap_cons, List.append_assoc, List.cons_append, resume,
      readValue_tokens item _ _ hd, resume_items items item _ frames rest (by omega),
      List.reverse_cons, List.append_assoc, List.singleton_append]

theorem resume_members : ∀ (members : List (String × Json)) (value : Json)
    (done : List (String × Json)) (key : String) (frames : List JsonFrame) (rest : List JsonToken),
    frames.length + 1 + memberDepth members ≤ maxDepth →
    resume value (.object done key :: frames)
      ((memberTokens members).flatMap (.comma :: ·) ++ ([.closeObject] ++ rest)) =
    resume (.object (done.reverse ++ (key, value) :: members)) frames rest
  | [], value, done, key, frames, rest, _ => by
    rw [memberTokens, List.flatMap_nil, List.nil_append, List.singleton_append, resume,
      List.reverse_cons]
  | (next, item) :: members, value, done, key, frames, rest, h => by
    rw [memberDepth] at h
    have hd : (JsonFrame.object ((key, value) :: done) next :: frames).length + item.depth ≤
        maxDepth := by
      rw [List.length_cons]
      omega
    rw [memberTokens, List.flatMap_cons, List.append_assoc, List.cons_append, List.cons_append,
      List.cons_append, resume, readValue_tokens item _ _ hd,
      resume_members members item _ next frames rest (by omega), List.reverse_cons,
      List.append_assoc, List.singleton_append]

end

theorem read?_of_scansTo {j : Json} {text : List Char} (h : ScansTo text j.tokens)
    (hd : j.depth ≤ maxDepth) : read? (String.ofList text) = some j := by
  have hs := h [] endsNumeral_nil
  have hr := readValue_tokens j [] [] (by rw [List.length_nil]; omega)
  rw [List.append_nil] at hs
  rw [read?_eq_some_iff, JsonToken.ofText, String.toList_ofList, hs]
  exact hr

/-- A value whose numbers read back is read from either of its texts. -/
theorem read?_compact {j : Json} (hn : ∀ n ∈ j.numbers, n.ReadsBack) (hd : j.depth ≤ maxDepth) :
    read? j.compact = some j :=
  read?_of_scansTo (scansTo_compactText j hn) hd

theorem read?_pretty {j : Json} (hn : ∀ n ∈ j.numbers, n.ReadsBack) (hd : j.depth ≤ maxDepth) :
    read? j.pretty = some j :=
  read?_of_scansTo (scansTo_prettyText 0 j hn) hd

end Json

end Criteria
