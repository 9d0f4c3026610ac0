import ScriptRunner.Json.Value
import ScriptRunner.Proofs.Json.Token

namespace ScriptRunner.Json.Value

mutual

def tokens : Value → List Token
  | .null => [.null]
  | .bool b => [.bool b]
  | .number n => [.number n]
  | .string s => [.string s]
  | .unpaired => [.unpaired]
  | .array items => .openBracket :: (itemTokens items ++ [.closeBracket])
  | .object members => .openBrace :: (memberTokens members ++ [.closeBrace])

def itemTokens : List Value → List Token
  | [] => []
  | [v] => v.tokens
  | v :: vs => v.tokens ++ .comma :: itemTokens vs

def memberTokens : List (String × Value) → List Token
  | [] => []
  | [(k, v)] => .string k :: .colon :: v.tokens
  | (k, v) :: ms => .string k :: .colon :: (v.tokens ++ .comma :: memberTokens ms)

end

def Exact (ts : List Token) : Prop := ∀ n, .number n ∈ ts → n.Exact

theorem Exact.append {xs ys : List Token} (h : Exact (xs ++ ys)) : Exact xs ∧ Exact ys :=
  ⟨fun n member => h n (List.mem_append_left ys member), fun n member => h n (List.mem_append_right xs member)⟩

theorem Exact.tail {t : Token} {ts : List Token} (h : Exact (t :: ts)) : Exact ts :=
  fun n member => h n (List.mem_cons_of_mem t member)

theorem exists_tokens_cons (v : Value) : ∃ t ts, v.tokens = t :: ts ∧ t ≠ .closeBracket := by
  cases v with
  | null => exact ⟨.null, _, by rw [tokens], nofun⟩
  | bool b => exact ⟨.bool b, _, by rw [tokens], nofun⟩
  | number n => exact ⟨.number n, _, by rw [tokens], nofun⟩
  | string s => exact ⟨.string s, _, by rw [tokens], nofun⟩
  | unpaired => exact ⟨.unpaired, _, by rw [tokens], nofun⟩
  | array items => exact ⟨.openBracket, _, by rw [tokens], nofun⟩
  | object members => exact ⟨.openBrace, _, by rw [tokens], nofun⟩

theorem length_tokens_pos (v : Value) : 0 < v.tokens.length := by
  obtain ⟨t, ts, shape, -⟩ := v.exists_tokens_cons
  simp [shape]

theorem itemTokens_cons (v : Value) {items : List Value} (more : items ≠ []) :
    itemTokens (v :: items) = v.tokens ++ .comma :: itemTokens items := by
  rw [itemTokens]
  exact more

theorem memberTokens_cons (k : String) (v : Value) {members : List (String × Value)} (more : members ≠ []) :
    memberTokens ((k, v) :: members) = .string k :: .colon :: (v.tokens ++ .comma :: memberTokens members) := by
  rw [memberTokens]
  exact more

theorem ofTokens?_array {fuel : Nat} {items : List Value} {rest rest' : List Token} (filled : items ≠ [])
    (read : itemsOfTokens? fuel (itemTokens items ++ rest) = some (items, rest')) :
    ofTokens? (fuel + 1) (.openBracket :: (itemTokens items ++ rest)) = some (.array items, rest') := by
  rw [ofTokens?, read, Option.map_some]
  intro ts closed
  obtain ⟨v, vs, rfl⟩ := List.exists_cons_of_ne_nil filled
  obtain ⟨t, ts', shape, other⟩ := v.exists_tokens_cons
  cases vs with
  | nil =>
    rw [itemTokens, shape] at closed
    exact other (List.cons.inj closed).1
  | cons w vs =>
    rw [itemTokens_cons v (List.cons_ne_nil w vs), shape] at closed
    exact other (List.cons.inj closed).1

theorem ofTokens?_object {fuel : Nat} {members : List (String × Value)} {rest rest' : List Token}
    (read : membersOfTokens? fuel (memberTokens members ++ rest) = some (members, rest')) :
    ofTokens? (fuel + 1) (.openBrace :: (memberTokens members ++ rest)) = some (.object members, rest') := by
  rw [ofTokens?, read, Option.map_some]
  intro ts closed
  rw [closed] at read
  cases fuel <;> cases read

mutual

theorem ofTokens?_tokens (v : Value) (fuel : Nat) (rest : List Token) (enough : 2 * v.tokens.length ≤ fuel) :
    ofTokens? fuel (v.tokens ++ rest) = some (v, rest) := by
  have started := v.length_tokens_pos
  obtain ⟨fuel, rfl⟩ := Nat.exists_eq_add_one.2 (by omega : 0 < fuel)
  cases v with
  | array items =>
    simp only [tokens, List.length_cons, List.length_append, List.length_nil] at enough
    have read := itemsOfTokens?_tokens items fuel rest (by omega)
    cases items with
    | nil => rfl
    | cons v vs =>
      have filled := List.cons_ne_nil v vs
      simpa [tokens] using ofTokens?_array filled (read filled)
  | object members =>
    simp only [tokens, List.length_cons, List.length_append, List.length_nil] at enough
    have read := membersOfTokens?_tokens members fuel rest (by omega)
    cases members with
    | nil => rfl
    | cons m ms => simpa [tokens] using ofTokens?_object (read (List.cons_ne_nil m ms))
  | _ => rfl

theorem itemsOfTokens?_tokens (items : List Value) (fuel : Nat) (rest : List Token)
    (enough : 2 * (itemTokens items).length < fuel) (filled : items ≠ []) :
    itemsOfTokens? fuel (itemTokens items ++ .closeBracket :: rest) = some (items, rest) := by
  obtain ⟨fuel, rfl⟩ := Nat.exists_eq_add_one.2 (Nat.zero_lt_of_lt enough)
  cases items with
  | nil => exact absurd rfl filled
  | cons v vs =>
    cases vs with
    | nil =>
      rw [itemTokens] at enough ⊢
      have first := ofTokens?_tokens v fuel (.closeBracket :: rest) (by omega)
      simp [itemsOfTokens?, first]
    | cons w vs =>
      rw [itemTokens_cons v (List.cons_ne_nil w vs)] at enough ⊢
      simp only [List.length_append, List.length_cons] at enough
      have first := ofTokens?_tokens v fuel (.comma :: (itemTokens (w :: vs) ++ .closeBracket :: rest)) (by omega)
      have later := itemsOfTokens?_tokens (w :: vs) fuel rest (by omega) (List.cons_ne_nil w vs)
      simp [itemsOfTokens?, first, later]

theorem membersOfTokens?_tokens (members : List (String × Value)) (fuel : Nat) (rest : List Token)
    (enough : 2 * (memberTokens members).length < fuel) (filled : members ≠ []) :
    membersOfTokens? fuel (memberTokens members ++ .closeBrace :: rest) = some (members, rest) := by
  obtain ⟨fuel, rfl⟩ := Nat.exists_eq_add_one.2 (Nat.zero_lt_of_lt enough)
  cases members with
  | nil => exact absurd rfl filled
  | cons m ms =>
    obtain ⟨k, v⟩ := m
    cases ms with
    | nil =>
      rw [memberTokens] at enough ⊢
      simp only [List.length_cons] at enough
      have first := ofTokens?_tokens v fuel (.closeBrace :: rest) (by omega)
      simp [membersOfTokens?, first]
    | cons m ms =>
      rw [memberTokens_cons k v (List.cons_ne_nil m ms)] at enough ⊢
      simp only [List.length_append, List.length_cons] at enough
      have first := ofTokens?_tokens v fuel (.comma :: (memberTokens (m :: ms) ++ .closeBrace :: rest)) (by omega)
      have later := membersOfTokens?_tokens (m :: ms) fuel rest (by omega) (List.cons_ne_nil m ms)
      simp [membersOfTokens?, first, later]

end

def Apart (s : List Char) : Prop := ∀ c ∈ s.head?, ¬ Number.isMark c = true

structure Sign (t : Token) (c : Char) : Prop where
  written : t.text = [c]
  other : ∀ n, t ≠ .number n
  unmarked : Number.isMark c = false

theorem sign_comma : Sign .comma ',' := ⟨rfl, nofun, rfl⟩
theorem sign_colon : Sign .colon ':' := ⟨rfl, nofun, rfl⟩
theorem sign_openBracket : Sign .openBracket '[' := ⟨rfl, nofun, rfl⟩
theorem sign_closeBracket : Sign .closeBracket ']' := ⟨rfl, nofun, rfl⟩
theorem sign_openBrace : Sign .openBrace '\x7b' := ⟨rfl, nofun, rfl⟩
theorem sign_closeBrace : Sign .closeBrace '\x7d' := ⟨rfl, nofun, rfl⟩

theorem Sign.apart {t : Token} {c : Char} (sign : Sign t c) (s : List Char) : Apart (c :: s) := by
  rintro _ ⟨⟩
  simp [sign.unmarked]

theorem Sign.spelled {t : Token} {c : Char} (sign : Sign t c) {s : List Char} {ts : List Token}
    (after : Spelled s ts) : Spelled (c :: s) (t :: ts) := by
  have spelled := Spelled.other sign.other after
  rwa [sign.written] at spelled

def Blank (s : List Char) : Prop := ∀ c ∈ s, isSpace c = true

theorem blank_nil : Blank [] := nofun

theorem blank_newLine (depth : Nat) : Blank (newLine depth) := by
  intro c member
  rcases List.mem_cons.1 member with rfl | member
  · rfl
  · rw [List.eq_of_mem_replicate member]
    rfl

theorem Blank.spelled {blanks : List Char} (blank : Blank blanks) {s : List Char} {ts : List Token}
    (after : Spelled s ts) : Spelled (blanks ++ s) ts := by
  induction blanks with
  | nil => exact after
  | cons c blanks ih =>
    rw [Blank, List.forall_mem_cons] at blank
    exact .space blank.1 (ih blank.2)

theorem Blank.apart {blanks : List Char} (blank : Blank blanks) {s : List Char} (apart : Apart s) :
    Apart (blanks ++ s) := by
  cases blanks with
  | nil => exact apart
  | cons c blanks =>
    rintro _ ⟨⟩
    exact not_isMark_of_isSpace (blank c List.mem_cons_self)

/-- What a layout owes to its tokens, in any place where a value may stand. -/
def Spells (text : List Char) (ts : List Token) : Prop :=
  Exact ts → ∀ s us, Apart s → Spelled s us → Spelled (text ++ s) (ts ++ us)

namespace Spells

variable {text more blanks : List Char} {ts us : List Token}

theorem nil : Spells [] [] := fun _ _ _ _ after => after

theorem other {t : Token} (other : ∀ n, t ≠ .number n) : Spells t.text [t] :=
  fun _ _ _ _ after => .other other after

theorem number (n : Number) : Spells n.text [.number n] :=
  fun exactly _ _ apart after =>
    .token (t := .number n) (fun _ same => Token.number.inj same ▸ ⟨exactly n List.mem_cons_self, apart⟩) after

theorem blank (gap : Blank blanks) (h : Spells text ts) : Spells (blanks ++ text) ts := by
  intro exactly s us apart after
  rw [List.append_assoc]
  exact gap.spelled (h exactly s us apart after)

theorem comma (h : Spells text ts) (later : Spells more us) : Spells (text ++ ',' :: more) (ts ++ .comma :: us) := by
  intro exactly s vs apart after
  obtain ⟨first, rest⟩ := exactly.append
  rw [List.append_assoc, List.append_assoc]
  exact h first _ _ (sign_comma.apart _) (sign_comma.spelled (later rest.tail s vs apart after))

theorem member (k : String) (gap : Blank blanks) (h : Spells text ts) :
    Spells (keyTokens k ++ ':' :: (blanks ++ text)) (.string k :: .colon :: ts) := by
  intro exactly s us apart after
  rw [List.append_assoc]
  exact .other (t := .string k) nofun (sign_colon.spelled (h.blank gap exactly.tail.tail s us apart after))

theorem within {o c : Token} {left right : Char} (opens : Sign o left) (closes : Sign c right) (gap : Blank blanks)
    (h : Spells text ts) : Spells (left :: text ++ blanks ++ [right]) (o :: (ts ++ [c])) := by
  intro exactly s us _ after
  have closed := gap.spelled (closes.spelled after)
  have inner := h exactly.tail.append.1 _ _ (gap.apart (closes.apart s)) closed
  simpa using opens.spelled inner

end Spells

mutual

theorem spells_compactText (v : Value) : Spells v.compactText v.tokens := by
  cases v with
  | null => exact .other nofun
  | bool b => exact .other (t := .bool b) nofun
  | number n => exact .number n
  | string s => exact .other (t := .string s) nofun
  | unpaired => exact .other nofun
  | array items =>
    rw [compactText, tokens]
    simpa using (spells_compactItems items).within sign_openBracket sign_closeBracket blank_nil
  | object members =>
    rw [compactText, tokens]
    simpa using (spells_compactMembers members).within sign_openBrace sign_closeBrace blank_nil

theorem spells_compactItems (items : List Value) : Spells (compactItems items) (itemTokens items) := by
  cases items with
  | nil => exact .nil
  | cons v vs =>
    cases vs with
    | nil => exact spells_compactText v
    | cons w vs => exact (spells_compactText v).comma (spells_compactItems (w :: vs))

theorem spells_compactMembers (members : List (String × Value)) :
    Spells (compactMembers members) (memberTokens members) := by
  cases members with
  | nil => exact .nil
  | cons m ms =>
    obtain ⟨k, v⟩ := m
    cases ms with
    | nil => exact (spells_compactText v).member k blank_nil
    | cons m ms =>
      have first := ((spells_compactText v).member k blank_nil).comma (spells_compactMembers (m :: ms))
      simpa [compactMembers, memberTokens] using first

end

mutual

theorem spells_prettyText (depth : Nat) (v : Value) : Spells (prettyText depth v) v.tokens := by
  cases v with
  | null => exact .other nofun
  | bool b => exact .other (t := .bool b) nofun
  | number n => exact .number n
  | string s => exact .other (t := .string s) nofun
  | unpaired => exact .other nofun
  | array items =>
    have gap : Blank (if items.isEmpty then [] else newLine depth) := by
      split
      · exact blank_nil
      · exact blank_newLine depth
    exact (spells_prettyItems (depth + 1) items).within sign_openBracket sign_closeBracket gap
  | object members =>
    have gap : Blank (if members.isEmpty then [] else newLine depth) := by
      split
      · exact blank_nil
      · exact blank_newLine depth
    exact (spells_prettyMembers (depth + 1) members).within sign_openBrace sign_closeBrace gap

theorem spells_prettyItems (depth : Nat) (items : List Value) :
    Spells (prettyItems depth items) (itemTokens items) := by
  cases items with
  | nil => exact .nil
  | cons v vs =>
    have first := (spells_prettyText depth v).blank (blank_newLine depth)
    cases vs with
    | nil => exact first
    | cons w vs => exact first.comma (spells_prettyItems depth (w :: vs))

theorem spells_prettyMembers (depth : Nat) (members : List (String × Value)) :
    Spells (prettyMembers depth members) (memberTokens members) := by
  cases members with
  | nil => exact .nil
  | cons m ms =>
    obtain ⟨k, v⟩ := m
    have one : Blank [' '] := by simp [Blank, isSpace]
    have first := ((spells_prettyText depth v).member k one).blank (blank_newLine depth)
    cases ms with
    | nil => simpa [prettyMembers, memberTokens] using first
    | cons m ms =>
      have more := first.comma (spells_prettyMembers depth (m :: ms))
      simpa [prettyMembers, memberTokens] using more

end

/-- A text that says a value, in whatever way it is written. -/
def Document (text : String) (v : Value) : Prop := Written text.toList v.tokens

theorem Document.ofText? {text : String} {v : Value} (h : Document text v) : ofText? text = some v := by
  have read := ofTokens?_tokens v (2 * v.tokens.length + 1) [] (Nat.le_succ _)
  rw [List.append_nil] at read
  simp [Value.ofText?, h.lex?, read]

theorem document_compact {v : Value} (exactly : Exact v.tokens) : Document v.compact v := by
  have spelled := spells_compactText v exactly [] [] nofun .done
  simpa [Document, compact] using spelled.written

theorem document_pretty {v : Value} (exactly : Exact v.tokens) {gap : String} (blank : Blank gap.toList) :
    Document (v.pretty ++ gap) v := by
  have spelled := spells_prettyText 0 v exactly gap.toList []
    (by simpa using blank.apart (s := []) nofun) (by simpa using blank.spelled .done)
  simpa [Document, pretty] using spelled.written

/-- What reads documents by what they say. To a value it gives some meaning, in whatever way the value is written. -/
structure Reader (α : Type) where
  read : String → α
  meaning : Value → α
  reads : ∀ {text v}, Document text v → read text = meaning v

namespace Reader

def whole : Reader (Option Value) := ⟨Value.ofText?, some, Document.ofText?⟩

end Reader

end ScriptRunner.Json.Value
