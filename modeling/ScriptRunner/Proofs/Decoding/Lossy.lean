import ScriptRunner.Encoding.StreamDecoder
import ScriptRunner.Proofs.Decoding
import ScriptRunner.Proofs.Decoding.Utf8

namespace ScriptRunner

open ByteMachine (text)
open String (utf8EncodeChar)

namespace Codec

def total (c : Codec) (bytes : List UInt8) : List Char := (c.run bytes).1 ++ (c.run bytes).2.finish

theorem total_append (c : Codec) (xs ys : List UInt8) : c.total (xs ++ ys) = (c.run xs).1 ++ (c.run xs).2.total ys := by
  simp [total, run_append, List.append_assoc]

theorem total_cons (c : Codec) (b : UInt8) (bytes : List UInt8) :
    c.total (b :: bytes) = (c.step b).1 ++ (c.step b).2.total bytes := by
  simp [total, run, List.append_assoc]

end Codec

namespace Utf8

/-- The longest part at the start of the bytes that begins a character, or one byte. -/
structure MaximalSubpart (bytes part : List UInt8) : Prop where
  nonempty : part ≠ []
  starts : part <+: bytes
  allowed : Begins part ∨ part.length = 1
  longest : ∀ p, p <+: bytes → Begins p ∨ p.length = 1 → p.length ≤ part.length

/-- The lossy reading of bytes. Where no character stands, a maximal subpart is replaced. -/
inductive Lossy : List UInt8 → List Char → Prop where
  | done : Lossy [] []
  | char {rest : List UInt8} {text : List Char} (c : Char) (after : Lossy rest text) :
      Lossy (utf8EncodeChar c ++ rest) (c :: text)
  | broken {part rest : List UInt8} {text : List Char} (nothing : ∀ c, ¬ utf8EncodeChar c <+: part ++ rest)
      (maximal : MaximalSubpart (part ++ rest) part) (after : Lossy rest text) :
      Lossy (part ++ rest) (replacementChar :: text)

theorem MaximalSubpart.unique {bytes p q : List UInt8} (h : MaximalSubpart bytes p) (h' : MaximalSubpart bytes q) :
    p = q := by
  have short := h'.longest p h.starts h.allowed
  have long := h.longest q h'.starts h'.allowed
  exact (List.prefix_of_prefix_length_le h.starts h'.starts short).eq_of_length (Nat.le_antisymm short long)

theorem Lossy.unique {bytes : List UInt8} {text text' : List Char} (h : Lossy bytes text) (h' : Lossy bytes text') :
    text = text' := by
  -- The bytes of the second reading are no variable: they are named before its cases.
  induction h generalizing text' with
  | done =>
    generalize empty : ([] : List UInt8) = bytes at h'
    cases h' with
    | done => rfl
    | char c => simp at empty
    | broken _ maximal => simp [maximal.nonempty] at empty
  | @char rest text c after ih =>
    generalize same : utf8EncodeChar c ++ rest = bytes at h'
    cases h' with
    | done => simp at same
    | char d after' =>
      obtain ⟨rfl, rfl⟩ := encode_append_inj same
      rw [ih after']
    | broken nothing => exact absurd ⟨rest, same⟩ (nothing c)
  | @broken part rest text nothing maximal after ih =>
    generalize same : part ++ rest = bytes at h'
    cases h' with
    | done => simp [maximal.nonempty] at same
    | char d => exact absurd ⟨_, same.symm⟩ (nothing d)
    | broken _ maximal' after' =>
      rw [same] at maximal
      obtain rfl := maximal.unique maximal'
      rw [ih (List.append_cancel_left same ▸ after')]

theorem Held.eq_nil {seen rest q : List UInt8} {n : Nat} {low high : UInt8} {value : Nat}
    (h : Held seen n low high value) (wrong : ∀ b ∈ rest.head?, ¬ (low ≤ b ∧ b ≤ high)) (next : q <+: rest)
    {c : Char} (starts : seen ++ q <+: utf8EncodeChar c) : q = [] := by
  cases q with
  | nil => rfl
  | cons b q =>
    obtain ⟨tail, whole⟩ := starts
    obtain ⟨more, rfl⟩ := next
    rw [List.append_assoc] at whole
    obtain _ | ⟨within, -⟩ := (h.completed _ c).1 whole.symm
    exact absurd within (wrong b rfl)

theorem Held.broken {seen rest : List UInt8} {n : Nat} {low high : UInt8} {value : Nat} {text : List Char}
    (h : Held seen n low high value) (wrong : ∀ b ∈ rest.head?, ¬ (low ≤ b ∧ b ≤ high)) (after : Lossy rest text) :
    Lossy (seen ++ rest) (replacementChar :: text) := by
  refine .broken ?_ ⟨h.started, List.prefix_append _ _, .inl h.begins, ?_⟩ after
  · intro c starts
    rcases List.prefix_or_prefix_of_prefix starts (List.prefix_append seen rest) with inside | ⟨q, whole⟩
    · exact h.unfinished c inside
    · rw [← whole, List.prefix_append_right_inj] at starts
      obtain rfl := h.eq_nil wrong starts (by rw [whole])
      exact h.unfinished c ⟨[], by rw [← whole]; simp⟩
  · intro p starts allowed
    by_contra longer
    obtain ⟨q, rfl⟩ := List.prefix_of_prefix_length_le (List.prefix_append seen rest) starts (by omega)
    rcases allowed with ⟨c, begun⟩ | one
    · rw [List.prefix_append_right_inj] at starts
      obtain rfl := h.eq_nil wrong starts begun
      simp at longer
    · have one_more := List.length_pos_iff.2 h.started
      omega

theorem Lossy.stray {b : UInt8} {rest : List UInt8} {text : List Char}
    (nowhere : ∀ c tail, utf8EncodeChar c ≠ b :: tail) (after : Lossy rest text) :
    Lossy (b :: rest) (replacementChar :: text) := by
  refine @Lossy.broken [b] rest text ?_ ⟨List.cons_ne_nil b [], ⟨rest, rfl⟩, .inr rfl, ?_⟩ after
  · rintro c starts
    rcases List.prefix_cons_iff.1 starts with empty | ⟨tail, whole, -⟩
    · exact String.utf8EncodeChar_ne_nil empty
    · exact nowhere c tail whole
  · intro p starts allowed
    rcases allowed with ⟨c, tail, whole⟩ | one
    · rcases List.prefix_cons_iff.1 starts with rfl | ⟨q, rfl, -⟩
      · exact Nat.zero_le _
      · exact absurd whole.symm (nowhere c _)
    · exact one.le

section Steps

variable {n : Nat} {low high b : UInt8} (value : Nat) (bytes : List UInt8)

theorem total_last (within : low ≤ b ∧ b ≤ high) : Codec.total (.utf8 1 low high value) (b :: bytes) =
    Char.ofNat (value * 64 + (b.toNat - 0x80)) :: Codec.total .utf8Start bytes := by
  rw [Codec.total_cons]
  simp [Codec.step, within]

theorem total_more (within : low ≤ b ∧ b ≤ high) : Codec.total (.utf8 (n + 2) low high value) (b :: bytes) =
    Codec.total (.utf8 (n + 1) 0x80 0xBF (value * 64 + (b.toNat - 0x80))) bytes := by
  rw [Codec.total_cons]
  simp [Codec.step, within]

theorem total_wrong (wrong : ¬ (low ≤ b ∧ b ≤ high)) : Codec.total (.utf8 (n + 1) low high value) (b :: bytes) =
    replacementChar :: Codec.total .utf8Start (b :: bytes) := by
  rw [Codec.total_cons, Codec.total_cons]
  simp [Codec.step, Codec.utf8Start, wrong]

end Steps

/-- Induction on the bytes, from the start and in the middle of a character at once: a byte that breaks a character off
is read again from the start. -/
theorem lossy_total (bytes : List UInt8) :
    Lossy bytes (Codec.total .utf8Start bytes) ∧ ∀ seen n low high value, Held seen n low high value →
      Lossy (seen ++ bytes) (Codec.total (.utf8 (n + 1) low high value) bytes) := by
  induction bytes with
  | nil =>
    refine ⟨.done, fun seen n low high value held => ?_⟩
    exact held.broken nofun .done
  | cons b bytes ih =>
    obtain ⟨fresh, middle⟩ := ih
    have start : Lossy (b :: bytes) (Codec.total .utf8Start (b :: bytes)) := by
      have step : Codec.utf8Start.step b = Codec.utf8First b := rfl
      rw [Codec.total_cons, step]
      rcases first_cases b with ⟨ascii, first⟩ | ⟨n, low, high, value, first⟩ | ⟨other, first⟩
      · rw [first]
        have read := Lossy.char (Char.ofNat b.toNat) fresh
        rwa [encode_ascii ascii] at read
      · rw [first]
        exact middle [b] n low high value (.lead first)
      · rw [first]
        refine .stray (fun c tail whole => ?_) fresh
        rcases first_of_encode whole with ⟨ascii, -⟩ | ⟨n, low, high, value, same, -⟩
        · exact other ascii
        · rw [same] at first
          cases first
    refine ⟨start, fun seen n low high value held => ?_⟩
    by_cases within : low ≤ b ∧ b ≤ high
    · cases n with
      | zero =>
        have valid := held.valid b within 0 (by positivity)
        rw [Nat.pow_zero, Nat.mul_one, Nat.add_zero] at valid
        have whole := (held.completed [b] _).2 (.byte within (.done (toNat_ofNat_of_valid valid)))
        have read := Lossy.char (Char.ofNat (value * 64 + (b.toNat - 0x80))) fresh
        rw [total_last value bytes within]
        rwa [whole, List.append_assoc] at read
      | succ n =>
        have read := middle _ _ _ _ _ (held.next within)
        rw [total_more value bytes within]
        rwa [List.append_assoc] at read
    · rw [total_wrong value bytes within]
      refine held.broken ?_ start
      rintro _ ⟨⟩
      exact within

theorem lossy_iff (bytes : List UInt8) (text : List Char) :
    Lossy bytes text ↔ text = Codec.total .utf8Start bytes := by
  constructor
  · intro h
    exact h.unique (lossy_total bytes).1
  · rintro rfl
    exact (lossy_total bytes).1

end Utf8

namespace Decoder

theorem text_body (c : Codec) (bytes : List UInt8) : text (Decoder.body c) bytes true = c.total bytes := by
  induction bytes generalizing c with
  | nil => rfl
  | cons b bytes ih =>
    rw [ByteMachine.text_cons, Codec.total_cons, ← ih]
    rfl

/-- The mark is held back until it is whole. What is only a beginning of it is read as text. -/
theorem text_opening (e : Encoding) (seen : List UInt8) {missing : List UInt8} (waiting : missing ≠ [])
    (bytes : List UInt8) : text (opening e seen missing) bytes true =
      if missing <+: bytes then (Codec.start e).total (bytes.drop missing.length)
      else (Codec.start e).total (seen ++ bytes) := by
  induction missing generalizing seen bytes with
  | nil => exact absurd rfl waiting
  | cons m missing ih =>
    cases bytes with
    | nil =>
      rw [if_neg (by simp), Codec.total_append]
      rfl
    | cons b bytes =>
      rw [ByteMachine.text_cons]
      by_cases same : b = m
      · subst same
        cases missing with
        | nil =>
          have step : ByteMachine.step (opening e seen [b]) b = ([], body (Codec.start e)) := by
            simp [ByteMachine.step, step]
          rw [step, if_pos ⟨bytes, rfl⟩]
          exact text_body _ bytes
        | cons m missing =>
          have step : ByteMachine.step (opening e seen (b :: m :: missing)) b =
              ([], opening e (seen ++ [b]) (m :: missing)) := by
            simp [ByteMachine.step, step]
          rw [step]
          simpa using ih (seen ++ [b]) (List.cons_ne_nil m missing) bytes
      · have step : ByteMachine.step (opening e seen (m :: missing)) b =
            (((Codec.start e).run (seen ++ [b])).1, body ((Codec.start e).run (seen ++ [b])).2) := by
          simp [ByteMachine.step, step, same]
        have broken : ¬ m :: missing <+: b :: bytes := fun starts => same (List.cons_prefix_cons.1 starts).1.symm
        rw [step, if_neg broken, text_body, ← Codec.total_append, List.append_assoc]
        rfl

/-- The bytes without one byte order mark in front. -/
def withoutMark (bytes : List UInt8) : List UInt8 :=
  if Encoding.utf8.byteOrderMark <+: bytes then bytes.drop 3 else bytes

theorem text_start_utf8 (bytes : List UInt8) :
    text (start .utf8) bytes true = Codec.utf8Start.total (withoutMark bytes) := by
  have opened := text_opening .utf8 [] (List.cons_ne_nil 0xEF [0xBB, 0xBF]) bytes
  unfold withoutMark
  split
  · next marked => exact opened.trans (if_pos marked)
  · next plain => exact opened.trans (if_neg plain)

theorem byteOrderMark_utf8 : Encoding.utf8.byteOrderMark = utf8EncodeChar '\uFEFF' := by decide

theorem withoutMark_utf8Bytes {s : String} (plain : s.toList.head? ≠ some '\uFEFF') :
    withoutMark (utf8Bytes s) = utf8Bytes s := by
  refine if_neg fun marked => plain ?_
  obtain ⟨rest, whole⟩ := marked
  rw [byteOrderMark_utf8, ← String.ofList_toList (s := s), Utf8.utf8Bytes_ofList] at whole
  cases first : s.toList with
  | nil => simp [first] at whole
  | cons c text =>
    rw [first, List.flatMap_cons] at whole
    rw [(Utf8.encode_append_inj whole).1]
    rfl

theorem withoutMark_append_utf8Bytes (s : String) :
    withoutMark (Encoding.utf8.byteOrderMark ++ utf8Bytes s) = utf8Bytes s :=
  if_pos (List.prefix_append _ _)

end Decoder

theorem Utf8.lossy_utf8Bytes (s : String) : Lossy (utf8Bytes s) s.toList := by
  have spelled (text : List Char) : Lossy (text.flatMap utf8EncodeChar) text := by
    induction text with
    | nil => exact .done
    | cons c text ih => exact .char c ih
  rw [← String.ofList_toList (s := s), utf8Bytes_ofList, String.toList_ofList]
  exact spelled _

theorem utf8Lossy_eq (bytes : List UInt8) : utf8Lossy bytes = String.ofList (Codec.utf8Start.total bytes) := rfl

theorem utf8Lossy_utf8Bytes (s : String) : utf8Lossy (utf8Bytes s) = s := by
  rw [utf8Lossy_eq, ← (Utf8.lossy_iff _ _).1 (Utf8.lossy_utf8Bytes s), String.ofList_toList]

theorem Encoding.forLabel_eq_utf8 {label : String}
    (named : ofLabel? (Text.trim label) = some .utf8 ∨ ofLabel? (Text.trim label) = none) :
    forLabel label = .utf8 := by
  rcases named with named | unknown
  · rw [forLabel, named, Option.getD_some]
  · rw [forLabel, unknown, Option.getD_none]

/-- A machine that reads UTF-8 as the standard of encodings has it, with one mark removed. -/
def ByteMachine.ReadsUtf8 (δ : Type) [ByteMachine δ] : Prop :=
  ∀ bytes, text (ByteMachine.start .utf8 : δ) bytes true = text (Decoder.start .utf8) bytes true

namespace StreamDecoder

theorem received_chunks (chunks : List (List UInt8)) :
    StreamCall.received (chunks.map .decode ++ [.finish]) = chunks.flatten := by
  induction chunks with
  | nil => rfl
  | cons bytes chunks ih => rw [List.map_cons, List.cons_append, StreamCall.received, ih, List.flatten_cons]

variable {δ : Type} [BufferedDecoder δ]

theorem whole_of_utf8 (standard : ByteMachine.ReadsUtf8 δ) {label : String} (named : Encoding.forLabel label = .utf8)
    (bytes : List UInt8) : whole δ label bytes true = utf8Lossy (Decoder.withoutMark bytes) := by
  rw [whole_eq, named, standard, utf8Lossy_eq, ← Decoder.text_start_utf8]

/-- Behind one mark, every maximal part of a broken character is replaced, wherever the stream is cut, and nothing of a
text that is whole. -/
theorem join_texts_of_utf8 (standard : ByteMachine.ReadsUtf8 δ) {label : String}
    (named : Encoding.ofLabel? (Text.trim label) = some .utf8 ∨ Encoding.ofLabel? (Text.trim label) = none)
    (chunks : List (List UInt8)) :
    let read := String.join ((ofLabel label : StreamDecoder δ).texts (chunks.map .decode ++ [.finish]))
    (∀ s, Utf8.Lossy (Decoder.withoutMark chunks.flatten) s.toList ↔ s = read) ∧
      read = utf8Lossy (Decoder.withoutMark chunks.flatten) ∧
      ∀ s : String, s.toList.head? ≠ some '\uFEFF' → chunks.flatten = utf8Bytes s → read = s := by
  intro read
  have one_shot : read = utf8Lossy (Decoder.withoutMark chunks.flatten) := by
    have joined := join_texts (s := (ofLabel label : StreamDecoder δ)) rfl (chunks.map .decode ++ [.finish])
    rw [received_chunks, decide_eq_true (List.mem_append_right _ List.mem_cons_self)] at joined
    rw [utf8Lossy_eq, ← Decoder.text_start_utf8, ← standard, ← Encoding.forLabel_eq_utf8 named]
    exact joined
  refine ⟨fun s => ?_, one_shot, fun s plain whole => ?_⟩
  · rw [Utf8.lossy_iff, one_shot, utf8Lossy_eq, ← String.toList_inj, String.toList_ofList]
  · rw [one_shot, whole, Decoder.withoutMark_utf8Bytes plain, utf8Lossy_utf8Bytes]

/-- A mark in two pieces, a cut character before a lead byte, a lead byte before a letter, a surrogate, an overlong form
and a character that the stream does not finish; and a text that is whole. -/
theorem join_texts_of_broken_characters :
    let broken : List (List UInt8) := [[0xEF], [0xBB, 0xBF, 0xE3], [], [0x81, 0xF0, 0x9F], [0x41, 0xED, 0xA0], [0xC0],
      [0x80, 0xE2, 0x82]]
    let whole : List (List UInt8) := [[0x61, 0xF0, 0x9F], [0x98], [0x80]]
    String.join ((ofLabel "no-such-charset" : StreamDecoder).texts (broken.map .decode ++ [.finish])) =
        "\uFFFD\uFFFDA\uFFFD\uFFFD\uFFFD\uFFFD\uFFFD" ∧
      String.join ((ofLabel "UTF8\n" : StreamDecoder).texts (whole.map .decode ++ [.finish])) = "a😀" := by
  intro broken whole
  have unknown : Encoding.ofLabel? (Text.trim "no-such-charset") = none := by decide +kernel
  have known : Encoding.ofLabel? (Text.trim "UTF8\n") = some .utf8 := by decide +kernel
  obtain ⟨-, read, -⟩ := @join_texts_of_utf8 Decoder _ (fun _ => rfl) _ (.inr unknown) broken
  obtain ⟨-, -, text⟩ := @join_texts_of_utf8 Decoder _ (fun _ => rfl) _ (.inl known) whole
  exact ⟨read.trans (by decide +kernel), text "a😀" (by decide +kernel) (by decide +kernel)⟩

end StreamDecoder

end ScriptRunner
