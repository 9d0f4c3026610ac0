import ScriptRunner.Encoding.Resolve
import ScriptRunner.Proofs.Encoding.Overrides
import ScriptRunner.Proofs.Text.Decimal
import ScriptRunner.Proofs.Text.Trim
import ScriptRunner.SimulatedHost

namespace ScriptRunner

namespace CodePage

open Text (valueOf)

/-- A run of digits that goes on to neither side, with no digit behind it. -/
structure LastNumber (text digits : List Char) : Prop where
  filled : digits ≠ []
  all : ∀ c ∈ digits, c.isDigit = true
  last : ∃ before after, text = before ++ (digits ++ after) ∧ (∀ c ∈ before.getLast?, ¬ c.isDigit = true) ∧
    ∀ c ∈ after, ¬ c.isDigit = true

variable {text digits : List Char}

theorem LastNumber.lastDigits (h : LastNumber text digits) : lastDigits text = digits := by
  obtain ⟨before, after, rfl, starts, free⟩ := h.last
  have passed : (before ++ (digits ++ after)).reverse.dropWhile (!·.isDigit) = (before ++ digits).reverse := by
    refine Text.dropWhile_eq_iff.2 ⟨after.reverse, by simp, ?_, ?_⟩
    · intro c member
      simpa using free c (List.mem_reverse.1 member)
    · intro c first
      rw [List.head?_reverse, List.getLast?_append_of_ne_nil _ h.filled] at first
      simpa using h.all c (List.mem_of_mem_getLast? first)
  have taken : (before ++ digits).reverse.takeWhile Char.isDigit = digits.reverse := by
    refine ((Text.span_iff Char.isDigit _ _ before.reverse).2 ⟨List.reverse_append, ?_, ?_⟩).1
    · exact fun c member => h.all c (List.mem_reverse.1 member)
    · rwa [List.head?_reverse]
  rw [CodePage.lastDigits, passed, taken, List.reverse_reverse]

theorem lastDigits_eq_nil (none : ∀ c ∈ text, ¬ c.isDigit = true) : lastDigits text = [] := by
  have passed : text.reverse.dropWhile (!·.isDigit) = [] := by
    refine Text.dropWhile_eq_iff.2 ⟨text.reverse, (List.append_nil _).symm, ?_, nofun⟩
    intro c member
    simpa using none c (List.mem_reverse.1 member)
  rw [lastDigits, passed]
  rfl

theorem exists_lastNumber_iff : (∃ digits, LastNumber text digits) ↔ ∃ c ∈ text, c.isDigit = true := by
  constructor
  · rintro ⟨digits, filled, all, before, after, rfl, -⟩
    obtain ⟨c, member⟩ := List.exists_mem_of_ne_nil digits filled
    exact ⟨c, by simp [member], all c member⟩
  intro some
  obtain ⟨after, split, free, ends⟩ := Text.dropWhile_eq_iff.1 (rfl : text.reverse.dropWhile (!·.isDigit) = _)
  obtain ⟨whole, inside, starts⟩ :=
    (Text.span_iff Char.isDigit (text.reverse.dropWhile (!·.isDigit)) _ _).1 ⟨rfl, rfl⟩
  generalize (text.reverse.dropWhile (!·.isDigit)).takeWhile Char.isDigit = digits at *
  generalize (text.reverse.dropWhile (!·.isDigit)).dropWhile Char.isDigit = before at *
  rw [whole] at split ends
  have shape : text = before.reverse ++ (digits.reverse ++ after.reverse) := by
    simpa using congrArg List.reverse split
  refine ⟨digits.reverse, ?_, ?_, before.reverse, after.reverse, shape, ?_, ?_⟩
  · intro empty
    rw [List.reverse_eq_nil_iff] at empty
    subst empty
    -- Then what is left of the text starts both with a digit and with none, so that nothing is left.
    cases before with
    | nil =>
      obtain ⟨c, member, digit⟩ := some
      have passed := free c (by simpa [shape] using member)
      simp [digit] at passed
    | cons c before => exact starts c rfl (by simpa using ends c rfl)
  · exact fun c member => inside c (List.mem_reverse.1 member)
  · rwa [List.getLast?_reverse]
  · intro c member
    simpa using free c (List.mem_reverse.1 member)

theorem parse?_of_lastNumber {answer : String} (h : LastNumber answer.toList digits) :
    parse? answer = if valueOf digits < 2 ^ 32 then some (valueOf digits) else none := by
  rw [parse?, h.lastDigits]
  split
  · next small => exact Text.decimalBelow?_eq_some_iff.2 ⟨h.filled, h.all, rfl, small⟩
  · next great =>
    rw [Option.eq_none_iff_forall_ne_some]
    intro n read
    obtain ⟨-, -, rfl, small⟩ := Text.decimalBelow?_eq_some_iff.1 read
    exact great small

theorem parse?_of_no_digit {answer : String} (none : ∀ c ∈ answer.toList, ¬ c.isDigit = true) :
    parse? answer = .none := by
  rw [parse?, lastDigits_eq_nil none]
  rfl

theorem label?_of_mem {n : Nat} {name : String} (listed : (n, name) ∈ labels) : label? n = some name := by
  have found : ∀ e ∈ labels, label? e.1 = some e.2 := by decide
  exact found (n, name) listed

theorem mem_of_label? {n : Nat} {name : String} (found : label? n = some name) : (n, name) ∈ labels := by
  obtain ⟨before, after, split, -⟩ := List.lookup_eq_some_iff.1 found
  rw [split]
  simp

theorem lt_of_mem {n : Nat} {name : String} (listed : (n, name) ∈ labels) : n < 2 ^ 32 := by
  have small : ∀ e ∈ labels, e.1 < 2 ^ 32 := by decide
  exact small (n, name) listed

theorem known_of_mem {n : Nat} {name : String} (listed : (n, name) ∈ labels) :
    (Encoding.ofLabel? name).isSome = true := by
  have known : ∀ e ∈ labels, (Encoding.ofLabel? e.2).isSome = true := by decide +kernel
  exact known (n, name) listed

end CodePage

namespace Encoding

open CodePage (LastNumber label? parse?)
open Text (valueOf)

variable {σ : Type} {h : Host σ} {t : Overrides} {command : String}

def codePageLabel (reply : Except QueryError String) : String :=
  (ofAnswer? (fun answer => parse? answer >>= label?) reply).getD fallbackLabel

theorem answer_resolve_of_windows (windows : h.platform = .windows)
    (free : ∀ e ∈ t.entries, ¬ Overrides.Applies command e.1) (s : σ) : h.answer (resolve h.platform t command) s =
      (codePageLabel (h.query "cmd" ["/d", "/c", "chcp"] s).1, [.query "cmd" ["/d", "/c", "chcp"]],
        (h.query "cmd" ["/d", "/c", "chcp"] s).2) := by
  simp only [resolve, Overrides.lookup_eq_none_iff.2 free, windows]
  rfl

theorem codePageLabel_of_parse? {answer : String} {n : Nat} {name : String} (read : parse? answer = some n)
    (listed : (n, name) ∈ CodePage.labels) : codePageLabel (.ok answer) = name := by
  simp [codePageLabel, ofAnswer?, read, CodePage.label?_of_mem listed]

theorem codePageLabel_of_unlisted {answer : String}
    (unlisted : ∀ n, parse? answer = some n → ∀ name, (n, name) ∉ CodePage.labels) :
    codePageLabel (.ok answer) = "utf-8" := by
  have unread : parse? answer >>= label? = none := by
    cases read : parse? answer with
    | none => rfl
    | some n =>
      rw [Option.bind_eq_bind, Option.bind_some, Option.eq_none_iff_forall_ne_some]
      exact fun name found => unlisted n read name (CodePage.mem_of_label? found)
  simp only [codePageLabel, ofAnswer?, unread]
  rfl

theorem codePageLabel_known (reply : Except QueryError String) : (ofLabel? (codePageLabel reply)).isSome = true := by
  have fallback : (ofLabel? "utf-8").isSome = true := by decide +kernel
  cases reply with
  | error e => exact fallback
  | ok answer =>
    by_cases listed : ∃ n name, parse? answer = some n ∧ (n, name) ∈ CodePage.labels
    · obtain ⟨n, name, read, inside⟩ := listed
      rw [codePageLabel_of_parse? read inside]
      exact CodePage.known_of_mem inside
    · rw [codePageLabel_of_unlisted fun n read name inside => listed ⟨n, name, read, inside⟩]
      exact fallback

theorem codePageLabel_of_lastNumber {answer : String} {digits : List Char} (last : LastNumber answer.toList digits) :
    (∀ name, (valueOf digits, name) ∈ CodePage.labels → codePageLabel (.ok answer) = name) ∧
    ((∀ name, (valueOf digits, name) ∉ CodePage.labels) → codePageLabel (.ok answer) = "utf-8") := by
  have read := CodePage.parse?_of_lastNumber last
  constructor
  · intro name listed
    rw [if_pos (CodePage.lt_of_mem listed)] at read
    exact codePageLabel_of_parse? read listed
  · intro unlisted
    refine codePageLabel_of_unlisted fun n found => ?_
    rw [read] at found
    split at found
    · cases found
      exact unlisted
    · cases found

theorem codePageLabel_of_no_digit {answer : String} (silent : ∀ c ∈ answer.toList, ¬ c.isDigit = true) :
    codePageLabel (.ok answer) = "utf-8" := by
  refine codePageLabel_of_unlisted fun n found => ?_
  rw [CodePage.parse?_of_no_digit silent] at found
  cases found

/-- On a host with code pages the last number of the answer decides, if no override does. It is read as it stands, with
any zeros in front, unless it takes more than 32 bits. Its label is that of the table; without one, and without a number
or an answer at all, the fallback is left. -/
theorem resolve_reads_last_number (windows : h.platform = .windows)
    (free : ∀ e ∈ t.entries, ¬ Overrides.Applies command e.1) (s : σ) :
    let reply := (h.query "cmd" ["/d", "/c", "chcp"] s).1
    let label := (h.answer (resolve h.platform t command) s).1
    (∀ answer, reply = .ok answer →
      (∀ digits, LastNumber answer.toList digits →
        parse? answer = (if valueOf digits < 2 ^ 32 then some (valueOf digits) else none) ∧
        (∀ name, (valueOf digits, name) ∈ CodePage.labels → label = name) ∧
        ((∀ name, (valueOf digits, name) ∉ CodePage.labels) → label = "utf-8")) ∧
      (∀ zeros n, LastNumber answer.toList (List.replicate zeros '0' ++ Nat.toDigits 10 n) →
        parse? answer = if n < 2 ^ 32 then some n else none) ∧
      ((∀ c ∈ answer.toList, ¬ c.isDigit = true) → parse? answer = none ∧ label = "utf-8") ∧
      ((∃ digits, LastNumber answer.toList digits) ↔ ∃ c ∈ answer.toList, c.isDigit = true)) ∧
    (∀ e, reply = .error e → label = "utf-8") ∧
    (ofLabel? label).isSome = true := by
  intro reply label
  have told : label = codePageLabel reply := congrArg Prod.fst (answer_resolve_of_windows windows free s)
  rw [told]
  refine ⟨fun answer given => ⟨?_, ?_, ?_, CodePage.exists_lastNumber_iff⟩, ?_, codePageLabel_known reply⟩
  · intro digits last
    rw [given]
    exact ⟨CodePage.parse?_of_lastNumber last, codePageLabel_of_lastNumber last⟩
  · intro zeros n last
    have usual : valueOf (Nat.toDigits 10 n) = n := by rw [← Text.decimal_eq_valueOf, Text.decimal_toDigits]
    rw [CodePage.parse?_of_lastNumber last, Text.valueOf_zeros_append, usual]
  · intro silent
    rw [given]
    exact ⟨CodePage.parse?_of_no_digit silent, codePageLabel_of_no_digit silent⟩
  · intro e failed
    rw [failed]
    rfl

/-- An answer with a number before the code page and digits of another script behind it, and one whose last number would
be a known code page if it were cut to 32 bits. -/
theorem resolve_of_localized_answer :
    let host (answer : String) : Host Unit := (⟨.windows, [], [], [("cmd", .ok answer)]⟩ : SimulatedHost).host
    let localized := "Seite 2 von 3: 00932 (\u0669\u0663\u0666)."
    let wide := "936 4294968232"
    let t : Overrides := .ofPairs [("npm", "gbk"), ("", "big5")]
    (∀ e ∈ t.entries, ¬ Overrides.Applies "dir" e.1) ∧
    (LastNumber localized.toList "00932".toList ∧ parse? localized = some 932 ∧
      ((host localized).answer (resolve .windows t "dir") ()).1 = "shift_jis") ∧
    LastNumber wide.toList "4294968232".toList ∧ parse? wide = none ∧
      ((host wide).answer (resolve .windows t "dir") ()).1 = "utf-8" := by
  intro host localized wide t
  have free : ∀ e ∈ t.entries, ¬ Overrides.Applies "dir" e.1 := Overrides.lookup_eq_none_iff.1 (by decide)
  have last : LastNumber localized.toList "00932".toList :=
    ⟨by decide, List.all_eq_true.1 (by decide), "Seite 2 von 3: ".toList, " (\u0669\u0663\u0666).".toList, by decide,
      by rintro _ ⟨⟩; decide, by simp [Char.isDigit]⟩
  have last' : LastNumber wide.toList "4294968232".toList :=
    ⟨by decide, List.all_eq_true.1 (by decide), "936 ".toList, [], by decide, by rintro _ ⟨⟩; decide, nofun⟩
  have value : valueOf "00932".toList = 932 := by decide
  have value' : valueOf "4294968232".toList = 4294968232 := by decide
  obtain ⟨answered, -, -⟩ := resolve_reads_last_number (h := host localized) rfl free ()
  obtain ⟨read, listed, -⟩ := (answered localized rfl).1 _ last
  obtain ⟨answered', -, -⟩ := resolve_reads_last_number (h := host wide) rfl free ()
  obtain ⟨read', -, unlisted⟩ := (answered' wide rfl).1 _ last'
  rw [value] at read listed
  rw [value'] at read' unlisted
  refine ⟨free, ⟨last, read, listed _ (by decide)⟩, last', read', unlisted fun name inside => ?_⟩
  exact absurd (CodePage.lt_of_mem inside) (by decide)

end Encoding

end ScriptRunner
