import ScriptRunner.Encoding.DoubleByte
import ScriptRunner.Encoding.Machine
import ScriptRunner.Encoding.SingleByte

namespace ScriptRunner

def replacementChar : Char := '\uFFFD'

inductive Codec where
  /-- A UTF-8 sequence that waits for `need` more bytes, the next of them within `low` and `high`. -/
  | utf8 (need : Nat) (low high : UInt8) (value : Nat)
  | utf16 (bigEndian : Bool) (first : Option UInt8) (high : Option Nat)
  | single (e : Encoding)
  | double (e : Encoding) (lead : Option UInt8)
  | replacement (done : Bool)

namespace Codec

def utf8Start : Codec := .utf8 0 0x80 0xBF 0

def start : Encoding → Codec
  | .utf8 => utf8Start
  | .utf16le => .utf16 false none none
  | .utf16be => .utf16 true none none
  | .replacement => .replacement false
  | .big5 => .double .big5 none
  | .eucJp => .double .eucJp none
  | .eucKr => .double .eucKr none
  | .gbk => .double .gbk none
  | .gb18030 => .double .gb18030 none
  | .iso2022Jp => .double .iso2022Jp none
  | .shiftJis => .double .shiftJis none
  | e => .single e

def utf8First (b : UInt8) : List Char × Codec :=
  if b < 0x80 then ([Char.ofNat b.toNat], utf8Start)
  else if b < 0xC2 then ([replacementChar], utf8Start)
  else if b < 0xE0 then ([], .utf8 1 0x80 0xBF (b.toNat - 0xC0))
  else if b < 0xF0 then
    ([], .utf8 2 (if b = 0xE0 then 0xA0 else 0x80) (if b = 0xED then 0x9F else 0xBF) (b.toNat - 0xE0))
  else if b < 0xF5 then
    ([], .utf8 3 (if b = 0xF0 then 0x90 else 0x80) (if b = 0xF4 then 0x8F else 0xBF) (b.toNat - 0xF0))
  else ([replacementChar], utf8Start)

def isHighSurrogate (u : Nat) : Bool := 0xD800 ≤ u && u < 0xDC00

def isLowSurrogate (u : Nat) : Bool := 0xDC00 ≤ u && u < 0xE000

/-- A code unit of UTF-16 after the high surrogate `high`, and the surrogate that it leaves open. -/
def utf16Unit (high : Option Nat) (u : Nat) : List Char × Option Nat :=
  match high with
  | some h =>
    if isLowSurrogate u then ([Char.ofNat (0x10000 + (h - 0xD800) * 0x400 + (u - 0xDC00))], none)
    else if isHighSurrogate u then ([replacementChar], some u)
    else ([replacementChar, Char.ofNat u], none)
  | none =>
    if isHighSurrogate u then ([], some u)
    else if isLowSurrogate u then ([replacementChar], none)
    else ([Char.ofNat u], none)

def singleChar (e : Encoding) (b : UInt8) : Char :=
  if b < 0x80 then Char.ofNat b.toNat
  else
    match e.upperHalf with
    | some table => Char.ofNat (table.getD (b.toNat - 0x80) 0xFFFD)
    | none => replacementChar

def step : Codec → UInt8 → List Char × Codec
  | .utf8 0 _ _ _, b => utf8First b
  | .utf8 (n + 1) low high value, b =>
    if low ≤ b && b ≤ high then
      let value := value * 64 + (b.toNat - 0x80)
      match n with
      | 0 => ([Char.ofNat value], utf8Start)
      | n => ([], .utf8 n 0x80 0xBF value)
    else
      let (text, c) := utf8First b
      (replacementChar :: text, c)
  | .utf16 bigEndian none high, b => ([], .utf16 bigEndian (some b) high)
  | .utf16 bigEndian (some a) high, b =>
    let u := if bigEndian then a.toNat * 256 + b.toNat else b.toNat * 256 + a.toNat
    let (text, high) := utf16Unit high u
    (text, .utf16 bigEndian none high)
  | .single e, b => ([singleChar e b], .single e)
  | .double e none, b =>
    if b < 0x80 then ([Char.ofNat b.toNat], .double e none)
    else
      match e.upperAlone? b with
      | some c => ([c], .double e none)
      | none => if e.isLead b then ([], .double e (some b)) else ([replacementChar], .double e none)
  | .double e (some a), b =>
    match e.ofPair? a b with
    | some c => ([c], .double e none)
    | none =>
      (if b < 0x80 then [replacementChar, Char.ofNat b.toNat] else [replacementChar], .double e none)
  | .replacement done, _ => (if done then [] else [replacementChar], .replacement true)

def pending : Codec → Bool
  | .utf8 need _ _ _ => need != 0
  | .utf16 _ first high => first.isSome || high.isSome
  | .double _ lead => lead.isSome
  | .single _ | .replacement _ => false

/-- The end of the stream. An unfinished character gives one replacement character. -/
def finish (c : Codec) : List Char := if c.pending then [replacementChar] else []

def run (c : Codec) : List UInt8 → List Char × Codec
  | [] => ([], c)
  | b :: bs =>
    let (text, c) := c.step b
    let (rest, c) := run c bs
    (text ++ rest, c)

theorem run_append (c : Codec) (xs ys : List UInt8) :
    c.run (xs ++ ys) = ((c.run xs).1 ++ ((c.run xs).2.run ys).1, ((c.run xs).2.run ys).2) := by
  induction xs generalizing c with
  | nil => simp [run]
  | cons b xs ih => simp [run, ih, List.append_assoc]

end Codec

def Encoding.byteOrderMark : Encoding → List UInt8
  | .utf8 => [0xEF, 0xBB, 0xBF]
  | .utf16le => [0xFF, 0xFE]
  | .utf16be => [0xFE, 0xFF]
  | _ => []

/-- A decoder: at the start of the stream, with what was seen of the mark and what is still missing of it, or
behind the start. -/
inductive Decoder where
  | opening (e : Encoding) (seen missing : List UInt8)
  | body (c : Codec)

namespace Decoder

def start (e : Encoding) : Decoder :=
  match e.byteOrderMark with
  | [] => .body (.start e)
  | mark => .opening e [] mark

def step : Decoder → UInt8 → List Char × Decoder
  | .opening e seen (m :: missing), b =>
    if b = m then
      match missing with
      | [] => ([], .body (.start e))
      | _ => ([], .opening e (seen ++ [b]) missing)
    else
      let (text, c) := (Codec.start e).run (seen ++ [b])
      (text, .body c)
  | .opening e _ [], b =>
    let (text, c) := (Codec.start e).step b
    (text, .body c)
  | .body c, b =>
    let (text, c) := c.step b
    (text, .body c)

def finish : Decoder → List Char
  | .opening e seen _ =>
    let (text, c) := (Codec.start e).run seen
    text ++ c.finish
  | .body c => c.finish

instance : ByteMachine Decoder := ⟨start, step, finish⟩

def utf8Size (text : List Char) : Nat := text.foldl (fun size c => size + c.utf8Size) 0

def fill (last : Bool) (d : Decoder) (room : Nat) : List UInt8 → Portion Decoder
  | [] => ⟨if last then d.finish else [], [], d, false⟩
  | b :: bytes =>
    if room < leastRoom then ⟨[], b :: bytes, d, true⟩
    else
      let (text, next) := d.step b
      let p := fill last next (room - utf8Size text) bytes
      { p with text := text ++ p.text }

theorem fill_rest_suffix (last : Bool) (d : Decoder) (room : Nat) (bytes : List UInt8) :
    (fill last d room bytes).rest <:+ bytes := by
  induction bytes generalizing d room with
  | nil => simp [fill]
  | cons b bytes ih =>
    unfold fill
    split
    · exact List.suffix_refl _
    · exact (ih _ _).trans (List.suffix_cons _ _)

theorem fill_of_full (last : Bool) (d : Decoder) (room : Nat) (bytes : List UInt8)
    (full : (fill last d room bytes).full = true) :
    (fill last d room bytes).text ++
      ByteMachine.text (fill last d room bytes).decoder (fill last d room bytes).rest last =
    ByteMachine.text d bytes last := by
  induction bytes generalizing d room with
  | nil => simp [fill] at full
  | cons b bytes ih =>
    rw [ByteMachine.text_cons]
    unfold fill at full ⊢
    split
    · exact ByteMachine.text_cons d b bytes last
    · next enough =>
      rw [if_neg enough] at full
      simp only [List.append_assoc, ih _ _ full]
      rfl

theorem fill_of_done (last : Bool) (d : Decoder) (room : Nat) (bytes : List UInt8)
    (done : (fill last d room bytes).full = false) :
    (fill last d room bytes).rest = [] ∧ (fill last d room bytes).text = ByteMachine.text d bytes last := by
  induction bytes generalizing d room with
  | nil => exact ⟨rfl, rfl⟩
  | cons b bytes ih =>
    rw [ByteMachine.text_cons]
    unfold fill at done ⊢
    split
    · next short => simp [short] at done
    · next enough =>
      rw [if_neg enough] at done
      have tail := ih _ _ done
      exact ⟨tail.1, congrArg _ tail.2⟩

theorem fill_run_rest (d : Decoder) (room : Nat) (bytes : List UInt8) :
    (ByteMachine.run (fill false d room bytes).decoder (fill false d room bytes).rest).2 =
      (ByteMachine.run d bytes).2 := by
  induction bytes generalizing d room with
  | nil => rfl
  | cons b bytes ih =>
    unfold fill
    split
    · rfl
    · exact ih _ _

theorem fill_progress (last : Bool) (d : Decoder) (room : Nat) (bytes : List UInt8) (enough : leastRoom ≤ room)
    (full : (fill last d room bytes).full = true) :
    (fill last d room bytes).rest ≠ bytes ∨ (fill last d room bytes).text ≠ [] := by
  left
  cases bytes with
  | nil => simp [fill] at full
  | cons b bytes =>
    intro same
    have suffix := fill_rest_suffix last (d.step b).2 (room - utf8Size (d.step b).1) bytes
    have shorter := suffix.length_le
    unfold fill at same
    rw [if_neg (Nat.not_lt.2 enough)] at same
    have lengths := congrArg List.length same
    simp only [List.length_cons] at lengths
    omega

instance : BufferedDecoder Decoder where
  roomFor _ count := some (3 * count + 3)
  call d bytes last room := fill last d room bytes
  rest_suffix d bytes last room := fill_rest_suffix last d room bytes
  text_of_full d bytes last room := fill_of_full last d room bytes
  text_of_done d bytes last room := fill_of_done last d room bytes
  run_rest d bytes room := fill_run_rest d room bytes
  progress d bytes last room := fill_progress last d room bytes

end Decoder

/-- The lossy reading of bytes that should be UTF-8, byte order mark included. -/
def utf8Lossy (bytes : List UInt8) : String :=
  let (text, c) := Codec.utf8Start.run bytes
  String.ofList (text ++ c.finish)

def utf8Bytes (s : String) : List UInt8 := s.toUTF8.toList

def utf8Strict? (bytes : List UInt8) : Option String := String.fromUTF8? (ByteArray.mk bytes.toArray)

end ScriptRunner
