import ScriptRunner.Encoding.StreamDecoder

namespace ScriptRunner

open ByteMachine (text run)

inductive StreamCall where
  | decode (bytes : List UInt8)
  | finish
  deriving DecidableEq

namespace StreamCall

def received : List StreamCall → List UInt8
  | .decode bytes :: calls => bytes ++ received calls
  | [] | .finish :: _ => []

end StreamCall

namespace StreamDecoder

open StreamCall (received)

variable {δ : Type} [BufferedDecoder δ]

def apply (s : StreamDecoder δ) : StreamCall → String × StreamDecoder δ
  | .decode bytes => s.decode bytes
  | .finish => s.finish

def texts (s : StreamDecoder δ) : List StreamCall → List String
  | [] => []
  | c :: calls => (s.apply c).1 :: texts (s.apply c).2 calls

/-- What a fresh decoder returns for one chunk, and for the end of the stream if it is `closed` then. -/
def whole (δ : Type) [BufferedDecoder δ] (label : String) (bytes : List UInt8) (closed : Bool) : String :=
  let first := (ofLabel label : StreamDecoder δ).decode bytes
  if closed then first.1 ++ first.2.finish.1 else first.1

theorem whole_eq (label : String) (bytes : List UInt8) (closed : Bool) :
    whole δ label bytes closed = String.ofList (text (ByteMachine.start (.forLabel label) : δ) bytes closed) := by
  have fresh : (ofLabel label : StreamDecoder δ).finished = false := rfl
  have opened : ((ofLabel label : StreamDecoder δ).decode bytes).2.finished = false := push_finished fresh _ _
  have tail := finish_text opened
  rw [decode_decoder fresh] at tail
  cases closed with
  | false => simpa [whole, text, ofLabel] using decode_text fresh bytes
  | true =>
    simp only [whole, if_true, decode_text fresh, tail, ← String.ofList_append]
    rfl

theorem texts_append (s : StreamDecoder δ) (calls more : List StreamCall) :
    ∃ t : StreamDecoder δ, s.texts (calls ++ more) = s.texts calls ++ t.texts more := by
  induction calls generalizing s with
  | nil => exact ⟨s, rfl⟩
  | cons c calls ih =>
    obtain ⟨t, ht⟩ := ih (s.apply c).2
    exact ⟨t, by simp [texts, ht]⟩

theorem texts_of_finished {s : StreamDecoder δ} (h : s.finished = true) (calls : List StreamCall) :
    s.texts calls = List.replicate calls.length "" := by
  induction calls with
  | nil => rfl
  | cons c calls ih =>
    have silent : s.apply c = ("", s) := by cases c <;> exact push_of_finished h _ _
    simp only [texts, silent, ih, List.length_cons, List.replicate_succ]

theorem texts_behind_finish (s : StreamDecoder δ) (before after : List StreamCall) :
    (s.texts (before ++ .finish :: after)).drop (before.length + 1) = List.replicate after.length "" := by
  induction before generalizing s with
  | nil => exact texts_of_finished (finish_finished s) after
  | cons c before ih => simpa [texts] using ih (s.apply c).2

theorem join_silence (n : Nat) : String.join (List.replicate n "") = "" := by
  induction n with
  | zero => simp
  | succ n ih => simp [List.replicate_succ, ih]

theorem join_texts {s : StreamDecoder δ} (h : s.finished = false) (calls : List StreamCall) :
    String.join (s.texts calls) = String.ofList (text s.decoder (received calls) (.finish ∈ calls)) := by
  induction calls generalizing s with
  | nil => simp [texts, received, text, run]
  | cons c calls ih =>
    cases c with
    | decode bytes =>
      have tail := ih (push_finished h bytes false)
      rw [← decode, decode_decoder h] at tail
      simp [texts, apply, received, decode_text h, tail, ByteMachine.text_append]
    | finish =>
      have rest := texts_of_finished (finish_finished s) calls
      simp [texts, apply, received, finish_text h, rest, join_silence, text, run]

/-- Whatever the cuts, the calls together return the text of the whole stream, and after the end nothing. At
any moment the text so far is the beginning of all that is to come. -/
theorem join_texts_eq_whole (δ : Type) [BufferedDecoder δ] (label : String) (calls : List StreamCall) :
    let s : StreamDecoder δ := ofLabel label
    String.join (s.texts calls) = whole δ label (received calls) (.finish ∈ calls) ∧
      (∀ before after, calls = before ++ .finish :: after →
        (s.texts calls).drop (before.length + 1) = List.replicate after.length "") ∧
      ∀ more, (String.join (s.texts calls)).toList <+: (String.join (s.texts (calls ++ more))).toList ∧
        (String.join (s.texts (calls ++ more))).toList <+: (whole δ label (received (calls ++ more)) true).toList := by
  intro s
  have fresh : s.finished = false := rfl
  refine ⟨?_, ?_, ?_⟩
  · rw [whole_eq, join_texts fresh]
    rfl
  · rintro before after rfl
    exact texts_behind_finish s before after
  · intro more
    constructor
    · obtain ⟨t, ht⟩ := texts_append s calls more
      rw [ht, String.join_append, String.toList_append]
      exact List.prefix_append _ _
    · rw [whole_eq, join_texts fresh, String.toList_ofList, String.toList_ofList]
      change text s.decoder _ _ <+: text s.decoder _ _
      unfold text
      split
      · exact List.prefix_refl _
      · rw [List.append_nil]
        exact List.prefix_append _ _

example : (ofLabel "utf-8" : StreamDecoder).texts
    [.decode [0xEF, 0xBB], .decode [0xBF, 0xE3], .decode [], .decode [0x81, 0x82, 0xE3], .finish, .finish] =
    ["", "", "", "あ", "\uFFFD", ""] := by cbv

end StreamDecoder

end ScriptRunner
