import ScriptRunner.Proofs.Marker.Boundary

namespace ScriptRunner

namespace Marker

theorem quoted?_newline {q : Char} (quote : Quote q) (s : List Char) : quoted? q ('\n' :: s) = none := by
  rcases quote with rfl | rfl <;> simp [quoted?, isBodyChar]

theorem boundary_newline (s t : List Char) : Boundary s ('\n' :: t) where
  edge := by simp [EdgeChar]
  unclosed _ _ quote := quoted?_newline quote t

theorem value?_newline (s : List Char) : value? ('\n' :: s) = some ([], '\n' :: s) := by
  simp [value?, isQuote, isBareChar, Text.isBlank]

theorem pairs_append_newline (s t : List Char) : pairs (s ++ '\n' :: t) = pairs s ++ pairs t := by
  rw [pairs_append (boundary_newline s t) (value?_newline t), pairs_cons fun _ colon => by cases colon]

theorem pairs_intercalate (lines : List (List Char)) : pairs (['\n'].intercalate lines) = lines.flatMap pairs := by
  induction lines with
  | nil => exact pairs_of_no_colons rfl
  | cons line lines ih =>
    cases lines with
    | nil => simp
    | cons next lines =>
      rw [List.intercalate_cons_cons, List.append_assoc, List.singleton_append, pairs_append_newline, ih]
      rfl

theorem pairs_eq_flatMap_lines (s : List Char) : pairs s = (s.splitOn '\n').flatMap pairs := by
  rw [← pairs_intercalate, List.intercalate_splitOn]

end Marker

open Marker (pairs)

/-- The outputs of two texts on lines of their own are those of the first with those of the second inserted: the names
of the first keep their places and the texts of the second count. The pairs of a text are those of its lines. -/
theorem Outputs.parse_append_newline (a b : String) :
    parse (a ++ "\n" ++ b) = (parse a).insertAll (parse b).entries ∧
    (parse (a ++ "\n" ++ b)).entries.map Prod.fst = (parse a).entries.map Prod.fst ++
      ((parse b).entries.map Prod.fst).filter (· ∉ (parse a).entries.map Prod.fst) ∧
    (∀ name, (parse (a ++ "\n" ++ b)).get? name = ((parse b).get? name).or ((parse a).get? name)) ∧
    pairs (a ++ "\n" ++ b).toList = pairs a.toList ++ pairs b.toList ∧
    ∀ text : String, pairs text.toList = (text.toList.splitOn '\n').flatMap pairs := by
  have joined : pairs (a ++ "\n" ++ b).toList = pairs a.toList ++ pairs b.toList := by
    rw [← Marker.pairs_append_newline]
    simp
  have merged : parse (a ++ "\n" ++ b) = (parse a).insertAll (parse b).entries := by
    simp only [parse, joined, List.map_append, Bindings.insertAll_ofPairs]
    exact Bindings.insertAll_append _ _ _
  refine ⟨merged, ?_, ?_, joined, fun text => Marker.pairs_eq_flatMap_lines text.toList⟩
  · rw [merged]
    exact Bindings.keys_insertAll (parse a) (parse b).nodup
  · intro name
    rw [merged]
    exact Bindings.get?_insertAll (parse a) (parse b).nodup name

end ScriptRunner
