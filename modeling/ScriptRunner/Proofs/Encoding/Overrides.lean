import ScriptRunner.Config
import ScriptRunner.Proofs.Bindings

namespace ScriptRunner

namespace Overrides

/-- A package applies to a command that its name, if it has one, stands in. -/
def Applies (command package : String) : Prop := package ≠ "" ∧ package.toList <:+: command.toList

/-- Of the packages that apply to a command this one was inserted first. -/
def Earliest (history : List (String × String)) (command package : String) : Prop :=
  Applies command package ∧ ∃ before label after, history = before ++ (package, label) :: after ∧
    ∀ e ∈ before, ¬ Applies command e.1

/-- The label that was inserted last for a package. -/
def Latest (history : List (String × String)) (package label : String) : Prop :=
  ∃ before after, history = before ++ (package, label) :: after ∧ ∀ e ∈ after, e.1 ≠ package

theorem occurs_iff {needle s : List Char} : Text.occurs needle s = true ↔ needle <:+: s := by
  induction s with
  | nil => simp [Text.occurs]
  | cons c s ih => simp [Text.occurs, ih, List.infix_cons_iff]

theorem mentions_iff {command package : String} : mentions command package = true ↔ Applies command package := by
  simp [mentions, Applies, occurs_iff]

theorem not_mentions_iff {command package : String} :
    (!mentions command package) = true ↔ ¬ Applies command package := by
  rw [← mentions_iff]
  simp

theorem earliest_iff {history : List (String × String)} {command package : String} :
    (history.map Prod.fst).find? (mentions command) = some package ↔ Earliest history command package := by
  rw [List.find?_eq_some_iff_append, mentions_iff, Earliest]
  constructor
  · rintro ⟨applies, names, more, split, passed⟩
    obtain ⟨before, rest, rfl, rfl, named⟩ := List.map_eq_append_iff.1 split
    obtain ⟨e, after, rfl, rfl, -⟩ := List.map_eq_cons_iff.1 named
    refine ⟨applies, before, e.2, after, rfl, fun e member => ?_⟩
    exact not_mentions_iff.1 (passed e.1 (List.mem_map_of_mem member))
  · rintro ⟨applies, before, label, after, rfl, passed⟩
    refine ⟨applies, before.map Prod.fst, after.map Prod.fst, by simp, fun name member => ?_⟩
    obtain ⟨e, inside, rfl⟩ := List.mem_map.1 member
    exact not_mentions_iff.2 (passed e inside)

theorem latest_iff {history : List (String × String)} {package label : String} :
    history.reverse.lookup package = some label ↔ Latest history package label := by
  rw [List.lookup_eq_some_iff]
  constructor
  · rintro ⟨after, before, split, passed⟩
    refine ⟨before.reverse, after.reverse, ?_, fun e member same => ?_⟩
    · simpa using congrArg List.reverse split
    · have differs := passed e (List.mem_reverse.1 member)
      simp [same] at differs
  · rintro ⟨before, after, rfl, passed⟩
    refine ⟨after.reverse, before.reverse, by simp, fun e member => ?_⟩
    have differs := passed e (List.mem_reverse.1 member)
    simpa using fun same => differs same.symm

theorem lookup_eq (t : Overrides) (command : String) :
    t.lookup command = ((t.entries.map Prod.fst).find? (mentions command)).bind t.get? := by
  rw [lookup, Bindings.find?_entry]
  rfl

theorem lookup_eq_none_iff {t : Overrides} {command : String} :
    t.lookup command = none ↔ ∀ e ∈ t.entries, ¬ Applies command e.1 := by
  rw [lookup, Option.map_eq_none_iff, List.find?_eq_none]
  simp only [mentions_iff]

theorem lookup_ofPairs_eq_some_iff {history : List (String × String)} {command label : String} :
    lookup (.ofPairs history) command = some label ↔
      ∃ package, Earliest history command package ∧ Latest history package label := by
  rw [lookup_eq, Bindings.keys_ofPairs, Bindings.find?_eraseDups, Option.bind_eq_some_iff]
  simp only [earliest_iff, Bindings.get?_ofPairs, latest_iff]

theorem lookup_insert_empty (t : Overrides) (label command : String) :
    lookup (t.insert "" label) command = t.lookup command := by
  have nameless : ¬ mentions command "" = true := by simp [mentions]
  have names : ((t.insert "" label).entries.map Prod.fst).find? (mentions command) =
      (t.entries.map Prod.fst).find? (mentions command) := by
    simp only [Bindings.insert, Bindings.keys_put]
    split
    · rfl
    · simp [nameless]
  rw [lookup_eq, lookup_eq, names]
  cases found : (t.entries.map Prod.fst).find? (mentions command) with
  | none => rfl
  | some name =>
    have named : name ≠ "" := by
      rintro rfl
      exact nameless (List.find?_some found)
    rw [Option.bind_some, Option.bind_some, Bindings.get?_insert, if_neg named]

end Overrides

namespace Config

open Overrides (Applies mentions mentions_iff builtIn)

def knownPackage : String := "@azure/static-web-apps-cli"

variable (c : Config)

theorem keys_table : c.table.entries.map Prod.fst =
    knownPackage :: (c.overrides.entries.map Prod.fst).filter (· ≠ knownPackage) := by
  have known : builtIn.entries.map Prod.fst = [knownPackage] := rfl
  rw [table, Bindings.keys_insertAll _ c.overrides.nodup, known, List.singleton_append]
  congr 1
  apply List.filter_congr
  intro name _
  simp

theorem get?_table (name : String) :
    c.table.get? name = (c.overrides.get? name).or (if name = knownPackage then some "utf8" else none) := by
  rw [table, Bindings.get?_insertAll _ c.overrides.nodup]
  congr 1
  exact Bindings.lookup_pair name knownPackage "utf8" []

theorem lookup_table_of_applies {command : String} (applies : Applies command knownPackage) :
    c.table.lookup command = some ((c.overrides.get? knownPackage).getD "utf8") := by
  have first := mentions_iff.2 applies
  rw [Overrides.lookup_eq, keys_table, List.find?_cons_of_pos first, Option.bind_some, get?_table, if_pos rfl]
  cases c.overrides.get? knownPackage <;> rfl

theorem lookup_table_of_not_applies {command : String} (other : ¬ Applies command knownPackage) :
    c.table.lookup command = Overrides.lookup c.overrides command := by
  have passed := mt mentions_iff.1 other
  have names : ((c.overrides.entries.map Prod.fst).filter (· ≠ knownPackage)).find? (mentions command) =
      (c.overrides.entries.map Prod.fst).find? (mentions command) := by
    rw [List.find?_filter]
    congr 1
    funext name
    by_cases same : name = knownPackage
    · subst same
      simp [passed]
    · simp [same]
  rw [Overrides.lookup_eq, Overrides.lookup_eq, keys_table, List.find?_cons_of_neg passed, names]
  cases found : (c.overrides.entries.map Prod.fst).find? (mentions command) with
  | none => rfl
  | some name =>
    have differs : name ≠ knownPackage := by
      rintro rfl
      exact passed (List.find?_some found)
    rw [Option.bind_some, Option.bind_some, get?_table, if_neg differs, Option.or_none]

def listed : Toml.Value → List String
  | .table labels => labels.map Prod.fst
  | .datetime _ => ["$__toml_private_datetime"]
  | _ => []

def packages (doc : List (String × Toml.Value)) : List String :=
  ((doc.reverse.lookup "encoding_overrides").map listed).getD []

theorem of_map_ok {ε α β : Type} {x : Except ε α} {f : α → β} {b : β} (h : x.map f = .ok b) :
    ∃ a, x = .ok a ∧ f a = b := by
  cases x with
  | error e => cases h
  | ok a => exact ⟨a, rfl, Except.ok.inj h⟩

theorem of_bind_ok {ε α β : Type} {x : Except ε α} {f : α → Except ε β} {b : β} (h : x.bind f = .ok b) :
    ∃ a, x = .ok a ∧ f a = .ok b := by
  cases x with
  | error e => cases h
  | ok a => exact ⟨a, rfl, h⟩

theorem keys_of_readLabels {labels : List (String × Toml.Value)} {pairs : List (String × String)}
    (read : readLabels labels = .ok pairs) : pairs.map Prod.fst = labels.map Prod.fst := by
  fun_induction readLabels labels generalizing pairs with
  | case1 =>
    cases read
    rfl
  | case2 package label rest ih =>
    obtain ⟨later, more, rfl⟩ := of_map_ok read
    simp [ih more]
  | case3 => cases read

theorem keys_of_readOverrides {v : Toml.Value} {b : Bindings} (read : readOverrides v = .ok b) :
    b.entries.map Prod.fst = (listed v).eraseDups := by
  cases v with
  | table labels =>
    obtain ⟨pairs, found, rfl⟩ := of_map_ok read
    rw [Bindings.keys_ofPairs, keys_of_readLabels found, listed]
  | datetime text =>
    cases read
    rfl
  | _ => cases read

theorem lookup_reverse_cons (name key : String) (v : Toml.Value) (doc : List (String × Toml.Value)) :
    ((key, v) :: doc).reverse.lookup name = (doc.reverse.lookup name).or (if name = key then some v else none) := by
  rw [List.reverse_cons, List.lookup_append, Bindings.lookup_pair]
  rfl

/-- Of the packages in a document the last list counts. -/
theorem overrides_of_ofEntries {doc : List (String × Toml.Value)} {start c : Config}
    (read : ofEntries doc start = .ok c) :
    (doc.reverse.lookup "encoding_overrides" = none → c.overrides = start.overrides) ∧
      ∀ v, doc.reverse.lookup "encoding_overrides" = some v → readOverrides v = .ok c.overrides := by
  induction doc generalizing start with
  | nil =>
    cases read
    exact ⟨fun _ => rfl, nofun⟩
  | cons entry doc ih =>
    obtain ⟨key, v⟩ := entry
    rw [lookup_reverse_cons]
    rw [ofEntries] at read
    split at read
    · next limit =>
      obtain ⟨n, -, later⟩ := of_bind_ok read
      simpa [limit] using ih later
    split at read
    · next other labels =>
      subst labels
      obtain ⟨b, found, later⟩ := of_bind_ok read
      obtain ⟨kept, changed⟩ := ih later
      cases last : doc.reverse.lookup "encoding_overrides" with
      | none => simp [found, kept last]
      | some w => simp [changed w last]
    · cases read

theorem keys_of_parse {text : String} {c : Config} (read : parse text = .ok c) :
    ∃ doc, Toml.parse? text = some doc ∧ c.overrides.entries.map Prod.fst = (packages doc).eraseDups := by
  unfold parse at read
  split at read
  · cases read
  · next doc found =>
    refine ⟨doc, found, ?_⟩
    obtain ⟨kept, changed⟩ := overrides_of_ofEntries read
    cases last : doc.reverse.lookup "encoding_overrides" with
    | none => simp [packages, last, kept last, default, Bindings.empty]
    | some v => simpa [packages, last] using keys_of_readOverrides (changed v last)

end Config

open Overrides (Applies Earliest Latest)

/-- The label that a table gives is the last one for the package that, of all that the command mentions, was inserted
first; there is none if the command mentions no package of the table. In a configured table the known package comes first
and the others follow as the document lists them. -/
theorem Overrides.lookup_follows_history (t : Overrides) (inserts : List (String × String)) (c : Config)
    (command : String) :
    (∀ label, lookup (t.insertAll inserts) command = some label ↔
      ∃ package, Earliest (t.entries ++ inserts) command package ∧ Latest (t.entries ++ inserts) package label) ∧
    (lookup (t.insertAll inserts) command = none ↔
      ∀ e ∈ (t.insertAll inserts).entries, ¬ Applies command e.1) ∧
    (Applies command Config.knownPackage →
      c.table.lookup command = some ((c.overrides.get? Config.knownPackage).getD "utf8")) ∧
    (¬ Applies command Config.knownPackage → c.table.lookup command = lookup c.overrides command) ∧
    c.table.entries.map Prod.fst =
      Config.knownPackage :: (c.overrides.entries.map Prod.fst).filter (· ≠ Config.knownPackage) ∧
    (∀ text, Config.parse text = .ok c →
      ∃ doc, Toml.parse? text = some doc ∧ c.overrides.entries.map Prod.fst = (Config.packages doc).eraseDups) ∧
    ∀ label, lookup (t.insert "" label) command = t.lookup command := by
  refine ⟨fun label => ?_, lookup_eq_none_iff, c.lookup_table_of_applies, c.lookup_table_of_not_applies, c.keys_table,
    fun text => Config.keys_of_parse, fun label => lookup_insert_empty t label command⟩
  rw [Bindings.insertAll_eq_ofPairs]
  exact lookup_ofPairs_eq_some_iff

deriving instance DecidableEq for Config

/-- Packages inserted twice and without a name, and a document that redefines the known package behind another. -/
theorem Overrides.lookup_of_redefined_package :
    let inserts := [("b", "big5"), ("", "utf8"), ("a", "gbk"), ("b", "koi8-r")]
    let known := Config.knownPackage
    let text := "[encoding_overrides]\n'z' = 'gbk'\n'" ++ known ++ "' = 'big5'\n'' = 'utf-16le'\na = 'koi8-r'\n"
    let c : Config := ⟨none, .ofPairs [("z", "gbk"), (known, "big5"), ("", "utf-16le"), ("a", "koi8-r")]⟩
    lookup (builtIn.insertAll inserts) "a b" = some "koi8-r" ∧
    lookup (builtIn.insertAll inserts) "" = none ∧
    c.table.lookup ("z " ++ known) = some "big5" ∧ c.table.lookup "az" = lookup c.overrides "az" ∧
    c.table.entries.map Prod.fst = [known, "z", "", "a"] ∧
    (∃ doc, Toml.parse? text = some doc ∧ ["z", known, "", "a"] = (Config.packages doc).eraseDups) ∧
    lookup (builtIn.insert "" "gbk") "" = builtIn.lookup "" := by
  intro inserts known text c
  obtain ⟨twice, -, -⟩ := lookup_follows_history builtIn inserts c "a b"
  obtain ⟨-, none, -, -, -, -, nameless⟩ := lookup_follows_history builtIn inserts c ""
  obtain ⟨-, -, redefined, -⟩ := lookup_follows_history builtIn inserts c ("z " ++ known)
  obtain ⟨-, -, -, other, keys, listed, -⟩ := lookup_follows_history builtIn inserts c "az"
  have first : Earliest (builtIn.entries ++ inserts) "a b" "b" := by
    refine ⟨mentions_iff.1 (by decide), builtIn.entries, "big5", inserts.tail, rfl, fun e member => ?_⟩
    rw [List.mem_singleton.1 member, ← mentions_iff]
    decide
  have last : Latest (builtIn.entries ++ inserts) "b" "koi8-r" :=
    ⟨builtIn.entries ++ inserts.dropLast, [], rfl, nofun⟩
  have silent : ∀ e ∈ (builtIn.insertAll inserts).entries, ¬ mentions "" e.1 = true := by decide
  have given : (Config.parse text).toOption = some c := by decide +kernel
  have read : Config.parse text = .ok c := by
    cases parsed : Config.parse text with
    | error e =>
      rw [parsed] at given
      cases given
    | ok found =>
      rw [parsed] at given
      cases given
      rfl
  refine ⟨(twice _).2 ⟨"b", first, last⟩, none.2 fun e member => mt mentions_iff.2 (silent e member),
    redefined (mentions_iff.1 (by decide +kernel)), other (mt mentions_iff.2 (by decide +kernel)), keys,
    listed text read, nameless _⟩

end ScriptRunner
