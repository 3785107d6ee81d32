import ApiBindings.Document.Value

/-!
# Settings

Settings are given under names.  A name that begins with an underscore may be the one of an option,
which says where else or how settings are looked for and is no setting itself.
-/

namespace ApiBindings

/-- whether all keys at the top are texts -/
def Value.KeysNamed (v : Value) : Prop :=
  ∀ fields, v = .map fields → ∀ entry ∈ fields, ∃ key, entry.1 = .string key

/-- whether all keys at the top are texts that do not begin with an underscore -/
def Value.KeysPlain (v : Value) : Prop :=
  ∀ fields, v = .map fields → ∀ entry ∈ fields,
    ∃ key, entry.1 = .string key ∧ key.toList.head? ≠ some '_'

namespace Settings

def optionNames : List String :=
  ["_case_sensitive", "_nested_model_default_partial_update", "_env_prefix", "_env_file",
    "_env_file_encoding", "_env_ignore_empty", "_env_nested_delimiter", "_env_nested_max_split",
    "_env_parse_none_str", "_env_parse_enums", "_cli_prog_name", "_cli_parse_args",
    "_cli_settings_source", "_cli_parse_none_str", "_cli_hide_none_type", "_cli_avoid_json",
    "_cli_enforce_required", "_cli_use_class_docs_for_groups", "_cli_exit_on_error",
    "_cli_prefix", "_cli_flag_prefix_char", "_cli_implicit_flags", "_cli_ignore_unknown_args",
    "_cli_kebab_case", "_cli_shortcuts", "_secrets_dir"]

/-- The name that the settings as a whole go by, under which nothing can be given. -/
def receiverName : String := "__pydantic_self__"

def isAnyText : Value → Bool
  | .text _ => true
  | _ => false

def isTextOrNull : Value → Bool
  | .null => true
  | v => isAnyText v

/-- one path, several, or none -/
def isPaths : Value → Bool
  | .list items => items.all isAnyText
  | v => isTextOrNull v

/-- whether an option can be used: one that is joined with names is a text, and one that leads
somewhere is made of paths -/
def isUsable (key : String) (v : Value) : Bool :=
  if key = "_env_prefix" then isTextOrNull v
  else if key = "_env_file" ∨ key = "_secrets_dir" then isPaths v
  else true

inductive Use where
  | setting
  | option
  | misuse
deriving DecidableEq

/-- what an entry is used for -/
def use (entry : Atom × Value) : Use :=
  match entry.1 with
  | .string key =>
    if key.toList.head? ≠ some '_' then .setting
    else if key = receiverName then .misuse
    else if optionNames.contains key then
      if isUsable key entry.2 then .option else .misuse
    else .setting
  | _ => .misuse

/-- The settings in a value, unless there is an entry that cannot be used.  What an option leads to
is not looked at. -/
def gathered? : Value → Option Value
  | .map fields =>
    if fields.all fun entry => use entry != .misuse then
      some (.map (fields.filter fun entry => use entry == .setting))
    else none
  | v => some v

theorem gathered?_plain {v : Value} (h : v.KeysPlain) : gathered? v = some v := by
  cases v with
  | map fields =>
    have huse : ∀ entry ∈ fields, use entry = .setting := by
      intro entry hentry
      obtain ⟨key, hkey, hplain⟩ := h fields rfl entry hentry
      rw [use, hkey]
      exact if_pos hplain
    have hall : (fields.all fun entry => use entry != .misuse) = true :=
      List.all_eq_true.mpr fun entry hentry => by rw [huse entry hentry]; rfl
    have hsettings : (fields.filter fun entry => use entry == .setting) = fields :=
      List.filter_eq_self.mpr fun entry hentry => by rw [huse entry hentry]; rfl
    rw [gathered?, hall, if_pos rfl, hsettings]
  | _ => rfl

theorem gathered?_unnamed {v : Value} (h : ¬ v.KeysNamed) : gathered? v = none := by
  cases v with
  | map fields =>
    rw [gathered?]
    refine if_neg fun hall => h fun fields' heq entry hentry => ?_
    cases heq
    have hused := List.all_eq_true.mp hall entry hentry
    obtain ⟨key, value⟩ := entry
    cases key with
    | string key => exact ⟨key, rfl⟩
    | _ => cases hused
  | _ => exact absurd (fun _ heq => nomatch heq) h

end Settings

end ApiBindings
