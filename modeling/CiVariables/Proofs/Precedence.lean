import CiVariables.Proofs.Environment
import CiVariables.Proofs.Projects

/-!
# Where settings come from

A setting is given by the declaration file, else by the process under its exact name, else by the
`.env` file (`Sources.Gives`); null and a name that stands alone give nothing, while false, zero and
an empty text do. Only where nothing gives it is it looked up in the process once more, under its
name in any letter case, before the default is taken (`Sources.Takes`).

A setting takes one value at most (`Sources.Takes.unique`), and it is the one that a loaded file has
(`Config.settings_from_sources`).
-/

namespace CiVariables

open Schema (Checked Value Entries)

/-! ## Sources -/

/-- Where settings come from: the entries of the declaration file, the process and the `.env`
file. -/
structure Sources where
  raw : Entries
  env : Environment
  dotenv : DotenvValues

/-- A setting: what it is called in the declaration file and in the environment, how a value that is
given and a text that is looked up are read, and what it is otherwise. -/
structure Setting (α : Type) where
  field : String
  name : String
  reads : Value → α → Prop
  looks : String → α → Prop
  fallback : α
  reads_unique : ∀ {v a b}, reads v a → reads v b → a = b
  looks_unique : ∀ {text a b}, looks text a → looks text b → a = b

/-- The last variable of a name, letters counting in either case. -/
def Environment.LastNamed (env : Environment) (name value : String) : Prop :=
  ∃ before key after, env = before ++ (key, value) :: after ∧ Text.lower key = Text.lower name ∧
    ∀ entry ∈ after, Text.lower entry.1 ≠ Text.lower name

namespace Sources

/-- The declaration file does not have a field, or has it as null. -/
def Omits (s : Sources) (field : String) : Prop :=
  ∀ v, s.raw.get? field = some v → v = .null

/-- The first source that has a value for a setting gives it. -/
inductive Gives {α : Type} (s : Sources) (x : Setting α) : Value → Prop
  | declared {v : Value} (h : s.raw.get? x.field = some v) (hv : v ≠ .null) : Gives s x v
  | environment {text : String} (homits : s.Omits x.field)
      (h : s.env.Supplies s.dotenv x.name text) : Gives s x (.text text)

/-- No source has a value for a setting. -/
structure Misses {α : Type} (s : Sources) (x : Setting α) : Prop where
  omits : s.Omits x.field
  lacks : s.env.Lacks s.dotenv x.name

/-- What becomes of a setting. -/
inductive Takes {α : Type} (s : Sources) (x : Setting α) : α → Prop
  | given {v : Value} {a : α} (h : s.Gives x v) (hreads : x.reads v a) : Takes s x a
  | lookedUp {text : String} {a : α} (h : s.Misses x) (hlast : s.env.LastNamed x.name text)
      (hlooks : x.looks text a) : Takes s x a
  | fallback (h : s.Misses x)
      (hnone : ∀ entry ∈ s.env, Text.lower entry.1 ≠ Text.lower x.name) : Takes s x x.fallback

end Sources

/-! ## The settings -/

/-- The words for a boolean in the sources. -/
def booleanWords : Bool → List String
  | true => ["yes", "y", "true", "on"]
  | false => ["no", "n", "false", "off"]

/-- A word is read as a boolean exactly if it is one of the words for it. -/
theorem boolOfWord?_eq_some_iff {word : String} {b : Bool} :
    Settings.boolOfWord? word = some b ↔ word ∈ booleanWords b := by
  have hdisjoint : ∀ word ∈ booleanWords true, word ∉ booleanWords false := by decide
  show (if (booleanWords true).contains word then some true
    else if (booleanWords false).contains word then some false else none) = some b ↔ _
  simp only [List.contains_iff_mem]
  by_cases hyes : word ∈ booleanWords true
  · rw [if_pos hyes]
    cases b with
    | true => exact ⟨fun _ => hyes, fun _ => rfl⟩
    | false => exact ⟨nofun, fun hno => absurd hno (hdisjoint word hyes)⟩
  · rw [if_neg hyes]
    by_cases hno : word ∈ booleanWords false
    · rw [if_pos hno]
      cases b with
      | true => exact ⟨nofun, fun h => absurd h hyes⟩
      | false => exact ⟨fun _ => hno, fun _ => rfl⟩
    · rw [if_neg hno]
      cases b with
      | true => exact ⟨nofun, fun h => absurd h hyes⟩
      | false => exact ⟨nofun, fun h => absurd h hno⟩

/-- How a boolean is read: text has to be one of the words, in either letter case. -/
inductive ReadsBoolean : Value → Bool → Prop
  | word {text : String} {b : Bool} (h : Text.lower text ∈ booleanWords b) :
      ReadsBoolean (.text text) b
  | other {v : Value} {b : Bool} (hv : ∀ text, v ≠ .text text) (h : Schema.bool v = .valid b) :
      ReadsBoolean v b

/-- A value is read as one boolean at most. -/
theorem ReadsBoolean.unique {v : Value} {a b : Bool} (ha : ReadsBoolean v a)
    (hb : ReadsBoolean v b) : a = b := by
  cases ha with
  | word ha =>
    cases hb with
    | word hb =>
      rw [← boolOfWord?_eq_some_iff] at ha hb
      exact Option.some.inj (ha.symm.trans hb)
    | other hv => exact absurd rfl (hv _)
  | other hv ha =>
    cases hb with
    | word => exact absurd rfl (hv _)
    | other _ hb => exact Checked.valid.inj (ha.symm.trans hb)

namespace Setting

/-- A setting whose values are texts. -/
def ofText (field name : String) : Setting (Option String) where
  field := field
  name := name
  reads v a := ∃ text, Schema.text v = .valid text ∧ a = some text
  looks text a := a = some text
  fallback := none
  reads_unique := by
    rintro v _ _ ⟨a, ha, rfl⟩ ⟨b, hb, rfl⟩
    rw [Checked.valid.inj (ha.symm.trans hb)]
  looks_unique ha hb := ha.trans hb.symm

def host : Setting (Option String) := ofText "host" "GITLAB_HOST"

def token : Setting (Option String) := ofText "token" "GITLAB_TOKEN"

/-- The words that count when the setting is looked up are more than those of the sources. -/
def verifySsl : Setting Bool where
  field := "verify_ssl"
  name := "GITLAB_VERIFY_SSL"
  reads := ReadsBoolean
  looks text b := Schema.bool (.text text) = .valid b
  fallback := true
  reads_unique := ReadsBoolean.unique
  looks_unique ha hb := Checked.valid.inj (ha.symm.trans hb)

end Setting

/-! ## Values that are given -/

namespace Sources

variable {s : Sources} {α : Type} {x : Setting α}

/-- The value of the first source that has one. -/
def value? (s : Sources) (x : Setting α) : Option Value :=
  Settings.firstSet? s.raw s.env s.dotenv x.field x.name

theorem value?_of_omits (h : s.Omits x.field) :
    s.value? x = ((s.env.lookup x.name).or (s.dotenv.get? x.name)).map .text := by
  unfold value? Settings.firstSet?
  cases hfield : s.raw.get? x.field with
  | none => rfl
  | some v =>
    rw [h v hfield]

theorem value?_of_declared {v : Value} (h : s.raw.get? x.field = some v) (hv : v ≠ .null) :
    s.value? x = some v := by
  unfold value? Settings.firstSet?
  rw [h]
  cases v with
  | null => exact absurd rfl hv
  | _ => rfl

theorem omits_or_declared (s : Sources) (field : String) :
    s.Omits field ∨ ∃ v, s.raw.get? field = some v ∧ v ≠ .null := by
  by_cases h : ∃ v, s.raw.get? field = some v ∧ v ≠ .null
  · exact .inr h
  · exact .inl fun v hv => by_contra fun hnull => h ⟨v, hv, hnull⟩

/-- The value of a setting is the one that the sources give. -/
theorem value?_eq_some_iff {v : Value} : s.value? x = some v ↔ s.Gives x v := by
  constructor
  · intro h
    rcases s.omits_or_declared x.field with homits | ⟨v', hfield, hv'⟩
    · rw [value?_of_omits homits, Option.map_eq_some_iff] at h
      obtain ⟨text, htext, rfl⟩ := h
      exact .environment homits (Environment.supplies_iff.1 htext)
    · rw [value?_of_declared hfield hv'] at h
      cases h
      exact .declared hfield hv'
  · intro h
    cases h with
    | declared hfield hv => exact value?_of_declared hfield hv
    | environment homits hsupplies =>
      rw [value?_of_omits homits, Environment.supplies_iff.2 hsupplies, Option.map_some]

/-- There is no value exactly if all sources lack the setting. -/
theorem value?_eq_none_iff : s.value? x = none ↔ s.Misses x := by
  constructor
  · intro h
    rcases s.omits_or_declared x.field with homits | ⟨v, hfield, hv⟩
    · rw [value?_of_omits homits, Option.map_eq_none_iff] at h
      exact ⟨homits, Environment.lacks_iff.1 h⟩
    · rw [value?_of_declared hfield hv] at h
      cases h
  · intro h
    rw [value?_of_omits h.omits, Environment.lacks_iff.2 h.lacks, Option.map_none]

end Sources

/-! ## Values that are looked up -/

namespace Environment

variable {env : Environment} {name : String}

/-- The last variable of a name in any letter case. -/
def last? (env : Environment) (name : String) : Option String :=
  (env.reverse.find? fun (key, _) => Text.lower key == Text.lower name).map Prod.snd

/-- The second look-up finds the last variable of a name in any letter case. -/
theorem last?_eq_some_iff {value : String} :
    env.last? name = some value ↔ env.LastNamed name value := by
  unfold last?
  simp only [Option.map_eq_some_iff, find?_reverse_eq_some_iff, beq_iff_eq, beq_eq_false_iff_ne]
  constructor
  · rintro ⟨⟨key, _⟩, ⟨hkey, before, after, hsplit, hafter⟩, rfl⟩
    exact ⟨before, key, after, hsplit, hkey, hafter⟩
  · rintro ⟨before, key, after, hsplit, hkey, hafter⟩
    exact ⟨(key, value), ⟨hkey, before, after, hsplit, hafter⟩, rfl⟩

theorem last?_eq_none_iff :
    env.last? name = none ↔ ∀ entry ∈ env, Text.lower entry.1 ≠ Text.lower name := by
  unfold last?
  simp only [Option.map_eq_none_iff, List.find?_eq_none, List.mem_reverse, beq_iff_eq, ne_eq]

/-- The look-up of the settings, as it is when they do not say otherwise. -/
theorem environmentValue?_eq {field : String}
    (hname : Text.lower ("GITLAB_" ++ field) = Text.lower name) :
    Settings.Lookup.environmentValue? {} env field = (env.last? name).map .text := by
  unfold Settings.Lookup.environmentValue? last?
  simp only [Bool.false_and, Bool.not_false, List.filter_true, Settings.Lookup.sameName, hname,
    Option.map_map]
  rfl

end Environment

/-! ## The settings of a file -/

namespace Settings

/-- The entry of a value, if there is one. -/
def entryOf (field : String) : Option Value → Entries
  | some v => [(.text field, v)]
  | none => []

/-- The entries of some settings. -/
def entriesOf (host token verify : Option Value) : Entries :=
  entryOf "host" host ++ entryOf "token" token ++ entryOf "verify_ssl" verify

section

variable (host token verify : Option Value)

theorem ofEntries_entriesOf : Lookup.ofEntries (entriesOf host token verify) = {} := by
  cases host <;> cases token <;> cases verify <;> rfl

/-- The settings that were resolved are in order already. -/
theorem normalize_entriesOf :
    Lookup.normalize {} (entriesOf host token verify) = entriesOf host token verify := by
  cases host <;> cases token <;> cases verify <;> rfl

theorem get?_host : Entries.get? (entriesOf host token verify) "host" = host := by
  cases host <;> cases token <;> cases verify <;> rfl

theorem get?_token : Entries.get? (entriesOf host token verify) "token" = token := by
  cases host <;> cases token <;> cases verify <;> rfl

theorem get?_verify : Entries.get? (entriesOf host token verify) "verify_ssl" = verify := by
  cases host <;> cases token <;> cases verify <;> rfl

end

theorem check_entriesOf {source : Schema.Source} {env : Environment}
    {host token verify : Option Value} {c : Settings}
    (h : check source env (.map (entriesOf host token verify)) = .valid c) :
    let entries := entriesOf host token verify
    setting {} env entries "host" none (Schema.nullable Schema.text) = .valid c.host ∧
      setting {} env entries "token" none (Schema.nullable Schema.text) = .valid c.token ∧
      setting {} env entries "verify_ssl" true Schema.bool = .valid c.verifySsl := by
  unfold check Schema.record at h
  simp only [ofEntries_entriesOf, normalize_entriesOf] at h
  have h := Schema.closed_eq_valid h
  simp only [Schema.Checked.and_eq_valid_iff, Schema.Checked.map_eq_valid_iff] at h
  obtain ⟨_, _, ⟨_, _, ⟨_, hhost, rfl⟩, htoken, rfl⟩, hverify, rfl⟩ := h
  exact ⟨hhost, htoken, hverify⟩

theorem readBoolean_word {name text : String} {b : Bool}
    (h : Text.lower text ∈ booleanWords b) : readBoolean name (.text text) = .ok (.bool b) := by
  unfold readBoolean
  simp only [boolOfWord?_eq_some_iff.2 h]

theorem readBoolean_other_text {name text : String}
    (h : ∀ b, Text.lower text ∉ booleanWords b) :
    readBoolean name (.text text) = .error (.config (.invalidBoolean name text)) := by
  have hnone : boolOfWord? (Text.lower text) = none :=
    Option.eq_none_iff_forall_ne_some.2 fun b hb => h b (boolOfWord?_eq_some_iff.1 hb)
  unfold readBoolean
  simp only [hnone]

theorem readBoolean_other {name : String} {v : Value} (h : ∀ text, v ≠ .text text) :
    readBoolean name v = .ok v := by
  cases v with
  | text text => exact absurd rfl (h text)
  | _ => rfl

theorem readsBoolean_of_readBoolean {name : String} {v v' : Value} {b : Bool}
    (h : readBoolean name v = .ok v') (hb : Schema.bool v' = .valid b) : ReadsBoolean v b := by
  by_cases htext : ∃ text, v = .text text
  · obtain ⟨text, rfl⟩ := htext
    by_cases hword : ∃ b', Text.lower text ∈ booleanWords b'
    · obtain ⟨b', hword⟩ := hword
      rw [readBoolean_word hword] at h
      cases h
      cases hb
      exact .word hword
    · rw [readBoolean_other_text fun b' hb' => hword ⟨b', hb'⟩] at h
      cases h
  · have hother : ∀ text, v ≠ .text text := fun text heq => htext ⟨text, heq⟩
    rw [readBoolean_other hother] at h
    cases h
    exact .other hother hb

/-- The value that is given for `verify_ssl`, read as a boolean. -/
def readVerify : Option Value → Except Failure (Option Value)
  | some v => (readBoolean "GITLAB_VERIFY_SSL" v).map some
  | none => .ok none

/-- The settings that are resolved, by the values that the sources give. -/
theorem resolve_eq (s : Sources) : resolve s.raw s.env s.dotenv =
    (readVerify (s.value? .verifySsl)).map
      (entriesOf (s.value? .host) (s.value? .token)) := by
  unfold resolve
  show (do
    let verify ← match s.value? .verifySsl with
      | some v =>
        (readBoolean "GITLAB_VERIFY_SSL" v).map fun v => [(Schema.Key.text "verify_ssl", v)]
      | none => .ok []
    Except.ok (entryOf "host" (s.value? .host) ++ entryOf "token" (s.value? .token) ++ verify)) = _
  cases s.value? .verifySsl with
  | none => rfl
  | some v =>
    simp only [readVerify]
    cases readBoolean "GITLAB_VERIFY_SSL" v <;> rfl

end Settings

namespace Sources

variable {s : Sources} {α : Type} {x : Setting α}

theorem Gives.ne_null {v : Value} (h : s.Gives x v) : v ≠ .null := by
  cases h with
  | declared _ hv => exact hv
  | environment => exact nofun

/-- A setting takes one value at most. -/
theorem Takes.unique {a b : α} (ha : s.Takes x a) (hb : s.Takes x b) : a = b := by
  have hgives {v : Value} (h : s.Gives x v) : ¬s.Misses x := fun hmisses =>
    nomatch (value?_eq_some_iff.2 h).symm.trans (value?_eq_none_iff.2 hmisses)
  have hlast {text : String} (h : s.env.LastNamed x.name text) :
      ¬∀ entry ∈ s.env, Text.lower entry.1 ≠ Text.lower x.name := fun hnone =>
    nomatch (Environment.last?_eq_some_iff.2 h).symm.trans (Environment.last?_eq_none_iff.2 hnone)
  cases ha with
  | given hv ha =>
    cases hb with
    | given hv' hb =>
      rw [← value?_eq_some_iff] at hv hv'
      cases hv.symm.trans hv'
      exact x.reads_unique ha hb
    | lookedUp hmisses | fallback hmisses => exact absurd hmisses (hgives hv)
  | lookedUp hmisses htext ha =>
    cases hb with
    | given hv => exact absurd hmisses (hgives hv)
    | lookedUp _ htext' hb =>
      rw [← Environment.last?_eq_some_iff] at htext htext'
      cases htext.symm.trans htext'
      exact x.looks_unique ha hb
    | fallback _ hnone => exact absurd hnone (hlast htext)
  | fallback hmisses hnone =>
    cases hb with
    | given hv => exact absurd hmisses (hgives hv)
    | lookedUp _ htext => exact absurd hnone (hlast htext)
    | fallback => rfl

/-- A setting that was checked takes its value, if the entries have what the sources give and the
check reads it as the setting does. -/
theorem takes_of_setting {entries : Entries} {check : Value → Checked α} {a : α}
    (hname : Text.lower ("GITLAB_" ++ x.field) = Text.lower x.name)
    (hmissing : s.value? x = none → entries.get? x.field = none)
    (hgiven : ∀ v, s.value? x = some v →
      ∃ v', entries.get? x.field = some v' ∧ (check v' = .valid a → x.reads v a))
    (hlooks : ∀ text, check (.text text) = .valid a → x.looks text a)
    (h : Settings.setting {} s.env entries x.field x.fallback check = .valid a) : s.Takes x a := by
  unfold Settings.setting at h
  rw [Environment.environmentValue?_eq hname] at h
  cases hvalue : s.value? x with
  | some v =>
    obtain ⟨v', hv', hreads⟩ := hgiven v hvalue
    rw [hv', Option.some_or] at h
    exact .given (value?_eq_some_iff.1 hvalue) (hreads (Checked.under_eq_valid_iff.1 h))
  | none =>
    have hmisses := value?_eq_none_iff.1 hvalue
    rw [hmissing hvalue, Option.none_or] at h
    cases hlast : s.env.last? x.name with
    | some text =>
      rw [hlast] at h
      exact .lookedUp hmisses (Environment.last?_eq_some_iff.1 hlast)
        (hlooks text (Checked.under_eq_valid_iff.1 h))
    | none =>
      rw [hlast] at h
      cases h
      exact .fallback hmisses (Environment.last?_eq_none_iff.1 hlast)

theorem eq_some_of_nullable {v : Value} {a : Option String} (hv : v ≠ .null)
    (h : Schema.nullable Schema.text v = .valid a) :
    ∃ text, Schema.text v = .valid text ∧ a = some text := by
  unfold Schema.nullable at h
  split at h
  · exact absurd rfl hv
  · obtain ⟨text, htext, rfl⟩ := Checked.map_eq_valid_iff.1 h
    exact ⟨text, htext, rfl⟩

/-- A textual setting is taken from the sources, else from the second look-up, else it is unset. -/
theorem takes_ofText {field name : String} {entries : Entries} {a : Option String}
    (hname : Text.lower ("GITLAB_" ++ field) = Text.lower name)
    (hget : entries.get? field = s.value? (.ofText field name))
    (h : Settings.setting {} s.env entries field none (Schema.nullable Schema.text) = .valid a) :
    s.Takes (.ofText field name) a := by
  refine takes_of_setting (x := .ofText field name) hname hget.trans (fun v hv => ?_)
    (fun text htext => ?_) h
  · exact ⟨v, hget.trans hv, eq_some_of_nullable (value?_eq_some_iff.1 hv).ne_null⟩
  · obtain ⟨_, htext, rfl⟩ := eq_some_of_nullable (v := .text text) nofun htext
    cases htext
    rfl

/-- The boolean setting is taken so, too, and is true if nothing sets it. -/
theorem takes_verifySsl {entries : Entries} {verify : Option Value} {b : Bool}
    (hget : entries.get? "verify_ssl" = verify)
    (hverify : Settings.readVerify (s.value? .verifySsl) = .ok verify)
    (h : Settings.setting {} s.env entries "verify_ssl" true Schema.bool = .valid b) :
    s.Takes .verifySsl b := by
  refine takes_of_setting (x := .verifySsl) (by decide) (fun hnone => ?_) (fun v hv => ?_)
    (fun _ htext => htext) h
  · rw [hnone] at hverify
    cases hverify
    exact hget
  · rw [hv] at hverify
    cases hread : Settings.readBoolean "GITLAB_VERIFY_SSL" v with
    | error failure =>
      simp only [Settings.readVerify, hread] at hverify
      cases hverify
    | ok v' =>
      simp only [Settings.readVerify, hread] at hverify
      cases hverify
      exact ⟨v', hget, Settings.readsBoolean_of_readBoolean hread⟩

end Sources

theorem Schema.Entries.get?_set_self (entries : Entries) (name : String) (v : Value) :
    (entries.set name v).get? name = some v := by
  induction entries with
  | nil => exact List.lookup_cons_self
  | cons entry rest ih =>
    obtain ⟨k, old⟩ := entry
    unfold Entries.set
    split
    · next hk =>
      rw [hk]
      exact List.lookup_cons_self
    · next hk =>
      unfold Entries.get?
      rw [List.lookup_cons, beq_eq_false_iff_ne.2 (Ne.symm hk)]
      exact ih

namespace Config

/-- The entries under `provider`. Null, false, zero or something empty counts as no entries. -/
inductive Provides (entries : Entries) : Entries → Prop
  | mapping {raw : Entries} (h : entries.get? "provider" = some (.map raw)) : Provides entries raw
  | nothing (h : ∀ v, entries.get? "provider" = some v → v.isFalsy = true) : Provides entries []

variable {env : Environment} {dotenv : DotenvValues} {entries raw : Entries}

theorem rawSettings_of_provides (h : Provides entries raw) : rawSettings entries = .ok raw := by
  unfold rawSettings
  cases h with
  | mapping h =>
    rw [h]
    cases raw <;> rfl
  | nothing h =>
    cases hprovider : entries.get? "provider" with
    | none => rfl
    | some v => exact if_pos (h v hprovider)

theorem settings_of_check {source : Schema.Source} {settings : Value} {c : Config}
    (h : check source env (.map (entries.set "provider" settings)) = .valid c) :
    Settings.check source env settings = .valid c.settings := by
  unfold check Schema.record at h
  simp only [Checked.and_eq_valid_iff, Checked.map_eq_valid_iff] at h
  obtain ⟨_, _, ⟨_, _, ⟨_, hsettings, rfl⟩, -, rfl⟩, -, rfl⟩ := h
  unfold Schema.required at hsettings
  rw [Entries.get?_set_self] at hsettings
  exact Checked.under_eq_valid_iff.1 hsettings

/-- A file that is accepted takes its settings from the sources. -/
theorem takes_of_ofEntries {c : Config} (hraw : Provides entries raw)
    (h : ofEntries env dotenv entries = .ok c) :
    let s : Sources := ⟨raw, env, dotenv⟩
    s.Takes .host c.settings.host ∧ s.Takes .token c.settings.token ∧
      s.Takes .verifySsl c.settings.verifySsl := by
  intro s
  have hresolve : Settings.resolve raw env dotenv = _ := Settings.resolve_eq s
  unfold ofEntries at h
  rw [rawSettings_of_provides hraw] at h
  cases hverify : Settings.readVerify (s.value? .verifySsl) with
  | error failure =>
    rw [hverify] at hresolve
    simp only [bind, Except.bind, hresolve, Except.map] at h
    cases h
  | ok verify =>
    rw [hverify] at hresolve
    simp only [bind, Except.bind, hresolve, Except.map] at h
    split at h
    · next hcheck =>
      cases h
      obtain ⟨hhost, htoken, hssl⟩ := Settings.check_entriesOf (settings_of_check hcheck)
      exact ⟨Sources.takes_ofText (by decide) (Settings.get?_host _ _ _) hhost,
        Sources.takes_ofText (by decide) (Settings.get?_token _ _ _) htoken,
        Sources.takes_verifySsl (Settings.get?_verify _ _ _) hverify hssl⟩
    · cases h

/-- A text that is no boolean word fails the load. -/
theorem load_of_no_boolean {text : String} (hraw : Provides entries raw)
    (hgives : Sources.Gives ⟨raw, env, dotenv⟩ .verifySsl (.text text))
    (hword : ∀ b, Text.lower text ∉ booleanWords b) :
    (load env dotenv entries).1 =
      .error (.config (.invalidBoolean "GITLAB_VERIFY_SSL" text)) := by
  have hresolve : Settings.resolve raw env dotenv = _ := Settings.resolve_eq ⟨raw, env, dotenv⟩
  rw [Sources.value?_eq_some_iff.2 hgives, Settings.readVerify,
    Settings.readBoolean_other_text hword] at hresolve
  unfold load ofEntries
  rw [rawSettings_of_provides hraw]
  simp only [bind, Except.bind, hresolve, Except.map]

/-- **Where settings come from.** Each setting of a loaded file is the one that it takes: the value
that the file gives, else the process under the exact name, else the `.env` file; only a setting
that none of them has is looked up in any letter case, and else is the default. Text for
`verify_ssl` that no source before it overrides has to be a boolean word, or the file is refused. -/
theorem settings_from_sources (hraw : Provides entries raw) :
    let s : Sources := ⟨raw, env, dotenv⟩
    (∀ c, (load env dotenv entries).1 = .ok c →
      (∀ host, s.Takes .host host ↔ host = c.settings.host) ∧
      (∀ token, s.Takes .token token ↔ token = c.settings.token) ∧
      (∀ verify, s.Takes .verifySsl verify ↔ verify = c.settings.verifySsl)) ∧
    (∀ text, s.Gives .verifySsl (.text text) → (∀ b, Text.lower text ∉ booleanWords b) →
      (load env dotenv entries).1 =
        .error (.config (.invalidBoolean "GITLAB_VERIFY_SSL" text))) ∧
    ∀ (surroundings : Surroundings) path warnings, surroundings.env = env →
      readEntries surroundings.files path = .ok entries →
      readDotenv surroundings path = .ok (dotenv, warnings) →
      (loadFile surroundings path).1 = (load env dotenv entries).1 := by
  intro s
  refine ⟨fun c hc => ?_, fun text hgives hword => load_of_no_boolean hraw hgives hword,
    fun surroundings path warnings henv hentries hdotenv =>
      henv ▸ loadFile_eq_load hentries hdotenv⟩
  obtain ⟨declared, hdeclared, -, rfl⟩ := load_eq_ok_iff.1 hc
  obtain ⟨hhost, htoken, hverify⟩ := takes_of_ofEntries hraw hdeclared
  have hiff {α : Type} {x : Setting α} {a : α} (ha : s.Takes x a) (b : α) :
      s.Takes x b ↔ b = a := ⟨fun hb => hb.unique ha, fun heq => heq ▸ ha⟩
  exact ⟨hiff hhost, hiff htoken, hiff hverify⟩

/-- The process sets the host to nothing, and the token under a name in mixed case. The `.env` file
has another host. -/
def mixedSources (verify : String) : Sources where
  raw := [(.text "host", .null), (.text "verify_ssl", .text verify)]
  env := [("GITLAB_HOST", ""), ("Gitlab_Token", "t"), ("GITLAB_VERIFY_SSL", "true")]
  dotenv := [("GITLAB_HOST", some "h"), ("GITLAB_TOKEN", none)]

/-- Where `verify_ssl` is a number as text, the process is not asked. -/
theorem settings_from_sources_of_mixed :
    let s := mixedSources "No"
    let other := mixedSources "1"
    (load s.env s.dotenv [(.text "provider", .map s.raw)]).1 =
        .ok ⟨⟨some "", some "t", false⟩, [], []⟩ ∧
      (∀ host, s.Takes .host host ↔ host = some "") ∧
      (∀ token, s.Takes .token token ↔ token = some "t") ∧
      (∀ verify, s.Takes .verifySsl verify ↔ verify = false) ∧
      (load other.env other.dotenv [(.text "provider", .map other.raw)]).1 =
        .error (.config (.invalidBoolean "GITLAB_VERIFY_SSL" "1")) := by
  have hload : (load (mixedSources "No").env (mixedSources "No").dotenv
      [(.text "provider", .map (mixedSources "No").raw)]).1 =
      .ok ⟨⟨some "", some "t", false⟩, [], []⟩ := rfl
  obtain ⟨hhost, htoken, hverify⟩ := (settings_from_sources (.mapping rfl)).1 _ hload
  refine ⟨hload, hhost, htoken, hverify, ?_⟩
  exact (settings_from_sources (.mapping rfl)).2.1 "1" (.declared rfl nofun) (by decide)

end Config

end CiVariables
