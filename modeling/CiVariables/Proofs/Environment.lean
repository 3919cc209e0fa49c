import CiVariables.Config.Secrets

/-!
# Values from the environment

A name has the value that the process gives it, else the one in the `.env` file
(`Environment.Supplies`). An empty text is a value; a name that stands alone in the file has none.

A declaration that points at a secret takes its value from there, unless it gives one itself
(`Declaration.Obtains`). `Reveals` says what becomes of a list, declaration by declaration, and the
look-up over a list is that (`resolveSecrets_reveals`): what one declaration obtains does not depend
on the others, and nothing but values is set.
-/

namespace CiVariables

/-! ## The value of a name -/

namespace Environment

/-- The value of a name: the process comes first, then the `.env` file. -/
inductive Supplies (env : Environment) (dotenv : DotenvValues) (name : String) : String → Prop
  | process {value : String} (h : env.lookup name = some value) : Supplies env dotenv name value
  | file {value : String} (hprocess : env.lookup name = none)
      (h : dotenv.lookup name = some (some value)) : Supplies env dotenv name value

/-- A name without a value. -/
structure Lacks (env : Environment) (dotenv : DotenvValues) (name : String) : Prop where
  process : env.lookup name = none
  file : ∀ value, dotenv.lookup name ≠ some (some value)

variable {env : Environment} {dotenv : DotenvValues} {name value : String}

theorem get?_eq_some_iff : dotenv.get? name = some value ↔
    dotenv.lookup name = some (some value) := by
  unfold DotenvValues.get?
  exact Option.join_eq_some_iff

/-- The look-up in the environment and then in the file finds what one of them supplies. -/
theorem supplies_iff : (env.lookup name).or (dotenv.get? name) = some value ↔
    Supplies env dotenv name value := by
  constructor
  · intro h
    cases hprocess : env.lookup name with
    | some found =>
      rw [hprocess, Option.some_or, Option.some_inj] at h
      exact .process (h ▸ hprocess)
    | none =>
      rw [hprocess, Option.none_or] at h
      exact .file hprocess (get?_eq_some_iff.1 h)
  · intro h
    cases h with
    | process h => rw [h, Option.some_or]
    | file hprocess h => rw [hprocess, Option.none_or, get?_eq_some_iff.2 h]

theorem lacks_iff : (env.lookup name).or (dotenv.get? name) = none ↔ Lacks env dotenv name := by
  rw [Option.or_eq_none_iff, Option.eq_none_iff_forall_ne_some (o := dotenv.get? name)]
  simp only [ne_eq, get?_eq_some_iff]
  exact ⟨fun ⟨hprocess, hfile⟩ => ⟨hprocess, hfile⟩, fun h => ⟨h.process, h.file⟩⟩

end Environment

/-! ## The value of a declaration -/

namespace Declaration

/-- The declaration with a value. -/
def withValue (d : Declaration) (value : String) : Declaration :=
  { d with parameters := { d.parameters with value := some value } }

/-- What becomes of a declaration whose value is looked up. -/
inductive Obtains (env : Environment) (dotenv : DotenvValues) (d : Declaration) :
    Except SecretError Declaration → Prop
  | nothing (hsecret : d.parameters.secret = none) : Obtains env dotenv d (.ok d)
  /-- A value of its own stands in the way, also an empty one. -/
  | conflict {source : SecretSource} {given : String} (hsecret : d.parameters.secret = some source)
      (hvalue : d.parameters.value = some given) :
      Obtains env dotenv d (.error (.valueGiven d.address))
  | taken {source : SecretSource} {value : String} (hsecret : d.parameters.secret = some source)
      (hvalue : d.parameters.value = none) (hsupplies : env.Supplies dotenv source.env value) :
      Obtains env dotenv d (.ok (d.withValue value))
  | unset {source : SecretSource} (hsecret : d.parameters.secret = some source)
      (hvalue : d.parameters.value = none) (hlacks : env.Lacks dotenv source.env) :
      Obtains env dotenv d (.error (.unset d.address source.env))

variable {env : Environment} {dotenv : DotenvValues} {d : Declaration}

theorem obtains_resolveSecret (env : Environment) (dotenv : DotenvValues) (d : Declaration) :
    d.Obtains env dotenv (d.resolveSecret env dotenv) := by
  unfold resolveSecret
  cases hsecret : d.parameters.secret with
  | none => exact .nothing hsecret
  | some source =>
    cases hvalue : d.parameters.value with
    | some given => exact .conflict hsecret hvalue
    | none =>
      cases hfound : secretValue? env dotenv source.env with
      | some value =>
        simp only [hfound]
        exact .taken hsecret hvalue (Environment.supplies_iff.1 hfound)
      | none =>
        simp only [hfound]
        exact .unset hsecret hvalue (Environment.lacks_iff.1 hfound)

theorem Obtains.resolveSecret_eq {result : Except SecretError Declaration}
    (h : d.Obtains env dotenv result) : d.resolveSecret env dotenv = result := by
  unfold resolveSecret
  cases h with
  | nothing hsecret => simp only [hsecret]
  | conflict hsecret hvalue => simp only [hsecret, hvalue]
  | @taken source value hsecret hvalue hsupplies =>
    have hfound : secretValue? env dotenv source.env = some value :=
      Environment.supplies_iff.2 hsupplies
    simp only [withValue, hsecret, hvalue, hfound]
  | @unset source hsecret hvalue hlacks =>
    have hfound : secretValue? env dotenv source.env = none := Environment.lacks_iff.2 hlacks
    simp only [hsecret, hvalue, hfound]

/-- The look-up of a value is what the relation says, in both directions. -/
theorem resolveSecret_eq_iff {result : Except SecretError Declaration} :
    d.resolveSecret env dotenv = result ↔ d.Obtains env dotenv result :=
  ⟨fun h => h ▸ obtains_resolveSecret env dotenv d, Obtains.resolveSecret_eq⟩

/-- A declaration that is not refused has a value where it points at a secret. -/
theorem Obtains.value_ne_none {d' : Declaration} (h : d.Obtains env dotenv (.ok d'))
    (hsecret : d'.parameters.secret ≠ none) : d'.parameters.value ≠ none := by
  cases h with
  | nothing hnone => exact absurd hnone hsecret
  | taken => exact Option.some_ne_none _

end Declaration

/-! ## The values of all declarations -/

/-- What becomes of declarations whose values are looked up, and what is told: one that is refused
is left as it is. -/
inductive Reveals (env : Environment) (dotenv : DotenvValues) :
    List Declaration → List Declaration → List String → Prop
  | nil : Reveals env dotenv [] [] []
  | settled {d d' : Declaration} {ds ds' : List Declaration} {errors : List String}
      (hd : d.Obtains env dotenv (.ok d')) (hrest : Reveals env dotenv ds ds' errors) :
      Reveals env dotenv (d :: ds) (d' :: ds') errors
  | refused {d : Declaration} {e : SecretError} {ds ds' : List Declaration} {errors : List String}
      (hd : d.Obtains env dotenv (.error e)) (hrest : Reveals env dotenv ds ds' errors) :
      Reveals env dotenv (d :: ds) (d :: ds') (e.message :: errors)

variable {env : Environment} {dotenv : DotenvValues}

/-- Looking up all values reveals them one by one; the errors are in the order of the declarations.
-/
theorem reveals (env : Environment) (dotenv : DotenvValues) (ds : List Declaration) :
    Reveals env dotenv ds (resolveSecrets env dotenv ds).declarations
      (resolveSecrets env dotenv ds).errors := by
  induction ds with
  | nil => exact .nil
  | cons d rest ih =>
    have hd := d.obtains_resolveSecret env dotenv
    unfold resolveSecrets
    cases hresult : d.resolveSecret env dotenv with
    | ok d' => exact .settled (hresult ▸ hd) ih
    | error e => exact .refused (hresult ▸ hd) ih

/-- Where nothing is told, every declaration that points at a secret has a value. -/
theorem Reveals.value_ne_none {ds ds' : List Declaration} {errors : List String}
    (h : Reveals env dotenv ds ds' errors) (hnone : errors = []) :
    ∀ d ∈ ds', d.parameters.secret ≠ none → d.parameters.value ≠ none := by
  induction h with
  | nil =>
    intro x hx
    cases hx
  | settled hd _ ih =>
    intro x hx hsecret
    rcases List.mem_cons.1 hx with rfl | hx
    · exact hd.value_ne_none hsecret
    · exact ih hnone x hx hsecret
  | refused => cases hnone

/-- Looking up the values of some declarations and then of others is looking them all up. -/
theorem resolveSecrets_append (env : Environment) (dotenv : DotenvValues)
    (ds more : List Declaration) :
    resolveSecrets env dotenv (ds ++ more) =
      ⟨(resolveSecrets env dotenv ds).declarations ++ (resolveSecrets env dotenv more).declarations,
        (resolveSecrets env dotenv ds).errors ++ (resolveSecrets env dotenv more).errors,
        (resolveSecrets env dotenv ds).log ++ (resolveSecrets env dotenv more).log⟩ := by
  induction ds with
  | nil => rfl
  | cons d rest ih =>
    rw [List.cons_append, resolveSecrets, resolveSecrets, ih]
    cases d.resolveSecret env dotenv with
    | ok d' => simp only [List.cons_append, List.append_assoc]
    | error e => rfl

/-- **Where values come from.** A declaration without a source stays as it is, one with a source and
a value is refused, and one with a source alone takes the value that the process has under the name,
else that of the `.env` file, or is refused. Over a list every declaration is looked up on its own,
and the refusals are told in order; if there are none, no source is left without a value. -/
theorem resolveSecrets_reveals (env : Environment) (dotenv : DotenvValues)
    (ds : List Declaration) :
    (∀ (d : Declaration) result,
      d.resolveSecret env dotenv = result ↔ d.Obtains env dotenv result) ∧
    let all := resolveSecrets env dotenv ds
    Reveals env dotenv ds all.declarations all.errors ∧
    (∀ before d after, ds = before ++ d :: after →
      let first := resolveSecrets env dotenv before
      let one := resolveSecrets env dotenv [d]
      let rest := resolveSecrets env dotenv after
      all.declarations = first.declarations ++ one.declarations ++ rest.declarations ∧
        all.errors = first.errors ++ one.errors ++ rest.errors) ∧
    (all.errors = [] →
      ∀ d ∈ all.declarations, d.parameters.secret ≠ none → d.parameters.value ≠ none) := by
  refine ⟨fun d _ => d.resolveSecret_eq_iff, reveals env dotenv ds, ?_,
    (reveals env dotenv ds).value_ne_none⟩
  rintro before d after rfl
  rw [List.append_cons, resolveSecrets_append, resolveSecrets_append]
  exact ⟨rfl, rfl⟩

/-- Three declarations point at one name, which the process sets to nothing; one of them has an
empty value of its own. The file names another without a value. -/
example :
    let env : Environment := [("TOKEN", "")]
    let dotenv : DotenvValues := [("TOKEN", some "file"), ("KEY", none)]
    let first : Declaration := ⟨"a", "", { key := "K", secret := some ⟨"TOKEN"⟩ }⟩
    let second : Declaration := ⟨"b", "", { key := "L", secret := some ⟨"TOKEN"⟩ }⟩
    let both : Declaration :=
      ⟨"c", "", { key := "M", value := some "", secret := some ⟨"TOKEN"⟩ }⟩
    let lost : Declaration := ⟨"d", "", { key := "N", secret := some ⟨"KEY"⟩ }⟩
    let all := resolveSecrets env dotenv [first, second, both, lost]
    all.declarations = [first.withValue "", second.withValue "", both, lost] ∧
      all.errors = [(SecretError.valueGiven both.address).message,
        (SecretError.unset lost.address "KEY").message] := by
  decide

end CiVariables
