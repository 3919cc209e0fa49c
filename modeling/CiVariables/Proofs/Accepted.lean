import CiVariables.Proofs.Loading

/-!
# What an accepted file guarantees

An accepted file was checked and holds together (`Config.Accepted.settled`). Its declarations are
well formed, have names of their own, and no two are about the same project, key and scope, an unset
scope counting as all environments (`Config.Accepted.identity_ne`).
-/

namespace CiVariables

open Schema (Checked)

/-! ## Checked files -/

theorem Schema.exists_of_forItems {α : Type} {check : Schema.Value → Checked α} {i : Int}
    {items : List Schema.Value} {l : List α} (h : Checked.forItems check i items = .valid l) {a : α}
    (ha : a ∈ l) : ∃ v, check v = .valid a := by
  induction items generalizing i l with
  | nil =>
    cases h
    cases ha
  | cons v rest ih =>
    unfold Checked.forItems at h
    obtain ⟨f, as, hf, has, rfl⟩ := Checked.and_eq_valid_iff.1 h
    obtain ⟨a', ha', rfl⟩ := Checked.map_eq_valid_iff.1 hf
    rcases List.mem_cons.1 ha with rfl | ha
    · exact ⟨v, Checked.under_eq_valid_iff.1 ha'⟩
    · exact ih has ha

/-- The declarations of a checked file are well formed. -/
theorem Config.wellFormed_of_check {source : Schema.Source} {env : Environment} {v : Schema.Value}
    {c : Config} (h : Config.check source env v = .valid c) :
    ∀ d ∈ c.declarations, d.WellFormed := by
  obtain ⟨entries, -, h⟩ := Schema.record_eq_valid h
  simp only [Checked.and_eq_valid_iff, Checked.map_eq_valid_iff] at h
  obtain ⟨_, ds, ⟨_, _, ⟨_, -, rfl⟩, -, rfl⟩, hds, rfl⟩ := h
  intro d hd
  unfold Schema.optional at hds
  split at hds
  · next v _ =>
    have hds := Checked.under_eq_valid_iff.1 hds
    unfold Config.listOrNull at hds
    split at hds
    · cases hds
      cases hd
    · unfold Schema.list at hds
      split at hds
      · obtain ⟨v, hv⟩ := Schema.exists_of_forItems hds hd
        exact Declaration.wellFormed_of_check hv
      · obtain ⟨v, hv⟩ := Schema.exists_of_forItems hds hd
        exact Declaration.wellFormed_of_check hv
      · exact absurd hds Checked.fail_ne_valid
  · cases hds
    cases hd

/-! ## Accepted files -/

namespace Config

/-- The content of a file that is accepted, with some environment. -/
def Accepted (c : Config) : Prop :=
  ∃ env dotenv entries, (load env dotenv entries).1 = .ok c

/-- What the loader returns has been accepted. -/
theorem accepted_of_loadFile {s : Surroundings} {path : String} {c : Config}
    (h : (loadFile s path).1 = .ok c) : c.Accepted := by
  unfold loadFile at h
  split at h
  · cases h
  · next entries _ =>
    split at h
    · cases h
    · next dotenv warnings _ =>
      split at h
      · cases h
      · next c' log hload =>
        cases h
        exact ⟨s.env, dotenv, entries, by rw [hload]⟩

theorem wellFormed_of_ofEntries {env : Environment} {dotenv : DotenvValues}
    {entries : Schema.Entries} {c : Config} (h : ofEntries env dotenv entries = .ok c) :
    ∀ d ∈ c.declarations, d.WellFormed := by
  unfold ofEntries at h
  cases hraw : rawSettings entries with
  | error failure =>
    rw [hraw] at h
    cases h
  | ok raw =>
    rw [hraw] at h
    cases hsettings : Settings.resolve raw env dotenv with
    | error failure =>
      simp only [bind, Except.bind, hsettings] at h
      cases h
    | ok settings =>
      simp only [bind, Except.bind, hsettings] at h
      split at h
      · next hcheck =>
        cases h
        exact wellFormed_of_check hcheck
      · cases h

/-- An accepted file was checked and holds together. -/
theorem Accepted.settled {c : Config} (h : c.Accepted) :
    ∃ env dotenv, ∃ declared : Config, (∀ d ∈ declared.declarations, d.WellFormed) ∧
      declared.Consistent env dotenv ∧ c.declarations = declared.settled env dotenv := by
  obtain ⟨env, dotenv, entries, h⟩ := h
  obtain ⟨declared, hdeclared, hconsistent, rfl⟩ := load_eq_ok_iff.1 h
  exact ⟨env, dotenv, declared, wellFormed_of_ofEntries hdeclared, hconsistent, rfl⟩

theorem Accepted.wellFormed {c : Config} (h : c.Accepted) : ∀ d ∈ c.declarations, d.WellFormed := by
  obtain ⟨env, dotenv, declared, hwf, -, heq⟩ := h.settled
  intro d hd
  rw [heq] at hd
  obtain ⟨d', hd', rfl⟩ := List.mem_map.1 hd
  exact (keepsNames_settled declared.projects env dotenv).wellFormed d' (hwf d' hd')

/-- No two declarations of an accepted file are the same variable. -/
theorem Accepted.pairwise_identity {c : Config} (h : c.Accepted) :
    c.declarations.Pairwise fun a b => a.identity ≠ b.identity := by
  obtain ⟨env, dotenv, declared, -, hconsistent, heq⟩ := h.settled
  rw [heq]
  exact List.pairwise_map.1 (declared.identities_settled ▸ hconsistent.identities)

/-- No two declarations of an accepted file are about the same project, key and scope, an unset
scope counting as all environments. -/
theorem Accepted.identity_ne {c : Config} (h : c.Accepted) {a b : Declaration}
    (ha : a ∈ c.declarations) (hb : b ∈ c.declarations) (hne : a ≠ b) :
    a.identity ≠ b.identity := by
  have hpairwise := h.pairwise_identity
  generalize c.declarations = ds at ha hb hpairwise
  induction ds with
  | nil => cases ha
  | cons d rest ih =>
    obtain ⟨hfirst, hrest⟩ := List.pairwise_cons.1 hpairwise
    rcases List.mem_cons.1 ha with rfl | ha' <;> rcases List.mem_cons.1 hb with rfl | hb'
    · exact absurd rfl hne
    · exact hfirst b hb'
    · exact (hfirst a ha').symm
    · exact ih ha' hb' hrest

end Config

end CiVariables
