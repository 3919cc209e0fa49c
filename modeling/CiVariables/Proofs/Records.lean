import CiVariables.Proofs.Accepted
import CiVariables.Proofs.Environment
import CiVariables.Proofs.Origins
import CiVariables.Proofs.PlanFile
import CiVariables.Proofs.Settling

/-!
# Recorded declarations

After it was checked, a declaration is given a project and a value, and its unset fields are filled
(`Declaration.Becomes`); none of this is checked, and all of it stays inside of what the check
accepts. So the record of a declaration can always be read again, and it is the declaration, except
for halves of surrogate pairs in the label names of a selector (`Declaration.record_replays`): names
of members are whole texts, and those that become one text are one label.
-/

namespace CiVariables

open Schema (Checked Source Value)

/-! ## Labels -/

/-- A text without halves has none to replace. -/
theorem Text.replaceHalves_eq_self {s : String} (h : hasHalf s = false) : replaceHalves s = s := by
  have hchars : ∀ c ∈ s.toList, isHalf c = false := by simpa [hasHalf] using h
  have hflat : s.toList.flatMap (fun c =>
      if isHalf c then ['\uFFFD', '\uFFFD', '\uFFFD'] else [c]) = s.toList.flatMap fun c => [c] :=
    List.flatMap_congr fun c hc => by rw [hchars c hc]; rfl
  unfold replaceHalves
  rw [hflat, List.flatMap_singleton', String.ofList_toList]

namespace Selector

variable {s : Selector}

/-- The names of a selector that was checked are all different. -/
theorem nodup_of_check {source : Source} {v : Value} (h : Selector.check source v = .valid s) :
    (s.labels.map Prod.fst).Nodup := by
  obtain ⟨entries, -, h⟩ := Schema.record_eq_valid h
  obtain ⟨labels, hlabels, rfl⟩ := Checked.map_eq_valid_iff.1 (Schema.closed_eq_valid h)
  unfold Schema.optional at hlabels
  split at hlabels
  · have hlabels := Checked.under_eq_valid_iff.1 hlabels
    unfold Schema.dict at hlabels
    split at hlabels
    · obtain ⟨pairs, -, rfl⟩ := Checked.map_eq_valid_iff.1 hlabels
      have hnil : (([] : List (String × String)).map Prod.fst).Nodup := .nil
      exact Schema.nodup_assignOnto hnil pairs
    · exact absurd hlabels Checked.fail_ne_valid
  · cases hlabels
    exact .nil

/-- The label names are whole texts. -/
def IsWhole (s : Selector) : Prop := ∀ label ∈ s.labels, Text.hasHalf label.1 = false

theorem isWhole_replayed (s : Selector) : s.replayed.IsWhole := by
  intro label hlabel
  rcases Schema.mem_of_mem_assignOnto hlabel with hnil | hmem
  · cases hnil
  · obtain ⟨_, _, rfl⟩ := List.mem_map.1 hmem
    exact Text.hasHalf_replaceHalves _

theorem replayed_eq_self (hnodup : (s.labels.map Prod.fst).Nodup) (h : s.IsWhole) :
    s.replayed = s := by
  have hlabels : s.labels.map (fun label => (Text.replaceHalves label.1, label.2)) = s.labels := by
    conv_rhs => rw [← s.labels.map_id]
    refine List.map_congr_left fun label hlabel => ?_
    exact Prod.ext (Text.replaceHalves_eq_self (h label hlabel)) rfl
  calc s.replayed
      = ⟨Schema.assignOnto [] (s.labels.map fun label => (Text.replaceHalves label.1, label.2))⟩ :=
        rfl
    _ = ⟨s.labels⟩ := by rw [hlabels, Schema.assignOnto_of_nodup hnodup, List.nil_append]

/-- Labels are recorded as they are exactly if their names are whole. -/
theorem replayed_eq_self_iff (hnodup : (s.labels.map Prod.fst).Nodup) :
    s.replayed = s ↔ s.IsWhole :=
  ⟨fun heq => heq ▸ s.isWhole_replayed, replayed_eq_self hnodup⟩

end Selector

/-! ## What becomes of a declaration -/

namespace Declaration

/-- What the program makes of a declaration: it gives it a project or a value, and fills its unset
fields from what was read. -/
inductive Becomes (d : Declaration) : Declaration → Prop
  | same : Becomes d d
  | located {d' : Declaration} (h : Becomes d d') (id : Int) : Becomes d (d'.withProject id)
  | revealed {d' : Declaration} (h : Becomes d d') (value : String) : Becomes d (d'.withValue value)
  | initialized {d' : Declaration} (h : Becomes d d') (o : Observed) : Becomes d (d'.initialized o)

variable {d d' : Declaration}

/-- What becomes of a well-formed declaration is well-formed. -/
theorem Becomes.wellFormed (h : d.Becomes d') (hwf : d.WellFormed) : d'.WellFormed := by
  induction h with
  | same => exact hwf
  | located _ _ ih | revealed _ _ ih | initialized _ _ ih => exact ih.withParameters rfl rfl rfl

/-- Nothing that happens to a declaration touches its labels. -/
theorem Becomes.selector (h : d.Becomes d') :
    d'.parameters.selector = d.parameters.selector := by
  induction h with
  | same => rfl
  | located _ _ ih | revealed _ _ ih => exact ih
  | initialized _ _ ih => exact ih

theorem Becomes.trans {d'' : Declaration} (h : d.Becomes d') (h' : d'.Becomes d'') :
    d.Becomes d'' := by
  induction h' with
  | same => exact h
  | located _ id ih => exact ih.located id
  | revealed _ value ih => exact ih.revealed value
  | initialized _ o ih => exact ih.initialized o

/-- Loading a file gives projects and values. -/
theorem becomes_settled (projects : List Project) (env : Environment) (dotenv : DotenvValues)
    (d : Declaration) : d.Becomes (d.settled projects env dotenv) := by
  have hlocated : d.Becomes (d.located projects) := by
    rcases d.located_eq projects with heq | ⟨id, -, heq⟩
    · rw [heq]
      exact .same
    · rw [heq]
      exact .located .same id
  unfold settled
  rcases (d.located projects).revealed_eq env dotenv with heq | ⟨value, heq⟩
  · rw [heq]
    exact hlocated
  · rw [heq]
    exact hlocated.revealed value

/-- What was written and read differs in the selector at most. -/
theorem replayed_eq_self_iff : d.replayed = d ↔
    ∀ s, d.parameters.selector = some s → s.replayed = s := by
  have hselector : d.replayed = d ↔
      d.parameters.selector.map Selector.replayed = d.parameters.selector := by
    refine ⟨congrArg fun x : Declaration => x.parameters.selector, fun heq => ?_⟩
    unfold replayed Parameters.replayed
    rw [heq]
  rw [hselector]
  cases d.parameters.selector with
  | none => exact ⟨nofun, fun _ => rfl⟩
  | some s => simp only [Option.map_some, Option.some.injEq, forall_eq']

/-- The change that is planned for a declaration records what became of it. -/
theorem record_of_origin {store : Store} {destroy : Bool} {c : Change} (hwf : d.WellFormed)
    (h : Planning.Origin store d destroy c) :
    ∃ d', d.Becomes d' ∧ c.desired = some d'.dumpFields ∧ c.declared? = some d'.replayed := by
  have hdeclared {d' : Declaration} (hbecomes : d.Becomes d')
      (hdesired : c.desired = some d'.dumpFields) : c.declared? = some d'.replayed := by
    unfold Change.declared?
    rw [hdesired, Option.bind_some, check_dumpFields (hbecomes.wellFormed hwf) .data]
  cases h with
  | creation | deletion => exact ⟨d, .same, rfl, hdeclared .same rfl⟩
  | @comparison e o =>
    have hbecomes : d.Becomes (d.initialized o) := .initialized .same o
    exact ⟨d.initialized o, hbecomes, rfl, hdeclared hbecomes rfl⟩

/-- **Recorded declarations.** Whatever becomes of a declaration that was checked, its record is
accepted: it has the address, and every field as it was, but for the label names of a selector,
which are whole texts then; it is the declaration itself where they were before. Loading a file and
planning do nothing else to a declaration, so every change of a plan records one that can be read
again. -/
theorem record_replays {source : Source} {v : Value}
    (hd : Declaration.check source v = .valid d) (h : d.Becomes d') :
    Declaration.check .data (.ofJson (.obj d'.dumpFields)) = .valid d'.replayed ∧
    d'.replayed.address = d'.address ∧
    d'.replayed = { d' with parameters :=
      { d'.parameters with selector := d'.parameters.selector.map Selector.replayed } } ∧
    (d'.replayed = d' ↔ ∀ s, d'.parameters.selector = some s →
      ∀ label ∈ s.labels, Text.hasHalf label.1 = false) ∧
    (∀ projects env dotenv, d.Becomes (d'.settled projects env dotenv)) ∧
    ∀ (provider : Provider) now destroy ds (s s' : Session) (p : Plan), d' ∈ ds →
      (Planning.plan provider now destroy ds).outcome s = (.ok p, s') →
      ∀ c ∈ p.changes, c.address = d'.address →
        ∃ d'', d.Becomes d'' ∧ c.desired = some d''.dumpFields ∧
          c.declared? = some d''.replayed := by
  have hwf : d'.WellFormed := h.wellFormed (wellFormed_of_check hd)
  refine ⟨check_dumpFields hwf .data, rfl, rfl, ?_,
    fun projects env dotenv => h.trans (becomes_settled projects env dotenv d'), ?_⟩
  · rw [replayed_eq_self_iff]
    refine forall₂_congr fun s hs => Selector.replayed_eq_self_iff ?_
    obtain ⟨-, _, hp⟩ := members_of_check hd
    obtain ⟨-, -, -, hselector⟩ := Parameters.members_of_check hp
    obtain ⟨_, hs⟩ := hselector s (h.selector ▸ hs)
    exact Selector.nodup_of_check hs
  · intro provider now destroy ds s s' p hmem hplan c hc haddress
    obtain ⟨-, -, horigin⟩ := Planning.origin_of_plan hplan
    obtain ⟨other, hother, horigin⟩ := horigin c hc
    -- Addresses are unique, so the change was planned for this declaration.
    obtain ⟨hnodup, -⟩ :=
      Planning.duplicateAddress?_eq_none_iff.1 (Planning.ready_of_outcome hplan).addresses
    have heq : other = d' :=
      List.inj_on_of_nodup_map hnodup hother hmem (horigin.address_eq.symm.trans haddress)
    rw [heq] at horigin
    obtain ⟨d'', hbecomes, hrecord⟩ := record_of_origin hwf horigin
    exact ⟨d'', h.trans hbecomes, hrecord⟩

/-- Labels in an order that is not the alphabetical one, and a project number of 31 digits. -/
theorem record_replays_of_labels :
    let d : Declaration := ⟨"a", "about a",
      { key := "K", secret := some ⟨"TOKEN"⟩, kind := some .file, masked := some false,
        scope := some "", projectId := none, reference := some ⟨"infra"⟩,
        selector := some ⟨[("team", "x"), ("app", "")]⟩ }⟩
    let d' := (d.withProject 1000000000000000000000000000000).withValue ""
    ∃ v, Declaration.check .data v = .valid d ∧ d.Becomes d' ∧
      Declaration.check .data (.ofJson (.obj d'.dumpFields)) = .valid d' := by
  intro d d'
  let v : Value := .map
    [(.text "name", .text "a"), (.text "description", .text "about a"),
      (.text "for_provider", .map
        [(.text "key", .text "K"), (.text "value_secret_ref", .map [(.text "env", .text "TOKEN")]),
          (.text "variable_type", .text "file"), (.text "masked", .bool false),
          (.text "environment_scope", .text ""),
          (.text "project_id_ref", .map [(.text "name", .text "infra")]),
          (.text "project_id_selector", .map [(.text "match_labels", .map
            [(.text "team", .text "x"), (.text "app", .text "")])])])]
  have hd : Declaration.check .data v = .valid d := rfl
  have h : d.Becomes d' := .revealed (.located .same _) _
  obtain ⟨hreplayed, -, -, hsame, -⟩ := record_replays hd h
  have heq : d'.replayed = d' := hsame.2 (by rintro s ⟨⟩; decide)
  exact ⟨v, hd, h, heq ▸ hreplayed⟩

/-- A label name that is half of a surrogate pair is another one afterwards. -/
theorem half_of_label_is_replaced :
    let half : String := String.singleton (Text.charOf 0xD800)
    let d : Declaration := ⟨"a", "",
      { key := "K", value := some "v", projectId := some 1, selector := some ⟨[(half, "x")]⟩ }⟩
    let d' : Declaration := ⟨"a", "",
      { key := "K", value := some "v", projectId := some 1,
        selector := some ⟨[("\uFFFD\uFFFD\uFFFD", "x")]⟩ }⟩
    (∃ v, Declaration.check .data v = .valid d) ∧ d.Becomes d ∧
      Declaration.check .data (.ofJson (.obj d.dumpFields)) = .valid d' ∧ d' ≠ d := by
  intro half d d'
  let v : Value := .map
    [(.text "name", .text "a"),
      (.text "for_provider", .map
        [(.text "key", .text "K"), (.text "value", .text "v"), (.text "project_id", .int 1),
          (.text "project_id_selector", .map [(.text "match_labels", .map
            [(.text half, .text "x")])])])]
  have hd : Declaration.check .data v = .valid d := rfl
  have hreplayed : d.replayed = d' := by decide
  exact ⟨⟨v, hd⟩, .same, hreplayed ▸ check_dumpFields (wellFormed_of_check hd) .data, by decide⟩

end Declaration

end CiVariables
