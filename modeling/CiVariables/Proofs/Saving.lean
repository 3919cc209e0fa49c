import CiVariables.Proofs.Approval
import CiVariables.Proofs.Files
import CiVariables.Proofs.Limits
import CiVariables.Proofs.Sending
import CiVariables.Proofs.Timestamps
import CiVariables.Proofs.Utf8

/-!
# Saved plans are loaded

A plan of plain data that was made at a point in universal time is loaded from the file that it was
saved in, and so carried out alike, if it keeps to the limits of the reader. Beyond them the file is
refused (`Cli.Command.saved_plan_is_loaded`). No link of the way back depends on the plan: the text
of plain data is read as the data, the bytes of a text are decoded to it, and a file is read as it
was written.
-/

namespace CiVariables

-- A power is the one of the core library, whatever else is imported.
attribute [local instance (2000)] instPowNat

/-! ## The text of a plan -/

namespace Plan

variable {p : Plan}

/-- The records are plain data, and the plan was made at a point in universal time. -/
structure Plain (p : Plan) : Prop where
  recorded : p.Recorded
  created : p.metadata.createdAt.IsUniversal

/-- Text that is beyond the limits of the reader counts as no JSON at all. -/
def refusal : Failure := .schema "Plan" [⟨[], .jsonInvalid⟩]

/-- A plan is read back from its text within the limits of the reader. -/
theorem ofText_of_plain (h : p.Plain) {text : String} (htext : p.toText = .ok text)
    (now : Timestamp) : Plan.ofText now text =
      if p.dump.fits readLimits 0 then .ok p else .error refusal := by
  have htime := Schema.timestamp_text (Timestamp.hasHalf_toText h.created)
    (Timestamp.readFull?_toText h.created) (Nat.ne_of_gt h.created.year.1) .text
  rw [ofText_toText h.recorded htext, PlanMetadata.check_dump htime]
  rfl

end Plan

/-! ## The file -/

namespace Cli.Command

variable {p : Plan} {setting : Setting} {path : String} {sh sh' : Shell}

/-- A plan that was written is read back from its text. -/
theorem readPlan_of_write {files written : Files} {text : String}
    (h : files.write path text.toUTF8.toList = .ok written) (hreturn : '\r' ∉ text.toList)
    (now : Timestamp) : readPlan now written path = Plan.ofText now text := by
  unfold readPlan
  rw [Files.read_of_write h]
  simp only [bind, Except.bind, Utf8.decode_toUTF8, Utf8.unifyNewlines_of_not_mem hreturn,
    String.ofList_toList]

/-- What is loaded from the file that a plan was saved in. -/
theorem readPlan_of_savePlan (h : p.Plain)
    (hsave : (savePlan setting p path).outcome sh = (.ok (), sh')) (now : Timestamp) :
    readPlan now sh'.files path =
      if p.dump.fits Plan.readLimits 0 then .ok p else .error Plan.refusal := by
  obtain ⟨-, hwritten⟩ := savePlan_cases hsave
  obtain ⟨parents, text, -, htext, hwrite⟩ := hwritten rfl
  have hreturn : '\r' ∉ text.toList := by
    obtain ⟨-, rfl⟩ := Plan.whole_of_toText htext
    have hpretty := (Plan.regular_dump h.recorded).return_not_mem 0
    simp [Json.pretty, hpretty]
  rw [readPlan_of_write hwrite hreturn, Plan.ofText_of_plain h htext]

/-- What is told when a plan has been saved. -/
def savedNote (path : String) : String :=
  "\nPlan saved to " ++ path ++ " (contains variable values in clear text)"

/-- Saving succeeds where the file can be written and the path can be told. -/
theorem savePlan_of_write (setting : Setting) (path : String) (sh : Shell) {parents files : Files}
    {text : String}
    (hparents : sh.files.makeParents path = .ok parents) (htext : p.toText = .ok text)
    (hwrite : parents.write path text.toUTF8.toList = .ok files)
    (htold : Script.unwritable? (Script.shown setting (savedNote path ++ "\n")) = none) :
    ∃ sh', (savePlan setting p path).outcome sh = (.ok (), sh') := by
  have hline := Script.outcome_line htold { sh with files := files }
  unfold savePlan
  rw [Script.outcome_bind_ok (Script.outcome_get sh),
    Script.outcome_bind_ok (Script.outcome_unguarded hparents sh),
    Script.outcome_bind_ok (Script.outcome_set _ _),
    Script.outcome_bind_ok (Script.outcome_unguarded htext _),
    Script.outcome_bind_ok (Script.outcome_unguarded hwrite _),
    Script.outcome_bind_ok (Script.outcome_set _ _)]
  exact ⟨_, hline⟩

end Cli.Command

/-! ## Saving and loading -/

/-- The plan was made for declarations, at a point in universal time. -/
def Planning.Made (ds : List Declaration) (p : Plan) : Prop :=
  ∃ (provider : Provider) (now : Timestamp) (destroy : Bool) (s s' : Session),
    now.IsUniversal ∧ (plan provider now destroy ds).outcome s = (.ok p, s')

theorem Planning.Made.plain {ds : List Declaration} {p : Plan} (h : Made ds p) : p.Plain := by
  obtain ⟨provider, now, destroy, s, s', hnow, hplan⟩ := h
  exact ⟨recorded_of_plan hplan, by rwa [metadata_of_outcome hplan]⟩

namespace Cli.Command

/-- **Saved plans are loaded.** A plan of plain data is loaded from the file that it was saved in
exactly if it is within the limits of the reader, and refused as no JSON otherwise; what is loaded
is carried out as what was saved. A plan that was made is plain, and within the limits unless the
number of a project is too long. -/
theorem saved_plan_is_loaded {p : Plan} (h : p.Plain ∨ ∃ ds, Planning.Made ds p)
    (setting : Setting) (path : String) (later : Timestamp) :
    (p.dump.Whole → p.dump.fits Plan.readLimits 0 = true → ∃ text, p.toText = .ok text) ∧
    (∀ sh sh', (savePlan setting p path).outcome sh = (.ok (), sh') →
      (readPlan later sh'.files path =
        if p.dump.fits Plan.readLimits 0 then .ok p else .error Plan.refusal) ∧
      ∀ q, readPlan later sh'.files path = .ok q →
        ∀ (provider : Provider) (follower : Option Applying.Follower) (s : Session),
          (Applying.apply provider follower q).outcome s =
            (Applying.apply provider follower p).outcome s) ∧
    ∀ ds, Planning.Made ds p → (∀ d ∈ ds, d.parameters.ShortId Plan.readLimits) →
      p.dump.fits Plan.readLimits 0 = true := by
  have hplain : p.Plain := h.elim id fun ⟨_, hmade⟩ => hmade.plain
  refine ⟨fun hwhole _ => ⟨_, Plan.toText_of_whole hwhole⟩, fun sh sh' hsave => ?_, ?_⟩
  · have hload := readPlan_of_savePlan hplain hsave later
    refine ⟨hload, fun q hq provider follower s => ?_⟩
    rw [hload] at hq
    split at hq
    · cases hq
      rfl
    · cases hq
  · rintro ds ⟨provider, now, destroy, s, s', -, hplan⟩ hids
    exact Planning.fits_of_plan hplan hids

/-- Color is shown, so that what is told is told as it is. -/
def colored : Setting := { now := default, showsColor := true }

theorem isUniversal_noon : Planning.addAndChange.metadata.createdAt.IsUniversal :=
  ⟨by decide, by decide, by decide, by decide, by decide, by decide, rfl⟩

/-- The plan of a creation and an update is saved and loaded. -/
theorem saved_plan_is_loaded_of_addAndChange :
    (∃ ds, Planning.Made ds Planning.addAndChange) ∧ ∃ sh',
      (savePlan colored Planning.addAndChange "plans/plan.json").outcome {} = (.ok (), sh') ∧
      readPlan default sh'.files "plans/plan.json" = .ok Planning.addAndChange := by
  obtain ⟨s₁, -, -, -, hplan⟩ := Planning.outcome_plan_addAndChange
  have hmade : ∃ ds, Planning.Made ds Planning.addAndChange :=
    ⟨_, _, _, _, _, s₁, isUniversal_noon, hplan⟩
  obtain ⟨hsaves, hloads, -⟩ :=
    saved_plan_is_loaded (.inr hmade) colored "plans/plan.json" default
  obtain ⟨text, htext⟩ := hsaves Planning.whole_addAndChange Planning.fits_addAndChange
  obtain ⟨sh', hsave⟩ := savePlan_of_write colored "plans/plan.json" {} rfl htext rfl (by decide)
  obtain ⟨hload, -⟩ := hloads {} sh' hsave
  exact ⟨hmade, sh', hsave, by rw [hload, if_pos Planning.fits_addAndChange]⟩

/-! ## Beyond the limits -/

/-- A list in a list in a list, and so on, around null. -/
def nested : Nat → Json
  | 0 => .null
  | n + 1 => .arr [nested n]

/-- Nested arrays are written and read as any other value. -/
theorem regular_nested (n : Nat) : (nested n).Regular := by
  induction n with
  | zero => exact .null
  | succ n ih => exact .arr (List.forall_mem_singleton.2 ih)

theorem texts_nested (n : Nat) : (nested n).texts = [] := by
  induction n with
  | zero => rfl
  | succ n ih => simp [nested, Json.texts, Json.textsOfItems, ih]

/-- Nested arrays fit exactly as long as they are not too deep. -/
theorem fits_nested (limits : ReadLimits) (n depth : Nat) :
    (nested (n + 1)).fits limits depth = decide (depth + n < limits.depth) := by
  induction n generalizing depth with
  | zero => simp [nested, Json.fits, Json.fitsItems]
  | succ n ih =>
    rw [nested, Json.fits, Json.fitsItems, Json.fitsItems, ih, Bool.and_true, ← Bool.decide_and]
    exact decide_eq_decide.2 (by omega)

/-- An integer with too many digits does not fit. -/
theorem fits_int_of_le {limits : ReadLimits} {n : Nat} (hdigits : 0 < limits.digits)
    (h : 10 ^ limits.digits ≤ n) (depth : Nat) : (Json.int n).fits limits depth = false := by
  have hlong : ¬(Nat.toDigits 10 n).length ≤ limits.digits := fun hle =>
    Nat.not_lt.2 h ((Nat.length_toDigits_le_iff (by decide) hdigits).1 hle)
  exact decide_eq_false hlong

/-- A plan that keeps one variable, with a value in the record of what is desired. -/
def keptPlan (j : Json) : Plan :=
  ⟨Planning.addAndChange.metadata,
    [{ address := "gitlab_project_variable.a", resourceType := variableType, action := .keep
       desired := some [("x", j)] }]⟩

theorem plain_keptPlan {j : Json} (h : j.Regular) : (keptPlan j).Plain := by
  refine ⟨List.forall_mem_singleton.2 ⟨?_, nofun, nofun, nofun⟩, isUniversal_noon⟩
  rintro fields ⟨⟩
  exact Json.regular_obj ["x"] rfl (by decide) (by decide) (List.forall_mem_singleton.2 h)

theorem whole_keptPlan {j : Json} (h : j.texts = []) : (keptPlan j).dump.Whole := by
  intro s hs
  simp only [keptPlan, Planning.addAndChange, Plan.dump, PlanMetadata.dump, Change.dump,
    Change.dumpFields, Json.ofOption, List.map_cons, List.map_nil, Json.texts, Json.textsOfFields,
    Json.textsOfItems, h, List.append_nil, List.nil_append, List.cons_append, List.mem_cons,
    List.not_mem_nil, or_false] at hs
  obtain rfl | rfl | rfl | rfl | rfl := hs <;> decide

theorem fits_keptPlan {j : Json} (h : j.fits Plan.readLimits 4 = false) :
    (keptPlan j).dump.fits Plan.readLimits 0 = false := by
  simp [keptPlan, Plan.dump, Change.dump, Change.dumpFields, Json.ofOption, Json.fits,
    Json.fitsFields, Json.fitsItems, h]

/-- What is nested too deeply, and a number that is too long, is saved but not loaded. Half of a
surrogate pair is not even saved. -/
theorem plain_plans_are_refused :
    (∀ j ∈ [nested 210, .int (10 ^ Plan.readLimits.digits : Nat)], (keptPlan j).Plain ∧ ∃ sh',
      (savePlan colored (keptPlan j) "plan.json").outcome {} = (.ok (), sh') ∧
      ∀ later, readPlan later sh'.files "plan.json" = .error Plan.refusal) ∧
    let half : Json := .str (String.singleton (Text.charOf 0xD800))
    (keptPlan half).Plain ∧ (keptPlan half).toText = .error (.unsavable 0xD800 0 0) := by
  have hrefused {j : Json} (hregular : j.Regular) (htexts : j.texts = [])
      (hfits : j.fits Plan.readLimits 4 = false) : (keptPlan j).Plain ∧ ∃ sh',
        (savePlan colored (keptPlan j) "plan.json").outcome {} = (.ok (), sh') ∧
        ∀ later, readPlan later sh'.files "plan.json" = .error Plan.refusal := by
    obtain ⟨sh', hsave⟩ := savePlan_of_write colored "plan.json" {} rfl
      (Plan.toText_of_whole (whole_keptPlan htexts)) rfl (by decide)
    refine ⟨plain_keptPlan hregular, sh', hsave, fun later => ?_⟩
    rw [readPlan_of_savePlan (plain_keptPlan hregular) hsave, fits_keptPlan hfits]
    rfl
  have hnested := hrefused (regular_nested 210) (texts_nested 210) (fits_nested _ 209 4)
  have hlong := hrefused (.int _) rfl (fits_int_of_le (by decide) (Nat.le_refl _) 4)
  exact ⟨List.forall_mem_cons.2 ⟨hnested, List.forall_mem_singleton.2 hlong⟩,
    plain_keptPlan (.str _), rfl⟩

end Cli.Command

end CiVariables
