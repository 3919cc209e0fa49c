import CiVariables.Plan.File
import CiVariables.Proofs.JsonText
import CiVariables.Proofs.Origins

/-!
# Plan files are read back

A plan whose records are plain (`Plan.Recorded`) is read back from the text it was saved as with the
changes it had. Whether it is read at all depends on the limits of the reader and on the time when
it was made (`Plan.ofText_toText`).
-/

namespace CiVariables

open Schema (Checked Source Value)

/-! ## Whole texts -/

namespace Text

theorem hasHalf_of_firstHalves?_none {s : String} (h : firstHalves? s = none) :
    hasHalf s = false := by
  have hwhole : ∀ {cs : List Char},
      ((cs.drop (cs.takeWhile fun c => !isHalf c).length).takeWhile isHalf).head? = none →
        cs.any isHalf = false := by
    intro cs hnone
    induction cs with
    | nil => rfl
    | cons c cs ih =>
      cases hc : isHalf c with
      | true => simp [List.takeWhile, hc] at hnone
      | false =>
        rw [List.any_cons, hc, Bool.false_or]
        exact ih (by simpa [List.takeWhile, hc] using hnone)
  exact hwhole (by simpa [firstHalves?] using h)

theorem firstHalves?_eq_none {s : String} (h : hasHalf s = false) : firstHalves? s = none := by
  have hbefore : (s.toList.takeWhile fun c => !isHalf c) = s.toList := by
    have hwhole : ∀ c ∈ s.toList, (!isHalf c) = true := by simpa [hasHalf] using h
    have htake : (s.toList ++ []).takeWhile _ = _ := List.takeWhile_append_of_pos hwhole
    simpa using htake
  simp [firstHalves?, hbefore]

theorem hasHalf_replaceHalves (s : String) : hasHalf (replaceHalves s) = false := by
  have hchars : ∀ c ∈ s.toList,
      (if isHalf c then ['\uFFFD', '\uFFFD', '\uFFFD'] else [c]).any isHalf = false := by
    intro c _
    cases hc : isHalf c with
    | true => rfl
    | false => simp [hc]
  simp only [hasHalf, replaceHalves, String.toList_ofList, List.any_flatMap]
  exact List.any_eq_false.2 fun c hc => by rw [hchars c hc]; exact Bool.false_ne_true

end Text

/-! ## Data of any shape -/

namespace Schema.Value

mutual

/-- A value is read back from its form in memory. -/
theorem toJson_ofJson : (j : Json) → (ofJson j).toJson = j
  | .null | .bool _ | .int _ | .float _ | .str _ => rfl
  | .arr items => by rw [ofJson, toJson, toItems_ofItems]
  | .obj fields => by rw [ofJson, toJson, toFields_ofFields]

theorem toItems_ofItems : (items : List Json) → toItems (ofItems items) = items
  | [] => rfl
  | j :: rest => by rw [ofItems, toItems, toJson_ofJson, toItems_ofItems]

theorem toFields_ofFields : (fields : List (String × Json)) → toFields (ofFields fields) = fields
  | [] => rfl
  | (k, j) :: rest => by rw [ofFields, toFields, toJson_ofJson, toFields_ofFields]

end

end Schema.Value

theorem Schema.textEntries_json (fields : Fields) :
    Schema.textEntries (fun v => .valid v.toJson) (Value.ofFields fields) = .valid fields := by
  induction fields with
  | nil => rfl
  | cons field rest ih =>
    obtain ⟨k, j⟩ := field
    rw [Value.ofFields, Schema.textEntries, ih, Value.toJson_ofJson]
    rfl

/-- A record without repeated names is accepted as it is. -/
theorem anyObject_ofJson {fields : Fields} (h : (fields.map Prod.fst).Nodup) (source : Source) :
    anyObject source (Value.ofJson (.obj fields)) = .valid fields := by
  rw [anyObject, Value.ofJson, Schema.dict, Schema.textEntries_json]
  exact congrArg Checked.valid (Schema.assignOnto_of_nodup h)

theorem Action.check_text (a : Action) :
    Action.check (Value.ofJson (.str a.text)) = .valid a := by
  rw [Value.ofJson]
  cases a <;> rfl

theorem Schema.forItems_ofItems {α : Type} {check : Value → Checked α} {dump : α → Json}
    {as : List α} (h : ∀ a ∈ as, check (Value.ofJson (dump a)) = .valid a) (i : Int) :
    Checked.forItems check i (Value.ofItems (as.map dump)) = .valid as := by
  induction as generalizing i with
  | nil => rfl
  | cons a rest ih =>
    obtain ⟨ha, hrest⟩ := List.forall_mem_cons.1 h
    rw [List.map_cons, Value.ofItems, Checked.forItems, ha, ih hrest]
    rfl

/-! ## Changes -/

/-- The records of a change can be written and read: they are plain data. -/
structure Change.Recorded (c : Change) : Prop where
  desired : ∀ fields, c.desired = some fields → (Json.obj fields).Regular
  prior : ∀ fields, c.prior = some fields → (Json.obj fields).Regular
  planned : ∀ fields, c.planned = some fields → (Json.obj fields).Regular
  diff : ∀ fields, c.diff = some fields → (Json.obj fields).Regular

namespace Change

/-- A recorded change passes its check as it is. -/
theorem check_dump {c : Change} (h : c.Recorded) (source : Source) :
    Change.check source (Value.ofJson c.dump) = .valid c := by
  have hmay {name : String} (record? : Option Fields)
      (hname : c.dumpFields.get? name = some (.ofOption .obj record?))
      (hrecord : ∀ fields, record? = some fields → (Json.obj fields).Regular) :
      Schema.optional (Value.ofFields c.dumpFields) name none
        (Schema.nullable (anyObject source)) = .valid record? := by
    rw [Schema.optional_ofFields hname, Schema.nullable_ofOption (g := id) (by simp) record? ?_]
    · simp
    · intro fields hfields
      cases hrecord fields hfields with
      | obj hnodup => exact anyObject_ofJson hnodup source
  rw [dump, Value.ofJson, check, Schema.record]
  simp only
  rw [Schema.required_ofFields (j := .str c.address) rfl,
    Schema.required_ofFields (j := .str c.resourceType) rfl,
    Schema.required_ofFields (j := .str c.action.text) rfl, Action.check_text,
    hmay c.desired rfl h.desired, hmay c.prior rfl h.prior, hmay c.planned rfl h.planned,
    hmay c.diff rfl h.diff]
  simp

/-- The members of a change are written under distinct names. -/
theorem regular_dump {c : Change} (h : c.Recorded) : c.dump.Regular := by
  refine Json.regular_obj ["address", "resource_type", "action", "desired", "prior",
    "planned", "diff"] rfl (by decide) (by decide) ?_
  simp only [dumpFields, List.forall_mem_cons]
  exact ⟨.str _, .str _, .str _, .ofOption h.desired, .ofOption h.prior, .ofOption h.planned,
    .ofOption h.diff, nofun⟩

end Change

/-! ## Plans -/

theorem PlanMetadata.regular_dump (m : PlanMetadata) : m.dump.Regular := by
  refine Json.regular_obj ["host", "created_at", "destroy", "engine_version"] rfl
    (by decide) (by decide) ?_
  simp only [List.forall_mem_cons]
  exact ⟨.ofOption fun host _ => .str host, .str _, .bool _, .str _, nofun⟩

/-- A full date and time is read as it is. -/
theorem Schema.timestamp_text {s : String} {t : Timestamp} (hwhole : Text.hasHalf s = false)
    (hfull : Timestamp.readFull? s.toList = some t) (hyear : t.year ≠ 0) (source : Source) :
    Schema.timestamp source (.text s) = .valid t := by
  have htext : Timestamp.ofText? s = some t := by
    unfold Timestamp.ofText?
    simp only [hfull]
  simp [Schema.timestamp, hwhole, htext, Schema.timestamp.valid, hyear]

theorem PlanMetadata.check_dump {m : PlanMetadata} {source : Source}
    (h : Schema.timestamp source (.text m.createdAt.toText) = .valid m.createdAt)
    (now : Timestamp) : PlanMetadata.check source now (Value.ofJson m.dump) = .valid m := by
  rw [dump, Value.ofJson, check, Schema.record,
    Schema.optional_ofFields (j := .ofOption .str m.host) rfl,
    Schema.nullable_ofOption (g := id) (by simp) m.host (by simp),
    Schema.optional_ofFields (j := .str m.createdAt.toText) rfl, Value.ofJson, h,
    Schema.required_ofFields (j := .bool m.destroy) rfl,
    Schema.required_ofFields (j := .str m.engineVersion) rfl]
  simp

namespace Plan

/-- The records of all changes are plain data. -/
def Recorded (p : Plan) : Prop := ∀ c ∈ p.changes, c.Recorded

variable {p : Plan}

theorem regular_dump (h : p.Recorded) : p.dump.Regular := by
  refine Json.regular_obj ["metadata", "changes"] rfl (by decide) (by decide) ?_
  simp only [List.forall_mem_cons]
  refine ⟨p.metadata.regular_dump, .arr ?_, nofun⟩
  rintro j hj
  obtain ⟨c, hc, rfl⟩ := List.mem_map.1 hj
  exact Change.regular_dump (h c hc)

/-- The changes are read as they are; when the plan was made is read again. -/
theorem check_dump (h : p.Recorded) (source : Source) (now : Timestamp) :
    Plan.check source now (Value.ofJson p.dump) =
      ((PlanMetadata.check source now (Value.ofJson p.metadata.dump)).under
        (.name "metadata")).map fun m => ⟨m, p.changes⟩ := by
  have hchanges : Schema.list source (Change.check source)
      (Value.ofJson (.arr (p.changes.map Change.dump))) = .valid p.changes := by
    rw [Value.ofJson, Schema.list]
    exact Schema.forItems_ofItems (fun c hc => Change.check_dump (h c hc) source) 0
  rw [dump, Value.ofJson, check, Schema.record,
    Schema.required_ofFields (j := p.metadata.dump) rfl,
    Schema.required_ofFields (j := .arr (p.changes.map Change.dump)) rfl, hchanges]
  cases PlanMetadata.check source now (Value.ofJson p.metadata.dump) <;> rfl

/-- A plan whose texts are whole can be saved. -/
theorem toText_of_whole (h : p.dump.Whole) : p.toText = .ok (p.dump.pretty ++ "\n") := by
  have hnone : p.dump.texts.findSome? Text.firstHalves? = none :=
    List.findSome?_eq_none_iff.2 fun s hs => Text.firstHalves?_eq_none (h s hs)
  rw [toText, hnone]

/-- What a saved plan holds can be written. -/
theorem whole_of_toText {text : String} (h : p.toText = .ok text) :
    p.dump.Whole ∧ text = p.dump.pretty ++ "\n" := by
  unfold toText at h
  split at h
  · cases h
  · next hnone =>
    cases h
    exact ⟨fun s hs => Text.hasHalf_of_firstHalves?_none (List.findSome?_eq_none_iff.1 hnone s hs),
      rfl⟩

/-- **What is read from a plan file.** Within the limits of the reader it is the plan with its
changes as they were saved. -/
theorem ofText_toText (h : p.Recorded) {text : String} (htext : p.toText = .ok text)
    (now : Timestamp) : Plan.ofText now text =
      if p.dump.fits readLimits 0 then
        match (PlanMetadata.check .text now (Value.ofJson p.metadata.dump)).under
            (.name "metadata") with
        | .valid m => .ok ⟨m, p.changes⟩
        | .invalid issues => .error (.schema "Plan" issues)
      else .error (.schema "Plan" [⟨[], .jsonInvalid⟩]) := by
  obtain ⟨hwhole, rfl⟩ := whole_of_toText htext
  unfold ofText
  rw [Json.read?_pretty (regular_dump h) hwhole]
  cases p.dump.fits readLimits 0 with
  | false => rfl
  | true =>
    simp only [if_true, check_dump h]
    cases (PlanMetadata.check .text now (Value.ofJson p.metadata.dump)).under
      (.name "metadata") <;> rfl

/-- A plan that is saved and loaded has the same changes. -/
theorem changes_ofText (h : p.Recorded) {text : String} (htext : p.toText = .ok text)
    {later : Timestamp} {q : Plan} (hq : Plan.ofText later text = .ok q) :
    q.changes = p.changes := by
  rw [ofText_toText h htext] at hq
  split at hq
  · split at hq
    · cases hq
      rfl
    · cases hq
  · cases hq

end Plan

/-! ## What the changes of a plan record -/

theorem dumpLabels_regular (labels : List (String × String)) : (dumpLabels labels).Regular := by
  have hmem : ∀ field ∈ Fields.dedup (labels.map fun l => (Text.replaceHalves l.1, .str l.2)),
      ∃ k v, field = (Text.replaceHalves k, Json.str v) := by
    intro field hfield
    obtain ⟨⟨k, v⟩, -, rfl⟩ := List.mem_map.1 (Fields.mem_of_mem_dedup hfield)
    exact ⟨k, v, rfl⟩
  refine .obj (Fields.nodup_dedup _) (fun field hfield => ?_) (fun field hfield => ?_)
  · obtain ⟨k, v, rfl⟩ := hmem field hfield
    exact Text.hasHalf_replaceHalves k
  · obtain ⟨k, v, rfl⟩ := hmem field hfield
    exact .str v

theorem Parameters.regular_record (p : Parameters) : (Json.obj p.dumpFields).Regular := by
  refine Json.regular_obj memberNames rfl (by decide) (by decide) ?_
  simp only [dumpFields, List.forall_mem_cons]
  refine ⟨.str _, .ofOption fun _ _ => .str _, .ofOption fun s _ => ?_, .ofOption fun _ _ => .str _,
    .ofOption fun _ _ => .bool _, .ofOption fun _ _ => .bool _, .ofOption fun _ _ => .str _,
    .ofOption fun _ _ => .bool _, .ofOption fun _ _ => .int _, .ofOption fun r _ => ?_,
    .ofOption fun l _ => ?_, nofun⟩
  · exact Json.regular_obj ["env"] rfl (by decide) (by decide)
      (List.forall_mem_singleton.2 (.str s.env))
  · exact Json.regular_obj ["name"] rfl (by decide) (by decide)
      (List.forall_mem_singleton.2 (.str r.name))
  · exact Json.regular_obj ["match_labels"] rfl (by decide) (by decide)
      (List.forall_mem_singleton.2 (dumpLabels_regular l.labels))

theorem Declaration.regular_record (d : Declaration) : (Json.obj d.dumpFields).Regular := by
  refine Json.regular_obj ["name", "description", "for_provider"] rfl (by decide)
    (by decide) ?_
  simp only [dumpFields, List.forall_mem_cons]
  exact ⟨.str _, .str _, d.parameters.regular_record, nofun⟩

theorem CreateRequest.regular_body (p : Parameters) :
    (Json.obj (ofParameters p).body).Regular := by
  refine Json.Regular.dropNull (Json.regular_obj ["key", "value", "variable_type",
    "protected", "masked", "environment_scope", "raw"] rfl (by decide) (by decide) ?_)
  simp only [List.forall_mem_cons]
  exact ⟨.str _, .ofOption fun _ _ => .str _, .ofOption fun _ _ => .str _,
    .ofOption fun _ _ => .bool _, .ofOption fun _ _ => .bool _, .ofOption fun _ _ => .str _,
    .ofOption fun _ _ => .bool _, nofun⟩

theorem Difference.simple_of_mem_differing {p : Parameters} {o : Observed} {difference : Difference}
    (h : difference ∈ p.differing o) : difference.before.Simple ∧ difference.after.Simple := by
  obtain h | h | h | h | h | h | h := Parameters.mem_differing_iff.1 h <;>
    obtain ⟨want, -, rfl⟩ := ofField_eq_some h
  · exact ⟨.str _, .str _⟩
  · exact ⟨.str _, .str _⟩
  · exact ⟨.str _, .str _⟩
  · exact ⟨.bool _, .bool _⟩
  · exact ⟨.bool _, .bool _⟩
  · exact ⟨.str _, .str _⟩
  · exact ⟨.bool _, .bool _⟩

/-- The differing fields, each with the value before and after. -/
theorem Difference.regular_dumpAll (p : Parameters) (o : Observed) :
    (Json.obj (dumpAll (p.differing o))).Regular := by
  have hnames : (dumpAll (p.differing o)).map Prod.fst = (p.differing o).map Difference.field := by
    simp [dumpAll]
  have hsublist := p.names_differing_sublist o
  refine .obj ?_ (fun field hfield => ?_) (fun field hfield => ?_)
  · rw [hnames]
    exact List.Nodup.sublist hsublist (by decide)
  · have hwhole : ∀ name ∈ comparedNames, Text.hasHalf name = false := by decide
    exact hwhole field.1 (hsublist.subset (hnames ▸ List.mem_map_of_mem hfield))
  · obtain ⟨difference, hmem, rfl⟩ := List.mem_map.1 hfield
    obtain ⟨hbefore, hafter⟩ := simple_of_mem_differing hmem
    refine Json.regular_obj ["from", "to"] rfl (by decide) (by decide) ?_
    simp only [List.forall_mem_cons]
    exact ⟨hbefore.regular, hafter.regular, nofun⟩

namespace Planning

/-- What is planned is recorded: it can be read back from a plan file. -/
theorem Origin.recorded {store : Store} {d : Declaration} {destroy : Bool} {c : Change}
    (h : Origin store d destroy c) : c.Recorded := by
  cases h with
  | creation =>
    constructor
    · rintro fields ⟨⟩
      exact d.regular_record
    · nofun
    · rintro fields ⟨⟩
      exact CreateRequest.regular_body d.parameters
    · nofun
  | @comparison e o =>
    constructor
    · rintro fields ⟨⟩
      exact Declaration.regular_record _
    · rintro fields ⟨⟩
      exact o.asParameters.regular_record.dropNull
    · nofun
    · intro fields hdiff
      rw [diff_comparison] at hdiff
      split at hdiff
      · cases hdiff
      · cases hdiff
        exact Difference.regular_dumpAll d.parameters o
  | @deletion e o =>
    constructor
    · rintro fields ⟨⟩
      exact d.regular_record
    · rintro fields ⟨⟩
      exact o.asParameters.regular_record.dropNull
    · nofun
    · nofun

/-- A plan that was made can be written and read. -/
theorem recorded_of_plan {provider : Provider} {now : Timestamp} {destroy : Bool}
    {ds : List Declaration} {s s' : Session} {p : Plan}
    (h : (plan provider now destroy ds).outcome s = (.ok p, s')) : p.Recorded := by
  intro c hc
  obtain ⟨-, -, horigin⟩ := origin_of_plan h
  obtain ⟨d, -, horigin⟩ := horigin c hc
  exact horigin.recorded

end Planning

end CiVariables
