import CiVariables.Proofs.PlanFile

/-!
# Plans that were made keep to the limits of plan files

The records of a plan that was made are nested a few levels deep, and the only numbers in them are
those of projects. So such a plan is within the limits of the reader as soon as these numbers are
(`Planning.fits_of_plan`).
-/

namespace CiVariables

variable {limits : ReadLimits} {depth : Nat}

/-! ## Values within limits -/

namespace Json

theorem Simple.fits {j : Json} (h : j.Simple) : j.fits limits depth = true := by
  cases h <;> rfl

theorem fitsItems_iff {items : List Json} :
    fitsItems limits depth items = true ↔ ∀ j ∈ items, j.fits limits depth = true := by
  induction items with
  | nil => simp [fitsItems]
  | cons j rest ih => rw [fitsItems, Bool.and_eq_true, ih, List.forall_mem_cons]

theorem fitsFields_iff {fields : Fields} :
    fitsFields limits depth fields = true ↔ ∀ field ∈ fields, field.2.fits limits depth = true := by
  induction fields with
  | nil => simp [fitsFields]
  | cons field rest ih => rw [fitsFields, Bool.and_eq_true, ih, List.forall_mem_cons]

theorem fits_arr {items : List Json} (hdepth : depth < limits.depth)
    (h : ∀ j ∈ items, j.fits limits (depth + 1) = true) : (arr items).fits limits depth = true := by
  cases items with
  | nil => rfl
  | cons j rest => rw [fits, fitsItems_iff.2 h, decide_eq_true hdepth, Bool.and_true]

theorem fits_obj {fields : Fields} (hdepth : depth < limits.depth)
    (h : ∀ field ∈ fields, field.2.fits limits (depth + 1) = true) :
    (obj fields).fits limits depth = true := by
  cases fields with
  | nil => rfl
  | cons field rest => rw [fits, fitsFields_iff.2 h, decide_eq_true hdepth, Bool.and_true]

theorem fits_ofOption {α : Type} {f : α → Json} {a? : Option α}
    (h : ∀ a, a? = some a → (f a).fits limits depth = true) :
    (Json.ofOption f a?).fits limits depth = true := by
  cases a? with
  | none => rfl
  | some a => exact h a rfl

end Json

open Json (fits_arr fits_obj fits_ofOption Simple)

theorem Fields.forall_mem_dropNull {fields : Fields} {P : String × Json → Prop}
    (h : ∀ field ∈ fields, P field) : ∀ field ∈ fields.dropNull, P field :=
  fun field hfield => h field (List.mem_filter.1 hfield).1

/-! ## Records -/

/-- The number of the project, if there is one, is short enough to be read. -/
def Parameters.ShortId (limits : ReadLimits) (p : Parameters) : Prop :=
  ∀ n, p.projectId = some n → (Nat.toDigits 10 n.natAbs).length ≤ limits.digits

theorem fits_dumpLabels (labels : List (String × String)) (hdepth : depth < limits.depth) :
    (dumpLabels labels).fits limits depth = true := by
  refine fits_obj hdepth fun field hfield => ?_
  obtain ⟨l, -, rfl⟩ := List.mem_map.1 (Fields.mem_of_mem_dedup hfield)
  exact (Simple.str _).fits

/-- The members of parameters fit if the project number is short enough. -/
theorem Parameters.fits_record {p : Parameters} (hid : p.ShortId limits)
    (hdepth : depth + 2 ≤ limits.depth) :
    ∀ field ∈ p.dumpFields, field.2.fits limits depth = true := by
  simp only [dumpFields, List.forall_mem_cons]
  refine ⟨(Simple.str _).fits, (Simple.ofOption .str _).fits, fits_ofOption fun s _ => ?_,
    (Simple.ofOption (fun _ => .str _) _).fits, (Simple.ofOption .bool _).fits,
    (Simple.ofOption .bool _).fits, (Simple.ofOption .str _).fits, (Simple.ofOption .bool _).fits,
    fits_ofOption fun n hn => ?_, fits_ofOption fun r _ => ?_, fits_ofOption fun l _ => ?_,
    List.forall_mem_nil _⟩
  · exact fits_obj (by omega) (List.forall_mem_singleton.2 (Simple.str s.env).fits)
  · exact decide_eq_true (hid n hn)
  · exact fits_obj (by omega) (List.forall_mem_singleton.2 (Simple.str r.name).fits)
  · exact fits_obj (by omega) (List.forall_mem_singleton.2 (fits_dumpLabels _ (by omega)))

theorem Declaration.fits_record {d : Declaration} (hid : d.parameters.ShortId limits)
    (hdepth : depth + 3 ≤ limits.depth) :
    ∀ field ∈ d.dumpFields, field.2.fits limits depth = true := by
  simp only [dumpFields, List.forall_mem_cons]
  exact ⟨(Simple.str _).fits, (Simple.str _).fits,
    fits_obj (by omega) (Parameters.fits_record hid (by omega)), List.forall_mem_nil _⟩

theorem Observed.fits_prior (o : Observed) (hdepth : depth + 2 ≤ limits.depth) :
    ∀ field ∈ Planning.priorOf o.asParameters, field.2.fits limits depth = true :=
  Fields.forall_mem_dropNull (Parameters.fits_record nofun hdepth)

theorem CreateRequest.simple_body (p : Parameters) :
    ∀ field ∈ (ofParameters p).body, field.2.Simple := by
  refine Fields.forall_mem_dropNull ?_
  simp only [List.forall_mem_cons]
  exact ⟨.str _, .ofOption .str _, .ofOption (fun _ => .str _) _, .ofOption .bool _,
    .ofOption .bool _, .ofOption .str _, .ofOption .bool _, List.forall_mem_nil _⟩

theorem Difference.fits_dumpAll (p : Parameters) (o : Observed) (hdepth : depth < limits.depth) :
    ∀ field ∈ dumpAll (p.differing o), field.2.fits limits depth = true := by
  intro field hfield
  obtain ⟨difference, hmem, rfl⟩ := List.mem_map.1 hfield
  obtain ⟨hbefore, hafter⟩ := simple_of_mem_differing hmem
  refine fits_obj hdepth ?_
  simp only [List.forall_mem_cons]
  exact ⟨hbefore.fits, hafter.fits, List.forall_mem_nil _⟩

/-! ## Changes and plans -/

/-- The members of a record, if there is one, are within limits. -/
def RecordFits (limits : ReadLimits) (depth : Nat) (record? : Option Fields) : Prop :=
  ∀ fields, record? = some fields → ∀ field ∈ fields, field.2.fits limits depth = true

/-- A change fits if its records do. -/
theorem Change.fits_dump {c : Change} (hdepth : depth + 2 ≤ limits.depth)
    (hdesired : RecordFits limits (depth + 2) c.desired)
    (hprior : RecordFits limits (depth + 2) c.prior)
    (hplanned : RecordFits limits (depth + 2) c.planned)
    (hdiff : RecordFits limits (depth + 2) c.diff) : c.dump.fits limits depth = true := by
  have hrecord {record? : Option Fields} (h : RecordFits limits (depth + 2) record?) :
      (Json.ofOption .obj record?).fits limits (depth + 1) = true :=
    fits_ofOption fun fields hfields => fits_obj (by omega) (h fields hfields)
  refine fits_obj (by omega) ?_
  simp only [dumpFields, List.forall_mem_cons]
  exact ⟨(Simple.str _).fits, (Simple.str _).fits, (Simple.str _).fits, hrecord hdesired,
    hrecord hprior, hrecord hplanned, hrecord hdiff, List.forall_mem_nil _⟩

theorem PlanMetadata.fits_dump (m : PlanMetadata) (hdepth : depth < limits.depth) :
    m.dump.fits limits depth = true := by
  refine fits_obj hdepth ?_
  simp only [List.forall_mem_cons]
  exact ⟨(Simple.ofOption .str _).fits, (Simple.str _).fits, (Simple.bool _).fits,
    (Simple.str _).fits, List.forall_mem_nil _⟩

/-- A plan fits if its changes do. -/
theorem Plan.fits_dump {p : Plan} (hdepth : depth + 2 ≤ limits.depth)
    (h : ∀ c ∈ p.changes, c.dump.fits limits (depth + 2) = true) :
    p.dump.fits limits depth = true := by
  refine fits_obj (by omega) ?_
  simp only [List.forall_mem_cons]
  refine ⟨p.metadata.fits_dump (by omega), fits_arr (by omega) fun j hj => ?_,
    List.forall_mem_nil _⟩
  obtain ⟨c, hc, rfl⟩ := List.mem_map.1 hj
  exact h c hc

namespace Planning

/-- A change that was planned fits: it is five levels deep, and its numbers are project numbers. -/
theorem Origin.fits_dump {store : Store} {d : Declaration} {destroy : Bool} {c : Change}
    (h : Origin store d destroy c) (hid : d.parameters.ShortId limits)
    (hdepth : depth + 5 ≤ limits.depth) : c.dump.fits limits depth = true := by
  have hdesired : RecordFits limits (depth + 2) (some d.dumpFields) := by
    rintro fields ⟨⟩
    exact Declaration.fits_record hid (by omega)
  have hprior (o : Observed) : RecordFits limits (depth + 2) (some (priorOf o.asParameters)) := by
    rintro fields ⟨⟩
    exact o.fits_prior (by omega)
  have hnone : RecordFits limits (depth + 2) none := nofun
  cases h with
  | creation =>
    refine Change.fits_dump (by omega) hdesired hnone ?_ hnone
    rintro fields ⟨⟩
    exact fun field hfield => (CreateRequest.simple_body d.parameters field hfield).fits
  | @comparison e o =>
    refine Change.fits_dump (by omega) ?_ (hprior o) hnone ?_
    · rintro fields ⟨⟩
      let initialized := { d with parameters := d.parameters.lateInitialize (some o) }
      exact Declaration.fits_record (d := initialized) hid (by omega)
    · intro fields hdiff
      rw [diff_comparison] at hdiff
      split at hdiff
      · cases hdiff
      · cases hdiff
        exact Difference.fits_dumpAll d.parameters o (by omega)
  | @deletion e o => exact Change.fits_dump (by omega) hdesired (hprior o) hnone hnone

/-- A plan that was made is within the limits of plan files, unless the number of a project is too
long. -/
theorem fits_of_plan {provider : Provider} {now : Timestamp} {destroy : Bool}
    {ds : List Declaration} {s s' : Session} {p : Plan}
    (h : (plan provider now destroy ds).outcome s = (.ok p, s'))
    (hids : ∀ d ∈ ds, d.parameters.ShortId Plan.readLimits) :
    p.dump.fits Plan.readLimits 0 = true := by
  obtain ⟨-, -, horigin⟩ := origin_of_plan h
  refine Plan.fits_dump (by decide) fun c hc => ?_
  obtain ⟨d, hd, horigin⟩ := horigin c hc
  exact horigin.fits_dump (hids d hd) (by decide)

end Planning

end CiVariables
