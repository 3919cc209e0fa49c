import CiVariables.Cli.Run
import CiVariables.Proofs.Session

/-!
# What a script leaves behind

`Script.outcome` is how a script ends from a shell and the shell that it leaves. Most scripts do no
more than write texts, however they end (`Shell.Tells`); work against the service changes the
session as the work does and leaves the rest alone.
-/

namespace CiVariables.Cli

/-! ## Outcomes -/

/-- How a script ends from a shell, and the shell that it leaves. -/
def Script.outcome {α : Type} (x : Script α) (sh : Shell) : Except Ending α × Shell := x.run.run sh

namespace Script

variable {α β : Type}

@[simp] theorem outcome_pure (a : α) (sh : Shell) :
    (pure a : Script α).outcome sh = (.ok a, sh) := rfl

@[simp] theorem outcome_throw (ending : Ending) (sh : Shell) :
    (throw ending : Script α).outcome sh = (.error ending, sh) := rfl

@[simp] theorem outcome_get (sh : Shell) : (get : Script Shell).outcome sh = (.ok sh, sh) := rfl

@[simp] theorem outcome_set (sh sh' : Shell) :
    (set sh' : Script PUnit).outcome sh = (.ok ⟨⟩, sh') := rfl

/-- A sequence goes on with the value of its first part, or ends with it. -/
theorem outcome_bind (x : Script α) (f : α → Script β) (sh : Shell) :
    (x >>= f).outcome sh = match x.outcome sh with
      | (.ok a, sh') => (f a).outcome sh'
      | (.error ending, sh') => (.error ending, sh') := by
  show (ExceptT.bind x f sh : Except Ending β × Shell) = _
  unfold outcome ExceptT.run StateT.run
  simp only [ExceptT.bind, ExceptT.mk, bind, StateT.bind]
  cases x sh with
  | mk result sh' => cases result <;> rfl

theorem outcome_bind_ok {x : Script α} {f : α → Script β} {sh sh' : Shell} {a : α}
    (h : x.outcome sh = (.ok a, sh')) : (x >>= f).outcome sh = (f a).outcome sh' := by
  rw [outcome_bind, h]

/-- A sequence ends with its first part, or goes on with what that gave. -/
theorem bind_cases {x : Script α} {f : α → Script β} {sh sh' : Shell} {result : Except Ending β}
    (h : (x >>= f).outcome sh = (result, sh')) :
    (∃ ending, x.outcome sh = (.error ending, sh') ∧ result = .error ending) ∨
      ∃ a mid, x.outcome sh = (.ok a, mid) ∧ (f a).outcome mid = (result, sh') := by
  rw [outcome_bind] at h
  rcases hx : x.outcome sh with ⟨ending | a, mid⟩
  · rw [hx] at h
    cases h
    exact .inl ⟨ending, rfl, rfl⟩
  · rw [hx] at h
    exact .inr ⟨a, mid, rfl, h⟩

/-- However the script ends, it leaves a shell that is so related to the one before. -/
def Within (x : Script α) (R : Shell → Shell → Prop) : Prop := ∀ sh, R sh (x.outcome sh).2

theorem Within.of_outcome {x : Script α} {R : Shell → Shell → Prop} (h : x.Within R)
    {sh sh' : Shell} {result : Except Ending α} (hrun : x.outcome sh = (result, sh')) :
    R sh sh' := by
  have hstep := h sh
  rwa [hrun] at hstep

/-- What relates the shells of the parts relates those of the sequence, if it is transitive. -/
theorem Within.bind {x : Script α} {f : α → Script β} {R : Shell → Shell → Prop}
    (htrans : ∀ {a b c}, R a b → R b c → R a c) (h : x.Within R) (hf : ∀ a, (f a).Within R) :
    (x >>= f).Within R := by
  intro sh
  rcases hrun : (x >>= f).outcome sh with ⟨result, sh'⟩
  obtain ⟨ending, hx, -⟩ | ⟨a, mid, hx, hrest⟩ := bind_cases hrun
  · exact h.of_outcome hx
  · exact htrans (h.of_outcome hx) ((hf a).of_outcome hrest)

end Script

/-! ## Scripts that tell -/

/-- Between two shells texts were written, and nothing else happened. -/
structure Shell.Tells (sh sh' : Shell) : Prop where
  files : sh'.files = sh.files
  session : sh'.session = sh.session
  input : sh'.input = sh.input
  written : sh.written <+: sh'.written

theorem Shell.Tells.refl (sh : Shell) : sh.Tells sh := ⟨rfl, rfl, rfl, List.prefix_rfl⟩

theorem Shell.Tells.trans {sh sh' sh'' : Shell} (h : sh.Tells sh') (h' : sh'.Tells sh'') :
    sh.Tells sh'' :=
  ⟨h'.files.trans h.files, h'.session.trans h.session, h'.input.trans h.input,
    h.written.trans h'.written⟩

namespace Script

variable {α β : Type}

/-- The script only writes texts, however it ends. -/
def Telling (x : Script α) : Prop := x.Within Shell.Tells

namespace Telling

theorem pure (a : α) : (Pure.pure a : Script α).Telling := .refl

theorem throw (ending : Ending) : (MonadExcept.throw ending : Script α).Telling := .refl

theorem bind {x : Script α} {f : α → Script β} (h : x.Telling) (hf : ∀ a, (f a).Telling) :
    (x >>= f).Telling :=
  Within.bind .trans h hf

theorem forM {f : α → Script PUnit} (hf : ∀ a, (f a).Telling) (as : List α) :
    (as.forM f).Telling := by
  induction as with
  | nil => exact .pure _
  | cons a rest ih => exact (hf a).bind fun _ => ih

end Telling

/-- The script does not end early, and no more than tells something. -/
def Passes (x : Script Unit) : Prop := ∀ sh, ∃ sh', x.outcome sh = (.ok (), sh') ∧ sh.Tells sh'

namespace Passes

theorem pure : (Pure.pure () : Script Unit).Passes := fun sh => ⟨sh, rfl, .refl sh⟩

theorem bind {x : Script Unit} {f : Unit → Script Unit} (h : x.Passes) (hf : (f ()).Passes) :
    (x >>= f).Passes := by
  intro sh
  obtain ⟨mid, hx, htells⟩ := h sh
  obtain ⟨sh', hrest, htells'⟩ := hf mid
  exact ⟨sh', (outcome_bind_ok hx).trans hrest, htells.trans htells'⟩

/-- Steps that all go on do so one after the other. -/
theorem forM {f : α → Script Unit} {as : List α} (hf : ∀ a ∈ as, (f a).Passes) :
    (as.forM f).Passes := by
  induction as with
  | nil => exact .pure
  | cons a rest ih =>
    obtain ⟨ha, hrest⟩ := List.forall_mem_cons.1 hf
    exact ha.bind (ih hrest)

theorem telling {x : Script Unit} (h : x.Passes) : x.Telling := by
  intro sh
  obtain ⟨sh', hrun, htells⟩ := h sh
  rw [hrun]
  exact htells

end Passes

end Script

/-- The shell with more texts written. -/
def Shell.told (sh : Shell) (texts : List Written) : Shell :=
  { sh with written := sh.written ++ texts }

theorem Shell.tells_told (sh : Shell) (texts : List Written) : sh.Tells (sh.told texts) :=
  ⟨rfl, rfl, rfl, List.prefix_append _ _⟩

theorem Shell.told_told (sh : Shell) (texts more : List Written) :
    (sh.told texts).told more = sh.told (texts ++ more) := by
  simp [told]

namespace Script

/-- Writing a text adds it to what was written, unless it holds a half. -/
theorem outcome_put_out (text : String) (sh : Shell) :
    (put .out text).outcome sh = match unwritable? text with
      | some failure => (.error (.crashed failure), sh)
      | none => (.ok (), sh.told [⟨.out, text⟩]) := by
  simp only [put]
  cases unwritable? text <;> rfl

/-- Writing does nothing but write. -/
theorem telling_put (stream : Stream) (text : String) : (put stream text).Telling := by
  intro sh
  cases stream with
  | err => exact sh.tells_told _
  | out =>
    rw [outcome_put_out]
    cases unwritable? text with
    | none => exact sh.tells_told _
    | some failure => exact .refl sh

theorem telling_line (setting : Setting) (stream : Stream) (text : String) :
    (line setting stream text).Telling := telling_put _ _

theorem passes_put_err (text : String) : (put .err text).Passes := fun sh =>
  ⟨sh.told [⟨.err, withHalvesWritten text⟩], rfl, sh.tells_told _⟩

theorem passes_writeLog (setting : Setting) (log : List LogLine) : (writeLog setting log).Passes :=
  .forM fun _ _ => passes_put_err _

theorem telling_writeLog (setting : Setting) (log : List LogLine) :
    (writeLog setting log).Telling := (passes_writeLog setting log).telling

theorem telling_report (setting : Setting) (color : Bool) (failure : Failure) :
    (report setting color failure).Telling := .forM (fun _ => telling_line _ _ _) _

theorem telling_guarded {α : Type} (setting : Setting) (color : Bool) (result : Except Failure α) :
    (guarded setting color result).Telling := by
  cases result with
  | ok a => exact .pure a
  | error failure => exact (telling_report setting color failure).bind fun _ => .throw _

theorem telling_unguarded {α : Type} (result : Except Failure α) : (unguarded result).Telling := by
  cases result with
  | ok a => exact .pure a
  | error failure => exact .throw _

/-- A step that goes on gave a value. -/
theorem guarded_ok {α : Type} {setting : Setting} {color : Bool} {result : Except Failure α}
    {sh sh' : Shell} {a : α} (h : (guarded setting color result).outcome sh = (.ok a, sh')) :
    result = .ok a ∧ sh' = sh := by
  cases result with
  | ok b =>
    cases h
    exact ⟨rfl, rfl⟩
  | error failure =>
    obtain ⟨_, _, hfail⟩ | ⟨_, _, _, hfail⟩ := bind_cases h
    · cases hfail
    · cases hfail

theorem unguarded_ok {α : Type} {result : Except Failure α} {sh sh' : Shell} {a : α}
    (h : (unguarded result).outcome sh = (.ok a, sh')) : result = .ok a ∧ sh' = sh := by
  cases result with
  | ok b =>
    cases h
    exact ⟨rfl, rfl⟩
  | error failure => cases h

theorem outcome_unguarded {α : Type} {result : Except Failure α} {a : α} (h : result = .ok a)
    (sh : Shell) : (unguarded result).outcome sh = (.ok a, sh) := by
  rw [h]
  rfl

/-- A text as it appears: colors are left out where they are not shown. -/
def shown (setting : Setting) (text : String) : String :=
  if setting.showsColor then text else Terminal.strip text

theorem line_ok {setting : Setting} {text : String} {sh sh' : Shell}
    (h : (line setting .out text).outcome sh = (.ok (), sh')) :
    sh' = sh.told [⟨.out, shown setting (text ++ "\n")⟩] := by
  unfold line write at h
  rw [outcome_put_out] at h
  split at h
  · cases h
  · cases h
    rfl

theorem outcome_line {setting : Setting} {text : String}
    (h : unwritable? (shown setting (text ++ "\n")) = none) (sh : Shell) :
    (line setting .out text).outcome sh =
      (.ok (), sh.told [⟨.out, shown setting (text ++ "\n")⟩]) := by
  unfold line write
  rw [outcome_put_out]
  unfold shown at h
  rw [h]
  rfl

/-! ## Work -/

/-- Work changes the session as it does by itself, and what is told about it is told afterwards. It
gives its result and what happened. -/
theorem outcome_work {α : Type} (setting : Setting) (w : Work α) (sh : Shell) :
    ∃ sh', ({ sh with session := (w.outcome sh.session).2 } : Shell).Tells sh' ∧
      (work setting w).outcome sh = (.ok ((w.outcome sh.session).1,
        (w.outcome sh.session).2.trace.drop sh.session.trace.length), sh') := by
  let events := (w.outcome sh.session).2.trace.drop sh.session.trace.length
  obtain ⟨sh', hlog, htells⟩ := passes_writeLog setting (events.filterMap Event.log?)
    { sh with session := (w.outcome sh.session).2 }
  exact ⟨sh', htells, outcome_bind_ok hlog⟩

end Script

end CiVariables.Cli
