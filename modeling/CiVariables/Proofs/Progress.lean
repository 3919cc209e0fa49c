import CiVariables.Proofs.Applying

/-!
# Runs that are followed

Somebody who follows a run may refuse an event, and that ends the run. `Applying.Told` says which
progress is told of changes and how the run over them ends. Unless it ends with a refusal, the
changes that its result names as applied are those that were told to be carried out, and all changes
were announced if none fails (`Applying.Told.account`).
-/

namespace CiVariables

namespace Event

/-- The event announces a change. -/
def isStarted : Event → Bool
  | started _ _ => true
  | _ => false

/-- The action that has been carried out, if the event tells of one. -/
def finished? : Event → Option Action
  | finished _ a => some a
  | _ => none

end Event

theorem Session.progress_noted (s : Session) (e : Event) :
    (s.noted e).progress = s.progress ++ if e.isProgress then [e] else [] :=
  (s.grows_noted e).progress

namespace Applying

/-- What is told of a run over changes, after others had been applied, and how it ends. -/
inductive Told (accept : Follower) :
    List Change → List Change → List Event → Except Failure (List Change) → Prop where
  | completed (before : List Change) : Told accept before [] [] (.ok before)
  | failed (before : List Change) (c : Change) (rest : List Change) (reason : String)
    (cause : Option Failure) :
    Told accept before (c :: rest) [.started c.address c.action]
      (.error (.apply before c.address reason cause))
  /-- A removal finds nothing, and the run goes on. -/
  | gone {before : List Change} {c : Change} {rest : List Change} {told : List Event}
    {result : Except Failure (List Change)} (h : Told accept before rest told result) :
    Told accept before (c :: rest) (.started c.address c.action :: told) result
  | carriedOut {before : List Change} {c : Change} {rest : List Change} {told : List Event}
    {result : Except Failure (List Change)} (h : Told accept (before ++ [c]) rest told result) :
    Told accept before (c :: rest)
      (.started c.address c.action :: .finished c.address c.action :: told) result
  | refusedStart {before : List Change} {c : Change} {rest : List Change} {failure : Failure}
    (h : accept (.started c.address c.action) = .error failure) :
    Told accept before (c :: rest) [] (.error failure)
  /-- The change was carried out, and is not named by the result. -/
  | refusedFinish {before : List Change} {c : Change} {rest : List Change} {failure : Failure}
    (h : accept (.finished c.address c.action) = .error failure) :
    Told accept before (c :: rest) [.started c.address c.action] (.error failure)

/-! ## Every run is told so -/

theorem outcome_report_accepted {accept : Follower} {e : Event} (h : accept e = .ok ())
    (s : Session) : (report (some accept) e).outcome s = (.ok (), s.noted e) := by
  unfold report
  simp only [h]
  exact Work.outcome_note e s

theorem outcome_report_refused {accept : Follower} {e : Event} {failure : Failure}
    (h : accept e = .error failure) (s : Session) :
    (report (some accept) e).outcome s = (.error failure, s) := by
  unfold report
  simp only [h]
  exact Work.outcome_throw failure s

/-- The run lemma: what is told of the changes that are still to be carried out, and how that ends.
-/
theorem told_applyChanges (provider : Provider) (accept : Follower) (changes : List Change) :
    ∀ (before : List Change) (s : Session), ∃ told result s',
      (applyChanges provider (some accept) before changes).outcome s = (result, s') ∧
      s'.progress = s.progress ++ told ∧ Told accept before changes told result := by
  induction changes with
  | nil => exact fun before s => ⟨[], .ok before, s, rfl, by simp, .completed before⟩
  | cons c rest ih =>
    intro before s
    let line : LogLine := ⟨.debug, .engine, "Applying " ++ c.address ++ ": " ++ c.action.text⟩
    have hline : (s.noted (.logged line)).progress = s.progress :=
      (s.grows_logged line).progress.trans (List.append_nil _)
    unfold applyChanges
    rw [Work.outcome_bind_ok (Work.outcome_log ..)]
    cases hstart : accept (.started c.address c.action) with
    | error failure =>
      exact ⟨[], _, _, Work.outcome_bind_error (outcome_report_refused hstart _),
        by rw [hline, List.append_nil], .refusedStart hstart⟩
    | ok _ =>
      rw [Work.outcome_bind_ok (outcome_report_accepted hstart _)]
      obtain ⟨s₁, -, hgrows, hrun⟩ := outcome_run provider c
        ((s.noted (.logged line)).noted (.started c.address c.action))
      have hstarted : s₁.progress = s.progress ++ [.started c.address c.action] := by
        rw [hgrows.progress, List.append_nil, Session.progress_noted, hline]
        rfl
      -- A failure ends the run, a variable that is gone tells of no end, an applied change of its
      -- own.
      generalize (c.handle _ _).1 = v at hrun
      cases v with
      | failed failure =>
        refine ⟨_, _, s₁, Work.outcome_bind_error (Work.outcome_tryCatch_error hrun), hstarted,
          .failed before c rest failure.message (some failure)⟩
      | gone failure =>
        rw [Work.outcome_bind_ok (Work.outcome_tryCatch_ok hrun)]
        obtain ⟨told, result, s', hrest, hprogress, htold⟩ := ih before s₁
        refine ⟨_, result, s', hrest, ?_, .gone htold⟩
        rw [hprogress, hstarted, List.append_assoc]
        rfl
      | applied =>
        rw [Work.outcome_bind_ok (Work.outcome_tryCatch_ok hrun)]
        simp only [if_true]
        cases hfinish : accept (.finished c.address c.action) with
        | error failure =>
          exact ⟨_, _, s₁, Work.outcome_bind_error (outcome_report_refused hfinish s₁), hstarted,
            .refusedFinish hfinish⟩
        | ok _ =>
          rw [Work.outcome_bind_ok (outcome_report_accepted hfinish s₁)]
          obtain ⟨told, result, s', hrest, hprogress, htold⟩ :=
            ih (before ++ [c]) (s₁.noted (.finished c.address c.action))
          refine ⟨_, result, s', hrest, ?_, .carriedOut htold⟩
          rw [hprogress, Session.progress_noted, hstarted, List.append_assoc, List.append_assoc]
          rfl

/-- What a run tells of the actionable changes of its plan. -/
theorem told_apply (provider : Provider) (accept : Follower) (p : Plan) (s : Session) :
    ∃ told result s', (apply provider (some accept) p).outcome s = (result, s') ∧
      s'.progress = s.progress ++ told ∧ Told accept [] p.actionable told result := by
  let line : LogLine :=
    ⟨.info, .engine, "Applying " ++ toString p.actionable.length ++ " operations"⟩
  obtain ⟨told, result, s', hrun, hprogress, htold⟩ :=
    told_applyChanges provider accept p.actionable [] (s.noted (.logged line))
  refine ⟨told, result, s', hrun, ?_, htold⟩
  rw [hprogress, (s.grows_logged line).progress, List.append_nil]

/-! ## What the result names -/

/-- An event of one of the changes is refused. -/
def Refuses (accept : Follower) (changes : List Change) (failure : Failure) : Prop :=
  ∃ c ∈ changes, accept (.started c.address c.action) = .error failure ∨
    accept (.finished c.address c.action) = .error failure

theorem Refuses.cons {accept : Follower} {changes : List Change} {failure : Failure}
    (h : Refuses accept changes failure) (c : Change) : Refuses accept (c :: changes) failure := by
  obtain ⟨c', hc', hrefused⟩ := h
  exact ⟨c', List.mem_cons_of_mem c hc', hrefused⟩

/-- The changes that are named have the actions of others, and those that were told to be carried
out. -/
def Names (before : List Change) (told : List Event) (applied : List Change) : Prop :=
  applied.map Change.action = before.map Change.action ++ told.filterMap Event.finished?

/-- A run that does not fail announced all changes. It names those that were told to be carried out,
and so does one that fails, unless with a refusal. -/
theorem Told.account {accept : Follower} {before changes : List Change} {told : List Event}
    {result : Except Failure (List Change)} (h : Told accept before changes told result) :
    match result with
    | .ok applied => told.countP Event.isStarted = changes.length ∧ Names before told applied
    | .error failure => Refuses accept changes failure ∨ ∃ applied address reason cause,
        failure = .apply applied address reason cause ∧ Names before told applied := by
  induction h with
  | completed before => exact ⟨rfl, (List.append_nil _).symm⟩
  | failed before c rest reason cause =>
    exact .inr ⟨before, c.address, reason, cause, rfl, (List.append_nil _).symm⟩
  | @gone _ c _ _ result _ ih =>
    cases result with
    | ok applied => exact ⟨by simp [List.countP_cons, Event.isStarted, ih.1], ih.2⟩
    | error failure => exact ih.imp_left fun hrefused => hrefused.cons c
  | @carriedOut before c _ told result _ ih =>
    have hnames {applied : List Change} (hnames : Names (before ++ [c]) told applied) :
        Names before (.started c.address c.action :: .finished c.address c.action :: told)
          applied := by
      unfold Names at hnames ⊢
      rw [hnames, List.map_append, List.append_assoc]
      rfl
    cases result with
    | ok applied => exact ⟨by simp [List.countP_cons, Event.isStarted, ih.1], hnames ih.2⟩
    | error failure =>
      refine ih.imp (fun hrefused => hrefused.cons c) ?_
      rintro ⟨applied, address, reason, cause, hfailure, happlied⟩
      exact ⟨applied, address, reason, cause, hfailure, hnames happlied⟩
  | @refusedStart _ c _ _ h => exact .inl ⟨c, List.mem_cons_self, .inl h⟩
  | @refusedFinish _ c _ _ h => exact .inl ⟨c, List.mem_cons_self, .inr h⟩

end Applying

end CiVariables
