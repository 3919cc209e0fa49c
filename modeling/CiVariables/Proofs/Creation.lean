import CiVariables.Proofs.Addressing
import CiVariables.Proofs.Differences
import CiVariables.Proofs.Reordering

/-!
# Variables that are created

A variable that is created from parameters has what they set, and the defaults of the service
elsewhere; one that is created from what another one looked like is that one again
(`creation_inverts_projection`). It is read as such from then on: operations of the client that
neither overwrite or remove a variable of its project, key and scope nor give one this scope
(`Write.Spares`) leave its entry where it is found (`Client.Later.holds`).
-/

namespace CiVariables

/-! ## Requests that spare a variable -/

/-- The filter is for a scope other than this one. -/
def ScopeFilter.Avoids (scope : String) (filter : Option ScopeFilter) : Prop :=
  ∃ f, filter = some f ∧ f.scope ≠ scope

/-- No variable of a project, key and scope is overwritten or removed, and none is given the
scope. -/
def Write.Spares (project : ProjectId) (key scope : String) : Write → Prop
  | create _ _ => True
  | update project' key' request => project' = project → key' = key →
    ScopeFilter.Avoids scope request.filter ∧ request.scope ≠ some scope
  | delete project' key' request => project' = project → key' = key →
    ScopeFilter.Avoids scope (request.bind RemoveRequest.filter)

/-- Parameters that set what a request changes. -/
def UpdateRequest.parameters (r : UpdateRequest) (key : String) : Parameters :=
  { key, value := r.value, kind := r.kind, isProtected := r.isProtected, masked := r.masked
    scope := r.scope, raw := r.raw }

/-- Taking an entry away does not matter to a search that it does not pass. -/
theorem Store.find?_eraseP_other {test test' : Entry → Bool}
    (h : ∀ e, test e = true → test' e = false) (store : Store) :
    List.find? test' (store.eraseP test) = List.find? test' store := by
  rw [← find?_filter_self test' (store.eraseP test), filter_eraseP_other h, find?_filter_self]

namespace Entry

variable {project project' : ProjectId} {key key' scope : String} {filter : Option ScopeFilter}

/-- An entry that a narrowed request addresses is not of a scope that the request avoids. -/
theorem not_isAddressed_of_avoids
    (h : project' = project → key' = key → ScopeFilter.Avoids scope filter) {e : Entry}
    (he : e.isAddressed project' key' (ScopeFilter.scopeOf filter) = true) :
    e.isAddressed project key (some scope) = false := by
  refine Bool.eq_false_iff.2 fun hown => ?_
  obtain ⟨hproject, hkey, hscope⟩ := agree_of_isAddressed he hown
  obtain ⟨f, rfl, hne⟩ := h hproject hkey
  exact hne (hscope f.scope scope rfl rfl)

/-- What an update writes over such an entry does not bring it into the scope either. -/
theorem not_isAddressed_update {request : UpdateRequest}
    (h : (Write.update project' key' request).Spares project key scope) {e : Entry}
    (he : e.isAddressed project' key' (ScopeFilter.scopeOf request.filter) = true) :
    isAddressed project key (some scope) (Fields.update e request.changes) = false := by
  refine Bool.eq_false_iff.2 fun hnew => ?_
  have hchanges : request.changes =
      (UpdateRequest.ofParameters (request.parameters key)).changes := rfl
  obtain ⟨hproject, hkey, hscope⟩ := isAddressed_iff.1 hnew
  unfold inProject at hproject
  rw [hchanges, project_update] at hproject
  rw [hchanges, key_update] at hkey
  have hscope := hscope scope rfl
  rw [hchanges, scope_update_eq] at hscope
  have hown : e.isAddressed project key none = true :=
    isAddressed_iff.2 ⟨hproject, hkey, nofun⟩
  obtain ⟨rfl, rfl, -⟩ := agree_of_isAddressed he hown
  obtain ⟨⟨f, hfilter, hne⟩, hrequest⟩ := h rfl rfl
  obtain ⟨-, -, hold⟩ := isAddressed_iff.1 he
  have hold := hold f.scope (by rw [hfilter]; rfl)
  cases hset : request.scope with
  | none =>
    have hscope : e.scope = .str scope := by
      simpa [UpdateRequest.parameters, hset] using hscope
    exact hne (Json.str.inj (hold.symm.trans hscope))
  | some t =>
    have hscope : t = scope := by
      simpa [UpdateRequest.parameters, hset] using hscope
    exact hrequest (hset.trans (congrArg some hscope))

end Entry

/-- A request that spares a variable leaves it to be found. -/
theorem Write.Spares.find?_perform {project : ProjectId} {key scope : String} {w : Write}
    (h : w.Spares project key scope) {store store' : Store} {e touched : Entry}
    (hperform : w.perform store = .ok (touched, store'))
    (he : store.find? project key (some scope) = some e) :
    store'.find? project key (some scope) = some e := by
  -- A new entry is added behind the one that is found; the others do not pass its test.
  cases w with
  | create project' request =>
    unfold Write.perform Store.create? at hperform
    simp only at hperform
    split at hperform
    · next htouched =>
      cases hperform
      split at htouched
      · cases htouched
      · cases htouched
        unfold Store.find? at he ⊢
        rw [List.find?_append, he, Option.some_or]
    · cases hperform
  | update project' key' request =>
    unfold Write.perform at hperform
    simp only at hperform
    split at hperform
    · cases hperform
      rw [← he]
      exact Store.find?_updateFirst_other (fun x hx =>
        ⟨Entry.not_isAddressed_of_avoids (fun hproject hkey => (h hproject hkey).1) hx,
          Entry.not_isAddressed_update (e := x) h hx⟩) store
    · cases hperform
  | delete project' key' request =>
    unfold Write.perform at hperform
    simp only at hperform
    split at hperform
    · cases hperform
      rw [← he]
      exact Store.find?_eraseP_other (fun x hx => Entry.not_isAddressed_of_avoids h hx) store
    · cases hperform

/-! ## Later operations -/

/-- The entry is the one that is found for a project, key and scope, and no fault can strike. -/
structure Remote.Holds (r : Remote) (project : ProjectId) (key scope : String) (e : Entry) :
    Prop where
  found : r.entries.find? project key (some scope) = some e
  faults : r.faults = []

/-- A request that spares the variable leaves it as it is. -/
theorem Remote.Holds.serve {r : Remote} {project : ProjectId} {key scope : String} {e : Entry}
    (h : r.Holds project key scope e) {w : Write} (hw : w.Spares project key scope) :
    (r.serve w).2.Holds project key scope e := by
  rw [Remote.serve_of_no_faults h.faults]
  cases hperform : w.perform r.entries with
  | error failure => exact h
  | ok touched => exact ⟨hw.find?_perform hperform h.found, h.faults⟩

namespace Client

theorem session_readAnswers (answers : List Fields) (s : Session) :
    ((readAnswers answers).outcome s).2 = s := by
  induction answers with
  | nil => rfl
  | cons a rest ih =>
    unfold readAnswers readAnswer
    cases Observed.check .data (.ofJson (.obj a)) with
    | invalid issues =>
      rw [Work.outcome_bind_error (Work.outcome_ofChecked_invalid _ issues s)]
    | valid o =>
      rw [Work.outcome_bind_ok (Work.outcome_ofChecked_valid _ o s)]
      cases hrest : ((readAnswers rest).outcome s) with
      | mk result s' =>
        rw [hrest] at ih
        rw [Work.outcome_bind_pure hrest]
        exact ih

/-- Looking leaves the service as it is, where no fault can strike. -/
theorem remote_listVariables (project : ProjectId) {s : Session} (hs : s.remote.faults = []) :
    ((listVariables project).outcome s).2.remote = s.remote := by
  obtain ⟨s', hremote, -, hrun⟩ := outcome_call_bind
    ⟨.list, project, none, [("get_all", .bool true)]⟩
    (do readAnswers ((Store.ofProject (← Work.entries) project).map Entry.attributes)) s
  simp only [hs, Fault.strike] at hremote hrun
  have hrun : (listVariables project).outcome s = _ := hrun
  rw [hrun, Work.outcome_bind_ok (Work.outcome_entries s'), session_readAnswers, hremote, ← hs]

/-- Without faults, reading changes nothing at the service. -/
theorem remote_getVariable (project : ProjectId) (key : String) (request : Option GetRequest)
    {s : Session} (hs : s.remote.faults = []) :
    ((getVariable project key request).outcome s).2.remote = s.remote := by
  obtain ⟨s', hremote, -, hrun⟩ := outcome_getVariable project key s request
  rw [hrun, hremote, Remote.look_of_no_faults hs]

/-- Sessions that follow on one by operations of the client that spare a variable, whether they
succeed or not. -/
inductive Later (project : ProjectId) (key scope : String) (s : Session) : Session → Prop
  | start : Later project key scope s s
  | list {s' : Session} (h : Later project key scope s s') (project' : ProjectId) :
    Later project key scope s ((listVariables project').outcome s').2
  | get {s' : Session} (h : Later project key scope s s') (project' : ProjectId) (key' : String)
      (request : Option GetRequest) :
    Later project key scope s ((getVariable project' key' request).outcome s').2
  | create {s' : Session} (h : Later project key scope s s') (project' : ProjectId)
      (request : CreateRequest) :
    Later project key scope s ((createVariable project' request).outcome s').2
  | update {s' : Session} (h : Later project key scope s s') {project' : ProjectId} {key' : String}
      {request : UpdateRequest}
      (hspares : (Write.update project' key' request).Spares project key scope) :
    Later project key scope s ((updateVariable project' key' request).outcome s').2
  | remove {s' : Session} (h : Later project key scope s s') {project' : ProjectId} {key' : String}
      {request : Option RemoveRequest}
      (hspares : (Write.delete project' key' request).Spares project key scope) :
    Later project key scope s ((removeVariable project' key' request).outcome s').2

/-- Later operations leave the entry where it is found. -/
theorem Later.holds {project : ProjectId} {key scope : String} {s s' : Session} {e : Entry}
    (h : Later project key scope s s') (hs : s.remote.Holds project key scope e) :
    s'.remote.Holds project key scope e := by
  induction h with
  | start => exact hs
  | list _ project' ih =>
    rw [remote_listVariables project' ih.faults]
    exact ih
  | get _ project' key' request ih =>
    rw [remote_getVariable project' key' request ih.faults]
    exact ih
  | create _ project' request ih =>
    obtain ⟨_, hremote, -, hrun⟩ := outcome_createVariable project' _ request
    rw [hrun, hremote]
    exact ih.serve trivial
  | update _ hspares ih =>
    obtain ⟨_, hremote, -, hrun⟩ := outcome_updateVariable _ _ _ _
    rw [hrun, hremote]
    exact ih.serve hspares
  | remove _ hspares ih =>
    obtain ⟨_, hremote, -, hrun⟩ := outcome_removeVariable _ _ _ _
    rw [hrun, hremote]
    exact ih.serve hspares

end Client

/-! ## Creating -/

/-- No entry is of a project, key and scope. -/
def Store.Lacks (store : Store) (project : ProjectId) (key scope : String) : Prop :=
  ∀ e ∈ store, e.isAddressed project key (some scope) = false

instance (store : Store) (project : ProjectId) (key scope : String) :
    Decidable (store.Lacks project key scope) :=
  inferInstanceAs (Decidable (∀ e ∈ store, e.isAddressed project key (some scope) = false))

/-- The request that reads the variable of a key and scope. -/
def Client.getScoped (project : ProjectId) (key scope : String) : Work Observed :=
  Client.getVariable project key (some ⟨some ⟨scope⟩⟩)

namespace Parameters

variable (p : Parameters) (project : ProjectId)

/-- Creates a variable from parameters. -/
def createIn : Work Observed := Client.createVariable project (CreateRequest.ofParameters p)

/-- The entry that is created from parameters. -/
def entryIn : Entry := Entry.created project (CreateRequest.ofParameters p).body

/-- The variable that is created from parameters: what they set, and the defaults elsewhere. -/
def made : Observed := Observed.overwrite { key := p.key } p

variable {p project} {s : Session}

/-- Where the variable is free, creating it answers with what was made and adds its entry. -/
theorem outcome_createIn (hs : s.remote.faults = [])
    (hfree : s.remote.entries.Lacks project p.key (p.scope.getD "*")) :
    ∃ s', (p.createIn project).outcome s = (.ok p.made, s') ∧
      s'.remote = ⟨s.remote.entries ++ [p.entryIn project], []⟩ := by
  obtain ⟨s', hremote, -, hrun⟩ :=
    Client.outcome_createVariable project s (CreateRequest.ofParameters p)
  have hnot : ¬s.remote.entries.any (Entry.sameIdentity (p.entryIn project)) = true := by
    intro hany
    obtain ⟨e, he, hsame⟩ := List.any_eq_true.1 hany
    exact Bool.eq_false_iff.1 (hfree e he) (Entry.sameIdentity_created_iff.1 hsame)
  rw [Remote.serve_of_no_faults hs, Write.perform_create] at hremote hrun
  simp only [entryIn] at hnot
  simp only [if_neg hnot] at hremote hrun
  refine ⟨s', hrun.trans ?_, hremote.trans ?_⟩
  · rw [Except.bind, Entry.read_of_shows (Entry.shows_created project p)]
    rfl
  · rw [hs]
    rfl

/-- The created entry is found for the project, key and scope. -/
theorem holds_of_created {s' : Session}
    (hfree : s.remote.entries.Lacks project p.key (p.scope.getD "*"))
    (hremote : s'.remote = ⟨s.remote.entries ++ [p.entryIn project], []⟩) :
    s'.remote.Holds project p.key (p.scope.getD "*") (p.entryIn project) := by
  have hnone : List.find? (Entry.isAddressed project p.key (some (p.scope.getD "*")))
      s.remote.entries = none := List.find?_eq_none.2 fun e he => Bool.eq_false_iff.1 (hfree e he)
  have haddressed : (p.entryIn project).isAddressed project p.key (some (p.scope.getD "*")) =
      true := by
    have hshows := Entry.shows_created project p
    refine Entry.isAddressed_iff.2 ⟨?_, hshows.key_eq, fun t ht => ?_⟩
    · unfold Entry.inProject entryIn
      rw [Entry.project_created]
      exact project.sameValue_self
    · cases ht
      exact hshows.scope_eq
  rw [hremote]
  exact ⟨Store.find?_append_new hnone haddressed, rfl⟩

/-- A variable whose project, key and scope are free is created and read from then on. -/
theorem created_and_read (hs : s.remote.faults = [])
    (hfree : s.remote.entries.Lacks project p.key (p.scope.getD "*")) :
    ∃ s₁, (p.createIn project).outcome s = (.ok p.made, s₁) ∧
      ∀ s₂, Client.Later project p.key (p.scope.getD "*") s₁ s₂ →
        ∃ s₃, (Client.getScoped project p.key (p.scope.getD "*")).outcome s₂ =
          (.ok p.made, s₃) := by
  obtain ⟨s₁, hcreated, hremote⟩ := outcome_createIn hs hfree
  refine ⟨s₁, hcreated, fun s₂ hlater => ?_⟩
  have hholds := hlater.holds (holds_of_created hfree hremote)
  obtain ⟨s₃, -, -, hrun⟩ := Client.outcome_getVariable project p.key s₂
    (some ⟨some ⟨p.scope.getD "*"⟩⟩)
  have hfound : s₂.remote.entries.find? project p.key (ScopeFilter.scopeOf
      ((some (⟨some ⟨p.scope.getD "*"⟩⟩ : GetRequest)).bind GetRequest.filter)) =
      some (p.entryIn project) := hholds.found
  refine ⟨s₃, hrun.trans ?_⟩
  rw [Remote.look_of_no_faults hholds.faults, hfound]
  simp only
  rw [entryIn, Entry.read_of_shows (Entry.shows_created project p)]
  rfl

/-- A variable that was created is up to date. -/
theorem isUpToDate_made (hkey : Schema.IsName p.key) :
    isUpToDate (some p) (some p.made) = .valid true := by
  have hdifferences : differences (some p) (some p.made) = .valid [] := by
    rw [differences_eq_differing, Observed.toParameters_of_key hkey]
    exact congrArg Schema.Checked.valid (differing_overwrite rfl)
  show (differences (some p) (some p.made)).map (·.isEmpty) = _
  rw [hdifferences]
  rfl

end Parameters

/-- What is projected is a variable that a declaration could be about. -/
theorem Observed.exists_toParameters_iff {o : Observed} :
    (∃ p, o.toParameters = .valid p) ↔ Schema.IsName o.key := by
  constructor
  · rintro ⟨p, hp⟩
    unfold toParameters at hp
    obtain ⟨key, hkey, -⟩ := Schema.Checked.map_eq_valid_iff.1 hp
    have hkey := Schema.Checked.under_eq_valid_iff.1 hkey
    rw [← Schema.nonemptyText_text_eq_valid hkey]
    exact Schema.isName_of_nonemptyText hkey
  · exact fun h => ⟨_, toParameters_of_key h⟩

/-- **Projection and creation are inverse.** Without faults, and where the project, key and scope
are free: a variable whose key is a name has a form as parameters, and what is created from it is
that variable, as is what is read by key and scope after any operations that spare it. What is
created from parameters has every field that they set and the default of the service in every
other, and is up to date for them. -/
theorem creation_inverts_projection (project : ProjectId) {s : Session}
    (hs : s.remote.faults = []) :
    (∀ o : Observed, Schema.IsName o.key → s.remote.entries.Lacks project o.key o.scope →
      ∃ p s₁, o.toParameters = .valid p ∧ (p.createIn project).outcome s = (.ok o, s₁) ∧
        ∀ s₂, Client.Later project o.key o.scope s₁ s₂ →
          ∃ s₃, (Client.getScoped project o.key o.scope).outcome s₂ = (.ok o, s₃)) ∧
    (∀ o : Observed, (∃ p, o.toParameters = .valid p) ↔ Schema.IsName o.key) ∧
    (∀ p : Parameters, Schema.IsName p.key →
      s.remote.entries.Lacks project p.key (p.scope.getD "*") →
      ∃ o s₁, (p.createIn project).outcome s = (.ok o, s₁) ∧
        o = { key := p.key
              value := p.value.getD ""
              kind := p.kind.getD .envVar
              isProtected := p.isProtected.getD false
              masked := p.masked.getD false
              scope := p.scope.getD "*"
              raw := p.raw.getD false } ∧
        isUpToDate (some p) (some o) = .valid true ∧
        ∀ s₂, Client.Later project o.key o.scope s₁ s₂ →
          ∃ s₃, (Client.getScoped project o.key o.scope).outcome s₂ = (.ok o, s₃)) := by
  refine ⟨fun o hkey hfree => ?_, fun o => o.exists_toParameters_iff, fun p hkey hfree => ?_⟩
  · obtain ⟨s₁, hcreated, hread⟩ := Parameters.created_and_read (p := o.asParameters) hs hfree
    exact ⟨o.asParameters, s₁, Observed.toParameters_of_key hkey, hcreated, hread⟩
  · obtain ⟨s₁, hcreated, hread⟩ := Parameters.created_and_read hs hfree
    exact ⟨p.made, s₁, hcreated, rfl, Parameters.isUpToDate_made hkey, hread⟩

/-- A masked variable without a value, beside one of another scope that is removed later; and
parameters that set an empty value. The project is addressed by its path. -/
theorem creation_inverts_projection_of_masked :
    let project : ProjectId := .path "group/app"
    let production : Entry := [("project", .str "group/app"), ("key", .str "K"),
      ("environment_scope", .str "production")]
    let s : Session := { remote := ⟨[production], []⟩ }
    let o : Observed := { key := "K", masked := true, scope := "staging" }
    let p : Parameters := { key := "K", value := some "", isProtected := some true }
    s.remote.faults = [] ∧
      (∃ q s₁, o.toParameters = .valid q ∧ (q.createIn project).outcome s = (.ok o, s₁) ∧
        let s₂ := ((Client.removeVariable project "K" (some ⟨some ⟨"production"⟩⟩)).outcome s₁).2
        ∃ s₃, (Client.getScoped project "K" "staging").outcome s₂ = (.ok o, s₃)) ∧
      ∃ s₁, (p.createIn project).outcome s = (.ok { key := "K", isProtected := true }, s₁) ∧
        isUpToDate (some p) (some { key := "K", isProtected := true }) = .valid true := by
  intro project production s o p
  have hname : Schema.IsName "K" := ⟨by decide, by decide⟩
  obtain ⟨hprojected, -, hset⟩ := creation_inverts_projection project (s := s) rfl
  refine ⟨rfl, ?_, ?_⟩
  · obtain ⟨q, s₁, hq, hcreated, hread⟩ := hprojected o hname (by decide)
    have hremoved : (Write.delete project "K" (some ⟨some ⟨"production"⟩⟩)).Spares project "K"
        "staging" := fun _ _ => ⟨_, rfl, by decide⟩
    exact ⟨q, s₁, hq, hcreated, hread _ (.remove .start hremoved)⟩
  · obtain ⟨o', s₁, hcreated, rfl, hcurrent, -⟩ := hset p hname (by decide)
    exact ⟨s₁, hcreated, hcurrent⟩

/-- A variable whose key is half of a surrogate pair has no form as parameters. -/
theorem half_is_not_projected :
    let half : String := String.singleton (Text.charOf 0xD800)
    Observed.check .data (.map [(.text "key", .text half)]) = .valid { key := half } ∧
      half ≠ "" ∧
      ({ key := half } : Observed).toParameters = .invalid [⟨[.name "key"], .stringUnicode⟩] :=
  ⟨rfl, by decide, rfl⟩

end CiVariables
