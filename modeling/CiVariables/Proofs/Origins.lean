import CiVariables.Proofs.Applying
import CiVariables.Proofs.Planning

/-!
# Where the changes of a plan come from

Whatever faults strike while a plan is made, each of its changes is about one declaration: it
creates the variable, or it was made from the entry that the declaration is about as that entry read
(`Planning.Origin`). Reading uses faults up and leaves the entries alone.
-/

namespace CiVariables

/-- The service after reading from it: faults may have been used up. -/
structure Remote.Looked (r r' : Remote) : Prop where
  entries : r'.entries = r.entries
  readsFreely : r.ReadsFreely → r' = r

/-! ## Changes -/

namespace Planning

/-- A change that is planned for a declaration on a store, to destroy or not. -/
inductive Origin (store : Store) (d : Declaration) : Bool → Change → Prop where
  | creation : Origin store d false (creation d)
  | comparison {e : Entry} {o : Observed} (hentry : d.found? store = some e) (hshows : e.Shows o) :
    Origin store d false (comparison d o o.asParameters)
  | deletion {e : Entry} {o : Observed} (hentry : d.found? store = some e) (hshows : e.Shows o) :
    Origin store d true (deletion d o.asParameters)

/-- A planned change is at the address of its declaration. -/
theorem Origin.address_eq {store : Store} {d : Declaration} {destroy : Bool} {c : Change}
    (h : Origin store d destroy c) : c.address = d.address := by
  cases h <;> rfl

theorem Classified.origin {d : Declaration} {n : Int} {r r' : Remote} {destroy : Bool}
    {x : Option Observed} {c : Change} (hchange : Classified d destroy x (some c))
    (hfinds : d.Finds n r (.ok x) r') : Origin r.entries d destroy c := by
  cases hchange with
  | create => exact .creation
  | update | keep => cases hfinds with
    | present hstrike hentry hshows hform => exact .comparison hentry hshows
  | delete => cases hfinds with
    | present hstrike hentry hshows hform => exact .deletion hentry hshows

/-- Every change of a survey is about one of the declarations. -/
theorem Survey.origin {destroy : Bool} {r r' : Remote} {ds : List Declaration} {calls : List Call}
    {result : Except Failure (List Change)} (h : Survey destroy r ds calls result r')
    {cs : List Change} (hresult : result = .ok cs) {c : Change} (hc : c ∈ cs) :
    ∃ d ∈ ds, Origin r.entries d destroy c := by
  induction h generalizing cs with
  | done =>
    cases hresult
    cases hc
  | stop hn hfinds => cases hresult
  | @next _ _ _ d _ _ _ _ _ result hn hfinds hchange hrest ih =>
    cases result with
    | error failure => cases hresult
    | ok more =>
      cases hresult
      rcases List.mem_append.1 hc with hc | hc
      · rw [Option.mem_toList.1 hc] at hchange
        exact ⟨d, List.mem_cons_self, hchange.origin hfinds⟩
      · obtain ⟨d', hd', hc⟩ := ih rfl hc
        exact ⟨d', List.mem_cons_of_mem d hd', hfinds.entries ▸ hc⟩

variable {provider : Provider} {s s' : Session}

/-- Where the changes of a plan that was made come from. -/
theorem origin_of_plan {now : Timestamp} {destroy : Bool} {ds : List Declaration} {p : Plan}
    (h : (plan provider now destroy ds).outcome s = (.ok p, s')) :
    s.remote.Looked s'.remote ∧ (∃ calls, s.Grows s' calls []) ∧
      ∀ c ∈ p.changes, ∃ d ∈ ds, Origin s.remote.entries d destroy c := by
  obtain ⟨-, calls, hgrows, hsurvey⟩ := survey_of_outcome h
  refine ⟨⟨hsurvey.entries, fun hfree => (hsurvey.of_readsFreely hfree).1⟩, ⟨calls, hgrows⟩, ?_⟩
  intro c hc
  obtain ⟨d, hd, horigin⟩ := hsurvey.origin rfl hc
  exact ⟨d, mem_sortByAddress.1 hd, horigin⟩

/-- Where a change that is handled comes from. -/
theorem origin_of_handled {now : Timestamp} {destroy : Bool} {ds : List Declaration} {p : Plan}
    (h : (plan provider now destroy ds).outcome s = (.ok p, s'))
    {handled : List (Change × Verdict)} {rest : List Change}
    (horder : p.actionable = handled.map Prod.fst ++ rest) {c : Change} {v : Verdict}
    (hmem : (c, v) ∈ handled) :
    c.isActionable = true ∧ ∃ d ∈ ds, Origin s.remote.entries d destroy c := by
  obtain ⟨-, -, horigin⟩ := origin_of_plan h
  have hc : c ∈ p.actionable := by
    rw [horder]
    exact List.mem_append_left rest (List.mem_map_of_mem (f := Prod.fst) hmem)
  obtain ⟨hc, hactionable⟩ := List.mem_filter.1 hc
  exact ⟨hactionable, horigin c hc⟩

end Planning

end CiVariables
