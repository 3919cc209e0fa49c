import CiVariables.Report.Change
import Mathlib.Data.List.Forall2

/-!
# What a shown plan tells about values

The text of a plan depends on the contents of variables only by which of them are null: two plans
that agree on everything else are shown by the same text, or are refused for the same reason
(`Report.plan_conceals_values`). What is declared is not shown at all.
-/

namespace CiVariables

namespace Fields

/-- Two members are the same, or have the same name, one of which `hidden` holds, and values that
`R` relates. -/
inductive MemberUpTo (hidden : String → Prop) (R : Json → Json → Prop) :
    String × Json → String × Json → Prop
  | same (member : String × Json) : MemberUpTo hidden R member member
  | hidden {name : String} {a b : Json} (hname : hidden name) (h : R a b) :
    MemberUpTo hidden R (name, a) (name, b)

/-- The members agree one by one, in order, except for the values of hidden names. -/
def UpTo (hidden : String → Prop) (R : Json → Json → Prop) : Fields → Fields → Prop :=
  List.Forall₂ (MemberUpTo hidden R)

/-- Both members have a name, with the same value or with related ones under a hidden name. -/
theorem UpTo.lookup {hidden : String → Prop} {R : Json → Json → Prop} {a b : Fields}
    (h : UpTo hidden R a b) (name : String) :
    Option.Rel (fun v w => v = w ∨ hidden name ∧ R v w) (a.lookup name) (b.lookup name) := by
  induction h with
  | nil => exact .none
  | @cons x y _ _ hmember _ ih =>
    cases hmember with
    | same =>
      obtain ⟨k, v⟩ := x
      rw [List.lookup_cons, List.lookup_cons]
      split
      · exact .some (.inl rfl)
      · exact ih
    | @hidden k v w hk hR =>
      rw [List.lookup_cons, List.lookup_cons]
      split
      · next heq =>
        rw [eq_of_beq heq]
        exact .some (.inr ⟨hk, hR⟩)
      · exact ih

end Fields

namespace Json

/-- Two contents, neither of which is null. -/
def BothPresent (a b : Json) : Prop := a ≠ .null ∧ b ≠ .null

/-- Two differences that agree except for the contents before and after. -/
def DifferenceUpTo (a b : Json) : Prop :=
  ∃ before after, a = .obj before ∧ b = .obj after ∧
    Fields.UpTo (fun name => name = "from" ∨ name = "to") BothPresent before after

end Json

/-- The members agree except for the content of the value. -/
def Fields.UpToValue : Fields → Fields → Prop := UpTo (· = "value") Json.BothPresent

/-- The differences agree except for the contents of the value before and after. -/
def Fields.DiffUpToValue : Fields → Fields → Prop := UpTo (· = "value") Json.DifferenceUpTo

/-- The changes agree on everything except the contents of values and what is declared. -/
structure Change.UpToValue (a b : Change) : Prop where
  address : a.address = b.address
  resourceType : a.resourceType = b.resourceType
  action : a.action = b.action
  prior : Option.Rel Fields.UpToValue a.prior b.prior
  planned : Option.Rel Fields.UpToValue a.planned b.planned
  diff : Option.Rel Fields.DiffUpToValue a.diff b.diff

/-- The plans agree on everything except the contents of values and what is declared. -/
structure Plan.UpToValue (p q : Plan) : Prop where
  metadata : p.metadata = q.metadata
  changes : List.Forall₂ Change.UpToValue p.changes q.changes

namespace Report

/-! ## One attribute -/

theorem isSensitive_iff {name : String} : isSensitive name = true ↔ name = "value" := beq_iff_eq

/-- A sensitive value that is there is shown as the placeholder. -/
theorem render_of_isSensitive {name : String} (hname : isSensitive name = true) {value : Json}
    (h : value ≠ .null) : render name value = placeholder := by
  cases value <;> first | exact absurd rfl h | exact if_pos hname

/-- Contents that are not null look the same under the name of the value. -/
theorem render_of_bothPresent {name : String} (hname : name = "value") {a b : Json}
    (h : a.BothPresent b) : render name a = render name b := by
  have hsensitive := isSensitive_iff.2 hname
  rw [render_of_isSensitive hsensitive h.1, render_of_isSensitive hsensitive h.2]

theorem render_upToValue {a b : String × Json}
    (h : Fields.MemberUpTo (· = "value") Json.BothPresent a b) :
    (a.1, render a.1 a.2) = (b.1, render b.1 b.2) := by
  cases h with
  | same => rfl
  | hidden hname h => rw [render_of_bothPresent hname h]

/-- A side of a difference is missing on both, or looks the same on both. -/
theorem memberOf_differenceUpTo {a b : Json} (h : a.DifferenceUpTo b) (side : String) :
    (∃ failure, memberOf a side = .error failure ∧ memberOf b side = .error failure) ∨
      ∃ v w, memberOf a side = .ok v ∧ memberOf b side = .ok w ∧
        render "value" v = render "value" w := by
  obtain ⟨before, after, rfl, rfl, hsides⟩ := h
  simp only [memberOf]
  have hrel := hsides.lookup side
  generalize before.lookup side = v?, after.lookup side = w? at hrel
  cases hrel with
  | none => exact .inl ⟨_, rfl, rfl⟩
  | @some v w hvw =>
    refine .inr ⟨v, w, rfl, rfl, ?_⟩
    obtain rfl | ⟨-, hpresent⟩ := hvw
    · rfl
    · exact render_of_bothPresent rfl hpresent

/-- Differences of values look the same, also where they cannot be shown. -/
theorem renderDifference_differenceUpTo {a b : Json} (h : a.DifferenceUpTo b) :
    renderDifference "value" a = renderDifference "value" b := by
  unfold renderDifference
  obtain ⟨failure, ha, hb⟩ | ⟨v, w, ha, hb, hbefore⟩ := memberOf_differenceUpTo h "from"
  · rw [ha, hb]
  obtain ⟨failure, ha', hb'⟩ | ⟨v', w', ha', hb', hafter⟩ := memberOf_differenceUpTo h "to"
  · simp only [ha, hb, ha', hb']
  · simp only [ha, hb, ha', hb', hbefore, hafter]

/-! ## The attributes of a change -/

theorem differencePairs_upToValue {a b : Fields} (h : a.DiffUpToValue b) :
    differencePairs a = differencePairs b := by
  induction h with
  | nil => rfl
  | cons hmember _ ih =>
    cases hmember with
    | same => simp only [differencePairs, ih]
    | hidden hname hdifference =>
      subst hname
      simp only [differencePairs, renderDifference_differenceUpTo hdifference, ih]

theorem plannedPairs_upToValue {a b : Fields} (h : a.UpToValue b) :
    (a.map fun (name, value) => (name, render name value)) =
      b.map fun (name, value) => (name, render name value) := by
  induction h with
  | nil => rfl
  | cons hmember _ ih => exact congrArg₂ List.cons (render_upToValue hmember) ih

/-- Key and scope are not hidden. -/
theorem identityPairs_upToValue {a b : Fields} (h : a.UpToValue b) :
    identityPairs a = identityPairs b := by
  have hlookup (name : String) (hname : name ≠ "value") : a.lookup name = b.lookup name := by
    have hrel := h.lookup name
    generalize a.lookup name = v?, b.lookup name = w? at hrel
    cases hrel with
    | none => rfl
    | some hvw => rw [hvw.resolve_right fun hidden => hname hidden.1]
  simp only [identityPairs, List.filterMap_cons, List.filterMap_nil, hlookup "key" (by decide),
    hlookup "environment_scope" (by decide)]

/-- What may be absent is looked at as if it had no members. -/
theorem upTo_getD {hidden : String → Prop} {R : Json → Json → Prop} {a b : Option Fields}
    (h : Option.Rel (Fields.UpTo hidden R) a b) : Fields.UpTo hidden R (a.getD []) (b.getD []) := by
  cases h with
  | none => exact List.Forall₂.nil
  | some h => exact h

/-- The attributes that are shown do not tell the values of two changes apart. -/
theorem attributePairs_upToValue {a b : Change} (h : a.UpToValue b) :
    attributePairs a = attributePairs b := by
  unfold attributePairs
  rw [h.action]
  cases b.action with
  | create => exact congrArg _ (plannedPairs_upToValue (upTo_getD h.planned))
  | update => exact differencePairs_upToValue (upTo_getD h.diff)
  | delete => exact congrArg _ (identityPairs_upToValue (upTo_getD h.prior))
  | keep => rfl

/-! ## Changes and plans -/

theorem change_upToValue (color : Bool) {a b : Change} (h : a.UpToValue b) :
    change color a = change color b := by
  simp only [change, changeLines, attributePairs_upToValue h, h.action, h.resourceType, h.address]

theorem changeBlocks_upToValue (color : Bool) {cs ds : List Change}
    (h : List.Forall₂ Change.UpToValue cs ds) : changeBlocks color cs = changeBlocks color ds := by
  induction h with
  | nil => rfl
  | cons hchange _ ih => simp only [changeBlocks, change_upToValue color hchange, ih]

/-- Whether a change is actionable is not hidden. -/
theorem actionable_upToValue {cs ds : List Change} (h : List.Forall₂ Change.UpToValue cs ds) :
    List.Forall₂ Change.UpToValue (cs.filter (·.isActionable)) (ds.filter (·.isActionable)) := by
  induction h with
  | nil => exact .nil
  | @cons c d _ _ hchange _ ih =>
    have hactionable : c.isActionable = d.isActionable := by
      simp only [Change.isActionable, hchange.action]
    by_cases hd : d.isActionable = true
    · rw [List.filter_cons_of_pos (hactionable.trans hd), List.filter_cons_of_pos hd]
      exact .cons hchange ih
    · rw [List.filter_cons_of_neg (hactionable ▸ hd), List.filter_cons_of_neg hd]
      exact ih

/-- The text of all changes does not tell their values apart. -/
theorem changes_upToValue (color : Bool) {cs ds : List Change}
    (h : List.Forall₂ Change.UpToValue cs ds) : changes color cs = changes color ds := by
  simp only [changes, changeBlocks_upToValue color (actionable_upToValue h)]

theorem countOf_upToValue (a : Action) {cs ds : List Change}
    (h : List.Forall₂ Change.UpToValue cs ds) : Tally.countOf a cs = Tally.countOf a ds := by
  unfold Tally.countOf
  congr 1
  induction h with
  | nil => rfl
  | cons hchange _ ih => rw [List.countP_cons, List.countP_cons, hchange.action, ih]

/-- The counts do not depend on the values. -/
theorem summary_upToValue {p q : Plan} (h : p.UpToValue q) : p.summary = q.summary := by
  simp only [Plan.summary, Tally.ofChanges, countOf_upToValue _ h.changes]

/-- **A shown plan tells nothing about values** except which of them are null: plans that agree on
everything but the contents of values and what is declared are shown by the same text, with and
without color, or are refused for the same reason; so is every change of theirs, and so are the
counts. -/
theorem plan_conceals_values {p q : Plan} (h : p.UpToValue q) (color : Bool) :
    plan color p = plan color q ∧
      changes color p.changes = changes color q.changes ∧
      List.Forall₂ (fun c d => change color c = change color d) p.changes q.changes ∧
      planSummary color p.summary = planSummary color q.summary :=
  ⟨changes_upToValue color h.changes, changes_upToValue color h.changes,
    h.changes.imp fun _ _ => change_upToValue color, by rw [summary_upToValue h]⟩

/-- A plan with a creation and an update of a value from one content to another. -/
def rotation (created before after : String) : Plan :=
  ⟨⟨none, default, false, "1"⟩,
    [{ address := "a", resourceType := "variable", action := .create,
       desired := some [("value", .str created)],
       planned := some [("key", .str "K"), ("value", .str created)] },
     { address := "b", resourceType := "variable", action := .update,
       prior := some [("key", .str "L"), ("value", .str before)],
       diff := some [("value", .obj [("from", .str before), ("to", .str after)]),
         ("masked", .obj [("from", .bool false), ("to", .bool true)])] }]⟩

/-- The two plans of the example differ in their values only. -/
theorem rotation_upToValue (created before after created' before' after' : String) :
    (rotation created before after).UpToValue (rotation created' before' after') := by
  have hpresent (s t : String) : (Json.str s).BothPresent (.str t) := ⟨nofun, nofun⟩
  have hsides : (Json.obj [("from", .str before), ("to", .str after)]).DifferenceUpTo
      (.obj [("from", .str before'), ("to", .str after')]) :=
    ⟨_, _, rfl, rfl, .cons (.hidden (.inl rfl) (hpresent _ _))
      (.cons (.hidden (.inr rfl) (hpresent _ _)) .nil)⟩
  refine ⟨rfl, .cons ⟨rfl, rfl, rfl, .none, .some ?_, .none⟩
    (.cons ⟨rfl, rfl, rfl, .some ?_, .none, .some ?_⟩ .nil)⟩
  · exact .cons (.same _) (.cons (.hidden rfl (hpresent _ _)) .nil)
  · exact .cons (.same _) (.cons (.hidden rfl (hpresent _ _)) .nil)
  · exact .cons (.hidden rfl hsides) (.cons (.same _) .nil)

/-- The texts of two rotations of different secrets. -/
theorem plan_conceals_values_of_rotation :
    (rotation "s" "t" "u").UpToValue (rotation "x" "yy" "zzz") ∧
      plan true (rotation "s" "t" "u") = plan true (rotation "x" "yy" "zzz") ∧
      ∃ text, plan false (rotation "s" "t" "u") = .ok text :=
  ⟨rotation_upToValue _ _ _ _ _ _,
    (plan_conceals_values (rotation_upToValue _ _ _ _ _ _) true).1, _, rfl⟩

end Report

end CiVariables
