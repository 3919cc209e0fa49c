import CiVariables.Marker
import Mathlib.Data.Set.Card

/-!
# Where referred names stand

A name that a record refers to stands at the end of a route: through fields that hold records to
one that is marked, and from there through lists to a text or to a named value. The names are
collected route by route (`Record.references_enumerate_routes`): each route that leads to a name is
followed once, no other name is found, and routes that end in a record's own fields come before
those that go further, otherwise in the order of fields and items.

The collecting is made of lists put one after the other, and `Enumerates` says of a list that it
holds what stands at some places, in their order; it is shown of each part and kept where parts are
joined.
-/

namespace CiVariables

/-! ## Listing what stands at places -/

variable {ρ σ τ ν ω : Type}

/-- The list holds what stands at the places, once for each place and in the order of the places. -/
def Enumerates (before : ρ → ρ → Prop) (standsAt : ρ → ν → Prop) (found : List ν) : Prop :=
  ∃ places : List ρ, places.length = found.length ∧ places.Pairwise before ∧
    ∀ place x, standsAt place x ↔ (place, x) ∈ places.zip found

namespace Enumerates

variable {before : ρ → ρ → Prop} {standsAt standsAt' : ρ → ν → Prop} {xs ys : List ν}

/-- What is enumerated depends on what stands where only. -/
theorem congr (h : Enumerates before standsAt xs)
    (heq : ∀ place x, standsAt' place x ↔ standsAt place x) : Enumerates before standsAt' xs := by
  obtain ⟨places, hlength, hpairwise, hstands⟩ := h
  refine ⟨places, hlength, hpairwise, fun place x => ?_⟩
  rw [heq, hstands]

theorem nil (h : ∀ place x, ¬standsAt place x) : Enumerates before standsAt [] := by
  refine ⟨[], rfl, .nil, fun place x => ?_⟩
  simp [h]

/-- At one place stands at most one thing. -/
theorem ofOption (place : ρ) (x? : Option ν) (h : ∀ p x, standsAt p x ↔ p = place ∧ x? = some x) :
    Enumerates before standsAt x?.toList := by
  cases x? with
  | none => exact nil fun p x => by simp [h]
  | some x =>
    refine ⟨[place], rfl, List.pairwise_singleton _ _, fun p y => ?_⟩
    simp [h, eq_comm]

/-- Where all places of one list come before all of another, the lists stand one after the other. -/
theorem append (hxs : Enumerates before standsAt xs) (hys : Enumerates before standsAt' ys)
    (h : ∀ p q x y, standsAt p x → standsAt' q y → before p q) :
    Enumerates before (fun p x => standsAt p x ∨ standsAt' p x) (xs ++ ys) := by
  obtain ⟨ps, hps, hpairwise, hstands⟩ := hxs
  obtain ⟨qs, hqs, hpairwise', hstands'⟩ := hys
  have hplace {places : List ρ} {found : List ν} (hlength : places.length = found.length) {p : ρ}
      (hp : p ∈ places) : ∃ x, (p, x) ∈ places.zip found := by
    rw [← List.map_fst_zip (Nat.le_of_eq hlength)] at hp
    obtain ⟨⟨_, x⟩, hmem, rfl⟩ := List.mem_map.1 hp
    exact ⟨x, hmem⟩
  refine ⟨ps ++ qs, by simp [hps, hqs], List.pairwise_append.2 ⟨hpairwise, hpairwise', ?_⟩, ?_⟩
  · intro p hp q hq
    obtain ⟨x, hx⟩ := hplace hps hp
    obtain ⟨y, hy⟩ := hplace hqs hq
    exact h p q x y ((hstands p x).2 hx) ((hstands' q y).2 hy)
  · intro p x
    rw [List.zip_append hps, List.mem_append, ← hstands, ← hstands']

/-- Places may be named anew and what is found may be changed, if the order of places is kept. -/
theorem map {after : σ → σ → Prop} {standsAt' : σ → ω → Prop} (f : ρ → σ) (g : ν → ω)
    (h : Enumerates before standsAt xs) (hf : ∀ p q, before p q → after (f p) (f q))
    (heq : ∀ p y, standsAt' p y ↔ ∃ q x, f q = p ∧ g x = y ∧ standsAt q x) :
    Enumerates after standsAt' (xs.map g) := by
  obtain ⟨places, hlength, hpairwise, hstands⟩ := h
  refine ⟨places.map f, by simp [hlength], hpairwise.map f hf, fun p y => ?_⟩
  rw [heq, List.zip_map, List.mem_map]
  constructor
  · rintro ⟨q, x, rfl, rfl, hx⟩
    exact ⟨(q, x), (hstands q x).1 hx, rfl⟩
  · rintro ⟨⟨q, x⟩, hmem, heq⟩
    cases heq
    exact ⟨q, x, rfl, rfl, (hstands q x).2 hmem⟩

/-- What stands at places of two sorts, all of the first before all of the second. -/
theorem join {before' : σ → σ → Prop} {after : τ → τ → Prop} {standsAt' : σ → ν → Prop}
    {joined : τ → ν → Prop} {f : ρ → τ} {g : σ → τ}
    (hxs : Enumerates before standsAt xs) (hys : Enumerates before' standsAt' ys)
    (hf : ∀ p q, before p q → after (f p) (f q)) (hg : ∀ p q, before' p q → after (g p) (g q))
    (hfg : ∀ p q x, standsAt' q x → after (f p) (g q))
    (heq : ∀ place x, joined place x ↔
      (∃ p, f p = place ∧ standsAt p x) ∨ ∃ q, g q = place ∧ standsAt' q x) :
    Enumerates after joined (xs ++ ys) := by
  have hfirst : Enumerates after (fun place x => ∃ p, f p = place ∧ standsAt p x) xs := by
    simpa using hxs.map f id hf fun place x => by simp
  have hothers : Enumerates after (fun place x => ∃ q, g q = place ∧ standsAt' q x) ys := by
    simpa using hys.map g id hg fun place x => by simp
  refine (hfirst.append hothers ?_).congr heq
  rintro _ _ x y ⟨p, rfl, -⟩ ⟨q, rfl, hq⟩
  exact hfg p q y hq

/-- The places at which something is listed. -/
def placesOf [DecidableEq ν] (places : List ρ) (found : List ν) (x : ν) : List ρ :=
  ((places.zip found).filter fun pair => pair.2 = x).map Prod.fst

/-- There are as many places of a thing as the list has occurrences of it. -/
theorem length_placesOf [DecidableEq ν] {places : List ρ} (h : places.length = xs.length) (x : ν) :
    (placesOf places xs x).length = xs.count x := by
  have hxs : (places.zip xs).map Prod.snd = xs := List.map_snd_zip (Nat.le_of_eq h.symm)
  have hcount : ((places.zip xs).map Prod.snd).count x = (placesOf places xs x).length := by
    rw [placesOf, List.length_map, List.count, List.countP_map, List.countP_eq_length_filter]
    rfl
  rw [← hcount, hxs]

theorem nodup_placesOf [DecidableEq ν] {places : List ρ} (h : places.length = xs.length)
    (hnodup : places.Nodup) (x : ν) : (placesOf places xs x).Nodup := by
  have hall : ((places.zip xs).map Prod.fst).Nodup := by
    rwa [List.map_fst_zip (Nat.le_of_eq h)]
  exact hall.sublist (List.filter_sublist.map Prod.fst)

/-- As often as something is listed, so many are the places where it stands. -/
theorem count_eq [DecidableEq ν] (h : Enumerates before standsAt xs) (hirrefl : ∀ p, ¬before p p)
    (x : ν) : xs.count x = {place | standsAt place x}.ncard := by
  classical
  obtain ⟨places, hlength, hpairwise, hstands⟩ := h
  have hnodup : places.Nodup := by
    refine hpairwise.imp ?_
    rintro p q hbefore rfl
    exact hirrefl p hbefore
  have hset : {place | standsAt place x} = ((placesOf places xs x).toFinset : Set ρ) := by
    ext place
    simp [placesOf, hstands]
  rw [hset, Set.ncard_coe_finset, List.toFinset_card_of_nodup (nodup_placesOf hlength hnodup x),
    length_placesOf hlength]

end Enumerates

/-! ## Names in a value -/

namespace Marker

/-- The first marker that refers to resources gives this type. -/
def FirstTarget (markers : List Marker) (type : Option String) : Prop :=
  ∃ before after, markers = before ++ refersTo type :: after ∧ ∀ t, refersTo t ∉ before

theorem target?_eq_some_iff {markers : List Marker} {type : Option String} :
    target? markers = some type ↔ FirstTarget markers type := by
  constructor
  · intro h
    induction markers with
    | nil => cases h
    | cons marker rest ih =>
      cases marker with
      | refersTo t =>
        cases h
        exact ⟨[], rest, rfl, fun _ => List.not_mem_nil⟩
      | compared strategy =>
        obtain ⟨before, after, rfl, hbefore⟩ := ih h
        refine ⟨compared strategy :: before, after, rfl, fun t => ?_⟩
        simp [hbefore]
  · rintro ⟨before, after, rfl, hbefore⟩
    induction before with
    | nil => rfl
    | cons marker before ih =>
      cases marker with
      | refersTo t => exact absurd List.mem_cons_self (hbefore t)
      | compared strategy => exact ih fun t ht => hbefore t (List.mem_cons_of_mem _ ht)

end Marker

namespace Attribute

/-- The fields of a value that is an object with fields. -/
def fields? : Attribute → Option Record
  | reference r => some [("name", [], plain (.str r.name))]
  | selector s => some [("match_labels", [], plain (.obj (s.labels.map fun (k, v) => (k, .str v))))]
  | secret s => some [("env", [], plain (.str s.env))]
  | record fields => some fields
  | plain _ | kind _ | list _ => none

/-- A name stands in a value: at the end of a path through lists stands a text, or an object with
fields one of which is a text called `name`. -/
inductive HoldsName : Attribute → List Nat → String → Prop
  | text {a : Attribute} {name : String} (h : a.text? = some name) : HoldsName a [] name
  | named {a : Attribute} {fields : Record} {name : String} (hfields : a.fields? = some fields)
    (h : nameField? fields = some name) : HoldsName a [] name
  | item {items : List Attribute} {a : Attribute} {i : Nat} {path : List Nat} {name : String}
    (hitem : items[i]? = some a) (h : HoldsName a path name) :
    HoldsName (.list items) (i :: path) name

theorem holdsName_iff {a : Attribute} (hlist : ∀ items, a ≠ .list items) {path : List Nat}
    {name : String} : a.HoldsName path name ↔ path = [] ∧ (a.text? = some name ∨
      ∃ fields, a.fields? = some fields ∧ nameField? fields = some name) := by
  constructor
  · intro h
    cases h with
    | text h => exact ⟨rfl, .inl h⟩
    | named hfields h => exact ⟨rfl, .inr ⟨_, hfields, h⟩⟩
    | item => exact absurd rfl (hlist _)
  · rintro ⟨rfl, h | ⟨fields, hfields, h⟩⟩
    · exact .text h
    · exact .named hfields h

/-- A name stands in one of the items. -/
def ItemHoldsName (items : List Attribute) (path : List Nat) (name : String) : Prop :=
  ∃ i rest a, path = i :: rest ∧ items[i]? = some a ∧ a.HoldsName rest name

theorem holdsName_list_iff {items : List Attribute} {path : List Nat} {name : String} :
    (list items).HoldsName path name ↔ ItemHoldsName items path name := by
  constructor
  · intro h
    cases h with
    | text h => cases h
    | named h => cases h
    | item hitem h => exact ⟨_, _, _, rfl, hitem, h⟩
  · rintro ⟨i, rest, a, rfl, hitem, h⟩
    exact .item hitem h

/-- The name that a value is or has, if it is no list. -/
theorem enumerates_own {a : Attribute} (hlist : ∀ items, a ≠ .list items) :
    Enumerates (· < ·) a.HoldsName a.names := by
  have hnone (htext : a.text? = none) (hfields : a.fields? = none) :
      Enumerates (· < ·) a.HoldsName [] := by
    refine .nil fun path name => ?_
    rw [holdsName_iff hlist, htext, hfields]
    simp
  have htext {s : String} (htext : a.text? = some s) (hfields : a.fields? = none) :
      Enumerates (· < ·) a.HoldsName [s] := by
    refine .ofOption [] (some s) fun path name => ?_
    rw [holdsName_iff hlist, htext, hfields]
    simp
  have hnamed {fields : Record} (htext : a.text? = none) (hfields : a.fields? = some fields) :
      Enumerates (· < ·) a.HoldsName (nameField? fields).toList := by
    refine .ofOption [] (nameField? fields) fun path name => ?_
    rw [holdsName_iff hlist, htext, hfields]
    simp
  cases a with
  | plain j =>
    cases j with
    | str s => exact htext rfl rfl
    | null | bool | int | float | arr | obj => exact hnone rfl rfl
  | kind k => exact htext rfl rfl
  | reference r => exact hnamed rfl rfl
  | selector | secret => exact hnamed rfl rfl
  | list items => exact absurd rfl (hlist items)
  | record fields =>
    unfold names
    have hfound := hnamed rfl rfl
    cases hname : nameField? fields with
    | none => rwa [hname] at hfound
    | some name => rwa [hname] at hfound

/-- The path that leads one item further. -/
def nextItem : List Nat → List Nat
  | [] => []
  | i :: path => (i + 1) :: path

/-- The places of later items come later. -/
theorem nextItem_lt {p q : List Nat} (h : p < q) : nextItem p < nextItem q := by
  cases p with
  | nil =>
    cases q with
    | nil => exact absurd h (List.not_lt_nil _)
    | cons j q => exact List.nil_lt_cons _ _
  | cons i p =>
    cases q with
    | nil => exact absurd h (List.not_lt_nil _)
    | cons j q =>
      rw [List.cons_lt_cons_iff] at h
      rcases h with hlt | ⟨rfl, hlt⟩
      · exact List.cons_lt_cons_iff.2 (.inl (Nat.succ_lt_succ hlt))
      · exact List.cons_lt_cons_iff.2 (.inr ⟨rfl, hlt⟩)

theorem itemHoldsName_cons_iff {a : Attribute} {rest : List Attribute} {path : List Nat}
    {name : String} : ItemHoldsName (a :: rest) path name ↔
      (∃ inner, 0 :: inner = path ∧ a.HoldsName inner name) ∨
        ∃ next, nextItem next = path ∧ ItemHoldsName rest next name := by
  constructor
  · rintro ⟨i, inner, b, rfl, hitem, h⟩
    cases i with
    | zero =>
      cases hitem
      exact .inl ⟨inner, rfl, h⟩
    | succ i => exact .inr ⟨i :: inner, rfl, i, inner, b, rfl, hitem, h⟩
  · rintro (⟨inner, rfl, h⟩ | ⟨_, rfl, i, inner, b, rfl, hitem, h⟩)
    · exact ⟨0, inner, a, rfl, rfl, h⟩
    · exact ⟨i + 1, inner, b, rfl, hitem, h⟩

theorem enumerates_items_cons {a : Attribute} {rest : List Attribute} {xs ys : List String}
    (ha : Enumerates (· < ·) a.HoldsName xs) (hrest : Enumerates (· < ·) (ItemHoldsName rest) ys) :
    Enumerates (· < ·) (ItemHoldsName (a :: rest)) (xs ++ ys) := by
  refine ha.join hrest (fun p q => List.cons_lt_cons_self.2) (fun p q => nextItem_lt) ?_
    fun path name => itemHoldsName_cons_iff
  rintro p _ name ⟨i, inner, b, rfl, -⟩
  exact List.cons_lt_cons_iff.2 (.inl (Nat.succ_pos i))

mutual

/-- The names of a value are those that stand in it, path by path. -/
theorem enumerates_names : ∀ a : Attribute, Enumerates (· < ·) a.HoldsName a.names
  | .list items => (enumerates_namesOfItems items).congr fun _ _ => holdsName_list_iff
  | .plain _ | .kind _ | .reference _ | .selector _ | .secret _ | .record _ =>
    enumerates_own fun _ => nofun

/-- The names of a list are those of its items, one after the other. -/
theorem enumerates_namesOfItems : ∀ items : List Attribute,
    Enumerates (· < ·) (ItemHoldsName items) (namesOfItems items)
  | [] => .nil fun _ _ ⟨_, _, _, _, hitem, _⟩ => by simp at hitem
  | a :: rest => enumerates_items_cons (enumerates_names a) (enumerates_namesOfItems rest)

end

end Attribute

/-! ## Names in a record -/

/-- How a name is reached: in one of a record's own fields along a path through lists, or within
the record that one of the fields holds. -/
inductive Route where
  | own (field : Nat) (path : List Nat)
  | within (field : Nat) (rest : Route)

namespace Route

/-- A record's own fields come before the records in them, and both in the order of fields. -/
inductive Before : Route → Route → Prop
  | within (i j : Nat) (path : List Nat) (rest : Route) : Before (.own i path) (.within j rest)
  | ownField {i j : Nat} (h : i < j) (p q : List Nat) : Before (.own i p) (.own j q)
  | item (i : Nat) {p q : List Nat} (h : p < q) : Before (.own i p) (.own i q)
  | innerField {i j : Nat} (h : i < j) (r s : Route) : Before (.within i r) (.within j s)
  | inner (i : Nat) {r s : Route} (h : Before r s) : Before (.within i r) (.within i s)

/-- No route comes before itself. -/
theorem not_before_self (r : Route) : ¬Before r r := by
  induction r with
  | own i path =>
    intro h
    cases h with
    | ownField h => exact Nat.lt_irrefl i h
    | item _ h => exact List.lt_irrefl path h
  | within i rest ih =>
    intro h
    cases h with
    | innerField h => exact Nat.lt_irrefl i h
    | inner _ h => exact ih h

/-- The route that begins one field further. -/
def nextField : Route → Route
  | own i path => own (i + 1) path
  | within i rest => within (i + 1) rest

theorem Before.nextField {r s : Route} (h : Before r s) : Before r.nextField s.nextField := by
  cases h with
  | within => exact .within _ _ _ _
  | ownField h => exact .ownField (Nat.succ_lt_succ h) _ _
  | item i h => exact .item _ h
  | innerField h => exact .innerField (Nat.succ_lt_succ h) _ _
  | inner i h => exact .inner _ h

end Route

namespace Record

/-- A name stands at the end of a route: the route leads through fields that hold records to a
field marked as referring to resources, whose value holds the name. The first such marker gives
the type. -/
inductive FoundAt : Record → Route → ResourceName → Prop
  | own {fields : Record} {i : Nat} {label : String} {markers : List Marker} {value : Attribute}
    {path : List Nat} {found : ResourceName} (hfield : fields[i]? = some (label, markers, value))
    (htype : Marker.FirstTarget markers found.type) (hname : value.HoldsName path found.name) :
    FoundAt fields (.own i path) found
  | within {fields inner : Record} {i : Nat} {label : String} {markers : List Marker}
    {value : Attribute} {rest : Route} {found : ResourceName}
    (hfield : fields[i]? = some (label, markers, value)) (hinner : value.fields? = some inner)
    (h : FoundAt inner rest found) : FoundAt fields (.within i rest) found

/-- A marked field of the record itself holds a name. -/
def OwnAt (fields : Record) (route : Route) (found : ResourceName) : Prop :=
  ∃ i path label markers value, route = .own i path ∧
    fields[i]? = some (label, markers, value) ∧ Marker.FirstTarget markers found.type ∧
      value.HoldsName path found.name

/-- A value is a record in which a name stands. -/
def InnerAt (value : Attribute) (route : Route) (found : ResourceName) : Prop :=
  ∃ inner, value.fields? = some inner ∧ FoundAt inner route found

/-- A field of the record holds a record in which a name stands. -/
def NestedAt (fields : Record) (route : Route) (found : ResourceName) : Prop :=
  ∃ i rest label markers value, route = .within i rest ∧
    fields[i]? = some (label, markers, value) ∧ InnerAt value rest found

/-- A name is found in a field itself or deeper inside one. -/
theorem foundAt_iff {fields : Record} {route : Route} {found : ResourceName} :
    fields.FoundAt route found ↔ fields.OwnAt route found ∨ fields.NestedAt route found := by
  constructor
  · intro h
    cases h with
    | own hfield htype hname => exact .inl ⟨_, _, _, _, _, rfl, hfield, htype, hname⟩
    | within hfield hinner h => exact .inr ⟨_, _, _, _, _, rfl, hfield, _, hinner, h⟩
  · rintro (⟨i, path, label, markers, value, rfl, hfield, htype, hname⟩ |
      ⟨i, rest, label, markers, value, rfl, hfield, inner, hinner, h⟩)
    · exact .own hfield htype hname
    · exact .within hfield hinner h

/-! ### A record's own fields -/

theorem ownAt_cons_iff {label : String} {markers : List Marker} {value : Attribute} {rest : Record}
    {route : Route} {found : ResourceName} :
    OwnAt ((label, markers, value) :: rest) route found ↔
      (∃ path, .own 0 path = route ∧ Marker.FirstTarget markers found.type ∧
        value.HoldsName path found.name) ∨
        ∃ next, next.nextField = route ∧ OwnAt rest next found := by
  constructor
  · rintro ⟨i, path, label', markers', value', rfl, hfield, htype, hname⟩
    cases i with
    | zero =>
      cases hfield
      exact .inl ⟨path, rfl, htype, hname⟩
    | succ i => exact .inr ⟨.own i path, rfl, i, path, _, _, _, rfl, hfield, htype, hname⟩
  · rintro (⟨path, rfl, htype, hname⟩ | ⟨_, rfl, i, path, _, _, _, rfl, hfield, htype, hname⟩)
    · exact ⟨0, path, label, markers, value, rfl, rfl, htype, hname⟩
    · exact ⟨i + 1, path, _, _, _, rfl, hfield, htype, hname⟩

/-- The names in one field, if it is marked. -/
theorem enumerates_marked (markers : List Marker) (value : Attribute) :
    Enumerates (· < ·)
      (fun path (found : ResourceName) =>
        Marker.FirstTarget markers found.type ∧ value.HoldsName path found.name)
      (match Marker.target? markers with
        | some type => value.names.map fun name => ⟨name, type⟩
        | none => []) := by
  simp only [← Marker.target?_eq_some_iff]
  cases htarget : Marker.target? markers with
  | none => exact .nil fun _ _ ⟨htype, _⟩ => by cases htype
  | some type =>
    refine value.enumerates_names.map id _ (fun p q => id) fun path found => ?_
    constructor
    · rintro ⟨htype, hname⟩
      cases htype
      exact ⟨path, found.name, rfl, rfl, hname⟩
    · rintro ⟨path, name, rfl, rfl, hname⟩
      exact ⟨rfl, hname⟩

/-- The references of the fields themselves, by induction over the fields. -/
theorem enumerates_ownReferences (fields : Record) :
    Enumerates Route.Before fields.OwnAt (ownReferences fields) := by
  induction fields with
  | nil => exact .nil fun _ _ ⟨_, _, _, _, _, _, hfield, _⟩ => by simp at hfield
  | cons field rest ih =>
    obtain ⟨label, markers, value⟩ := field
    refine (enumerates_marked markers value).join ih (fun p q => .item 0) (fun r s => .nextField)
      ?_ fun route found => ownAt_cons_iff
    rintro p _ found ⟨i, path, _, _, _, rfl, -⟩
    exact .ownField (Nat.succ_pos i) _ _

/-! ### The records in a record -/

theorem nestedAt_cons_iff {label : String} {markers : List Marker} {value : Attribute}
    {rest : Record} {route : Route} {found : ResourceName} :
    NestedAt ((label, markers, value) :: rest) route found ↔
      (∃ inner, .within 0 inner = route ∧ InnerAt value inner found) ∨
        ∃ next, next.nextField = route ∧ NestedAt rest next found := by
  constructor
  · rintro ⟨i, inner, label', markers', value', rfl, hfield, h⟩
    cases i with
    | zero =>
      cases hfield
      exact .inl ⟨inner, rfl, h⟩
    | succ i => exact .inr ⟨.within i inner, rfl, i, inner, _, _, _, rfl, hfield, h⟩
  · rintro (⟨inner, rfl, h⟩ | ⟨_, rfl, i, inner, _, _, _, rfl, hfield, h⟩)
    · exact ⟨0, inner, label, markers, value, rfl, rfl, h⟩
    · exact ⟨i + 1, inner, _, _, _, rfl, hfield, h⟩

theorem enumerates_nested_cons {label : String} {markers : List Marker} {value : Attribute}
    {rest : Record} {xs ys : List ResourceName}
    (hvalue : Enumerates Route.Before (InnerAt value) xs)
    (hrest : Enumerates Route.Before (NestedAt rest) ys) :
    Enumerates Route.Before (NestedAt ((label, markers, value) :: rest)) (xs ++ ys) := by
  refine hvalue.join hrest (fun r s => .inner 0) (fun r s => .nextField) ?_
    fun route found => nestedAt_cons_iff
  rintro r _ found ⟨i, inner, _, _, _, rfl, -⟩
  exact .innerField (Nat.succ_pos i) _ _

/-- What is found in the fields themselves comes before what is found deeper inside. -/
theorem enumerates_own_nested {fields : Record} {ys : List ResourceName}
    (h : Enumerates Route.Before fields.NestedAt ys) :
    Enumerates Route.Before fields.FoundAt (ownReferences fields ++ ys) := by
  refine ((enumerates_ownReferences fields).append h ?_).congr fun _ _ => foundAt_iff
  rintro r s x y ⟨i, path, _, _, _, rfl, -⟩ ⟨j, rest, _, _, _, rfl, -⟩
  exact .within _ _ _ _

/-- No name is found in an object whose only field is unmarked and holds no record. -/
theorem not_foundAt_single {label : String} {value : Attribute} (h : value.fields? = none)
    (route : Route) (found : ResourceName) : ¬FoundAt [(label, [], value)] route found := by
  intro hfound
  cases hfound with
  | own hfield htype =>
    obtain ⟨before, after, rfl, -⟩ := htype
    have hsingle := List.mem_singleton.1 (List.mem_of_getElem? hfield)
    simp at hsingle
  | within hfield hinner =>
    cases List.mem_singleton.1 (List.mem_of_getElem? hfield)
    rw [h] at hinner
    cases hinner

mutual

/-- The references inside a value, by induction over values and records together. -/
theorem enumerates_referencesIn : ∀ value : Attribute,
    Enumerates Route.Before (InnerAt value) (referencesIn value)
  | .record fields => (enumerates_own_nested (enumerates_nestedReferences fields)).congr
      fun _ _ => by simp [InnerAt, Attribute.fields?]
  | .reference _ | .selector _ | .secret _ => .nil fun route found ⟨inner, hinner, h⟩ => by
      cases hinner
      exact not_foundAt_single rfl route found h
  | .plain _ | .kind _ | .list _ => .nil fun _ _ ⟨_, hinner, _⟩ => by cases hinner

theorem enumerates_nestedReferences : ∀ fields : Record,
    Enumerates Route.Before fields.NestedAt (nestedReferences fields)
  | [] => .nil fun _ _ ⟨_, _, _, _, _, _, hfield, _⟩ => by simp at hfield
  | (_, _, value) :: rest =>
    enumerates_nested_cons (enumerates_referencesIn value) (enumerates_nestedReferences rest)

end

/-- **Referred names are collected route by route**: each route to a name is followed once, in
order, and nothing else is collected; so a name with a type is listed as often as there are routes
to it. -/
theorem references_enumerate_routes (fields : Record) :
    Enumerates Route.Before fields.FoundAt fields.references ∧
      ∀ found, fields.references.count found = {route | fields.FoundAt route found}.ncard := by
  have hroutes := enumerates_own_nested (enumerates_nestedReferences fields)
  exact ⟨hroutes, hroutes.count_eq Route.not_before_self⟩

/-- A marked field that holds a record gives its name, and the record is looked into. -/
example : references
    [("owner", [.refersTo none],
      .record [("name", [.refersTo (some projectType)], .plain (.str "a"))])] =
    [⟨"a", none⟩, ⟨"a", some projectType⟩] := rfl

end Record

end CiVariables
