import Wireframe.Proofs.Flow.Routable
import Wireframe.Proofs.Metrics.Counts
import Wireframe.Renderer

/-! # What becomes of every edge

An edge that joins two screens becomes one path, which depends on nothing but the edge and the last
screens with its two ids; any other edge is dropped. So routing loses, invents and reorders nothing,
and the counts that a router reports add up to the edges it was given.
-/

namespace Wireframe

namespace Flow

/-! ## Ends of edges -/

section

variable {α : Type} {rects : List (Rect α)} {id : Option String} {r : Rect α}

def IsLast (rects : List (Rect α)) (id : Option String) (r : Rect α) : Prop :=
  id = some r.id ∧ ∃ before after, rects = before ++ r :: after ∧ ∀ later ∈ after, later.id ≠ r.id

def Names (rects : List (Rect α)) (id : Option String) : Prop := ∃ r ∈ rects, id = some r.id

instance (rects : List (Rect α)) (id : Option String) : Decidable (Names rects id) :=
  inferInstanceAs (Decidable (∃ r ∈ rects, id = some r.id))

def Joins (rects : List (Rect α)) (edge : FlowEdge) : Prop :=
  Names rects edge.source ∧ Names rects edge.target

instance (rects : List (Rect α)) (edge : FlowEdge) : Decidable (Joins rects edge) :=
  inferInstanceAs (Decidable (Names rects edge.source ∧ Names rects edge.target))

def IsNamed (edges : List FlowEdge) (r : Rect α) : Prop :=
  ∃ edge ∈ edges, edge.source = some r.id ∨ edge.target = some r.id

instance (edges : List FlowEdge) (r : Rect α) : Decidable (IsNamed edges r) :=
  inferInstanceAs (Decidable (∃ edge ∈ edges, edge.source = some r.id ∨ edge.target = some r.id))

/-- What an id names is the last rectangle with it. -/
theorem rect?_eq_some_iff : rect? rects id = some r ↔ IsLast rects id r := by
  unfold rect? IsLast
  rw [Option.bind_eq_some_iff]
  constructor
  · rintro ⟨name, rfl, hfind⟩
    obtain ⟨hid, before, after, hrects, hbefore⟩ := List.find?_eq_some_iff_append.mp hfind
    obtain rfl := eq_of_beq hid
    refine ⟨rfl, after.reverse, before.reverse, ?_, ?_⟩
    · rw [List.reverse_eq_iff.mp hrects, List.reverse_append, List.reverse_cons,
        List.append_assoc, List.singleton_append]
    · simpa using hbefore
  · rintro ⟨hid, before, after, rfl, hafter⟩
    refine ⟨r.id, hid, List.find?_eq_some_iff_append.mpr ⟨beq_self_eq_true _, after.reverse,
      before.reverse, ?_, by simpa using hafter⟩⟩
    rw [List.reverse_append, List.reverse_cons, List.append_assoc, List.singleton_append]

theorem rect?_cons (r : Rect α) (rects : List (Rect α)) (id : Option String) :
    rect? (r :: rects) id = (rect? rects id).or (if id = some r.id then some r else none) := by
  cases id with
  | none => rfl
  | some name =>
      unfold rect?
      rw [Option.bind_some, Option.bind_some, List.reverse_cons, List.find?_append,
        List.find?_singleton]
      simp only [beq_iff_eq, Option.some_inj, @eq_comm _ name]

theorem rect?_eq_none_iff : rect? rects id = none ↔ ¬ Names rects id := by
  unfold Names
  induction rects with
  | nil => cases id <;> simp [rect?]
  | cons r rects ih =>
      rw [rect?_cons, Option.or_eq_none_iff, ih, List.exists_mem_cons_iff, not_or, and_comm]
      simp

theorem rect?_filter {p : Rect α → Bool} (h : ∀ r ∈ rects, id = some r.id → p r = true) :
    rect? (rects.filter p) id = rect? rects id := by
  induction rects with
  | nil => rfl
  | cons r rects ih =>
      rw [List.forall_mem_cons] at h
      rw [List.filter_cons, rect?_cons, ← ih h.2]
      split
      · rw [rect?_cons]
      · next hp => rw [if_neg fun hid => hp (h.1 hid), Option.or_none]

theorem IsLast.eq {other : Rect α} (h : IsLast rects id r) (hother : IsLast rects id other) :
    r = other :=
  Option.some.inj ((rect?_eq_some_iff.mpr h).symm.trans (rect?_eq_some_iff.mpr hother))

theorem rect?_pair (source target : Rect α) (id : Option String) :
    rect? [source, target] id =
      if id = some target.id then some target
      else if id = some source.id then some source else none := by
  have hnil : rect? ([] : List (Rect α)) id = none := by cases id <;> rfl
  rw [rect?_cons, rect?_cons, hnil, Option.none_or]
  split
  · rw [Option.some_or]
  · rw [Option.none_or]

/-- The last rectangles with two ids are still the last ones when there are no others. -/
theorem isLast_pair {source target : Rect α} {first last : Option String}
    (hsource : IsLast rects first source) (htarget : IsLast rects last target) :
    IsLast [source, target] first source ∧ IsLast [source, target] last target := by
  rw [← rect?_eq_some_iff, ← rect?_eq_some_iff, rect?_pair, rect?_pair, if_pos htarget.1]
  refine ⟨?_, rfl⟩
  rw [if_pos hsource.1]
  split
  · -- Both ids are one, and so are the rectangles.
    next hsame =>
    rw [hsame.trans htarget.1.symm] at hsource
    rw [hsource.eq htarget]
  · rfl

theorem Names.of_isLast (h : IsLast rects id r) : Names rects id := by
  obtain ⟨hid, before, after, rfl, -⟩ := h
  exact ⟨r, List.mem_append_right _ List.mem_cons_self, hid⟩

theorem Names.exists_isLast (h : Names rects id) : ∃ r, IsLast rects id r := by
  cases hr : rect? rects id with
  | none => exact absurd h (rect?_eq_none_iff.mp hr)
  | some r => exact ⟨r, rect?_eq_some_iff.mp hr⟩

end

/-! ## Routes -/

section

variable {α : Type} [Scalar α] {style : Style α} {rects : List (Rect α)} {edge : FlowEdge}
  {edges : List FlowEdge} {source target : Rect α}

theorem path_ends {drawn : Path α} (h : path style edge source target = .ok drawn) :
    drawn.source = source.id ∧ drawn.target = target.id := by
  obtain ⟨ends, -, -, -, -, hsource, htarget, -⟩ := path_ok_iff.mp h
  exact ⟨hsource, htarget⟩

def Draws (style : Style α) (rects : List (Rect α)) (edge : FlowEdge) (drawn : Path α) : Prop :=
  ∃ source target, IsLast rects edge.source source ∧ IsLast rects edge.target target ∧
    path style edge source target = .ok drawn

theorem route_cons_of_isLast (hsource : IsLast rects edge.source source)
    (htarget : IsLast rects edge.target target) (edges : List FlowEdge) :
    route style rects (edge :: edges) = (do
      let here ← path style edge source target
      let more ← route style rects edges
      return here :: more) := by
  rw [route, rect?_eq_some_iff.mpr hsource, rect?_eq_some_iff.mpr htarget]

/-- What an edge does to a route: it is dropped, or it becomes the path in front. -/
theorem route_cons_cases (style : Style α) (rects : List (Rect α)) (edge : FlowEdge) :
    (¬ Joins rects edge ∧
        ∀ edges, route style rects (edge :: edges) = route style rects edges) ∨
      ∃ source target, Joins rects edge ∧ IsLast rects edge.source source ∧
        IsLast rects edge.target target ∧
        ∀ edges, route style rects (edge :: edges) = (do
          let here ← path style edge source target
          let more ← route style rects edges
          return here :: more) := by
  by_cases h : Joins rects edge
  · obtain ⟨source, hsource⟩ := h.1.exists_isLast
    obtain ⟨target, htarget⟩ := h.2.exists_isLast
    exact .inr ⟨source, target, h, hsource, htarget, route_cons_of_isLast hsource htarget⟩
  · refine .inl ⟨h, fun edges => ?_⟩
    rw [route]
    split
    · next source target hsource htarget =>
      have hsource' := Names.of_isLast (rect?_eq_some_iff.mp hsource)
      have htarget' := Names.of_isLast (rect?_eq_some_iff.mp htarget)
      exact absurd ⟨hsource', htarget'⟩ h
    · rfl

/-- An edge on its own between the last screens with its ids. -/
theorem route_pair (hsource : IsLast rects edge.source source)
    (htarget : IsLast rects edge.target target) :
    route style [source, target] [edge] =
      (path style edge source target).map fun drawn => [drawn] := by
  obtain ⟨hs, ht⟩ := isLast_pair hsource htarget
  rw [route_cons_of_isLast hs ht, route]
  cases path style edge source target <;> rfl

theorem draws_iff (hsource : IsLast rects edge.source source)
    (htarget : IsLast rects edge.target target) {drawn : Path α} :
    Draws style rects edge drawn ↔ path style edge source target = .ok drawn := by
  constructor
  · rintro ⟨s, t, hs, ht, hpath⟩
    rwa [hs.eq hsource, ht.eq htarget] at hpath
  · intro hpath
    exact ⟨source, target, hsource, htarget, hpath⟩

/-- The edges that join two screens become one path each, in order. -/
theorem route_ok_iff {paths : List (Path α)} :
    route style rects edges = .ok paths ↔
      List.Forall₂ (Draws style rects) (edges.filter fun edge => Joins rects edge) paths := by
  induction edges generalizing paths with
  | nil => rw [route, List.filter_nil, List.forall₂_nil_left_iff, Except.ok.injEq, eq_comm]
  | cons edge edges ih =>
      rcases route_cons_cases style rects edge with ⟨h, hroute⟩ |
        ⟨source, target, h, hsource, htarget, hroute⟩
      · rw [hroute, List.filter_cons_of_neg (by simpa using h), ih]
      · rw [hroute, List.filter_cons_of_pos (by simpa using h), List.forall₂_cons_left_iff]
        simp only [Except.bind_ok_iff, Except.pure_ok_iff, ih, draws_iff hsource htarget]
        constructor
        · rintro ⟨here, hhere, more, hmore, rfl⟩
          exact ⟨here, more, hhere, hmore, rfl⟩
        · rintro ⟨here, more, hhere, hmore, rfl⟩
          exact ⟨here, hhere, more, hmore, rfl⟩

theorem route_append (edges more : List FlowEdge) :
    route style rects (edges ++ more) = (do
      let here ← route style rects edges
      let there ← route style rects more
      return here ++ there) := by
  induction edges with
  | nil =>
      rw [List.nil_append, route, Except.ok_bind]
      exact (bind_pure _).symm
  | cons edge edges ih =>
      rw [List.cons_append]
      rcases route_cons_cases style rects edge with ⟨-, hroute⟩ | ⟨_, _, -, -, -, hroute⟩
      · rw [hroute, hroute, ih]
      · rw [hroute, hroute, ih]
        simp only [bind_assoc, pure_bind, List.cons_append]

/-- Edges that do not join two screens do not matter. -/
theorem route_filter_joins (edges : List FlowEdge) :
    route style rects (edges.filter fun edge => Joins rects edge) = route style rects edges := by
  induction edges with
  | nil => rfl
  | cons edge edges ih =>
      rcases route_cons_cases style rects edge with ⟨h, hroute⟩ | ⟨_, _, h, -, -, hroute⟩
      · rw [List.filter_cons_of_neg (by simpa using h), ih, hroute]
      · rw [List.filter_cons_of_pos (by simpa using h), hroute, hroute, ih]

theorem route_congr {others : List (Rect α)}
    (h : ∀ edge ∈ edges, rect? others edge.source = rect? rects edge.source ∧
      rect? others edge.target = rect? rects edge.target) :
    route style others edges = route style rects edges := by
  induction edges with
  | nil => rfl
  | cons edge edges ih =>
      rw [List.forall_mem_cons] at h
      rw [route, route, h.1.1, h.1.2, ih h.2]

/-- Screens that no edge names do not matter. -/
theorem route_filter_isNamed (edges : List FlowEdge) :
    route style (rects.filter fun r => IsNamed edges r) edges = route style rects edges := by
  apply route_congr
  intro edge hedge
  constructor
  · exact rect?_filter fun r _ hid => decide_eq_true ⟨edge, hedge, .inl hid⟩
  · exact rect?_filter fun r _ hid => decide_eq_true ⟨edge, hedge, .inr hid⟩

end

/-! ## What routing keeps -/

/-- Routing loses, invents and reorders nothing. -/
structure Faithful (style : Style Number) (rects : List (Rect Number)) (edges : List FlowEdge) :
    Prop where
  /-- There are paths wherever every coordinate is a double or an integer of moderate size. -/
  result : style.radius.inRange = true → (∀ r ∈ rects, r.Within (2 ^ 51)) →
    (∀ edge ∈ edges, ∀ text ∈ edge.label, (Number.int text.length).inRange = true) →
    ∃ paths, route style rects edges = .ok paths
  /-- The ends of the paths are those of the edges that join two screens, in order. -/
  ends : ∀ paths, route style rects edges = .ok paths →
    paths.map (fun drawn => (some drawn.source, some drawn.target)) =
      (edges.filter fun edge => Joins rects edge).map fun edge => (edge.source, edge.target)
  /-- A path is what becomes of its edge alone between the last screens with its two ids. -/
  alone : ∀ paths, route style rects edges = .ok paths →
    List.Forall₂ (fun edge drawn => ∃ source target,
        IsLast rects edge.source source ∧ IsLast rects edge.target target ∧
          route style [source, target] [edge] = .ok [drawn])
      (edges.filter fun edge => Joins rects edge) paths
  append : ∀ more, route style rects (edges ++ more) = (do
    let here ← route style rects edges
    let there ← route style rects more
    return here ++ there)
  /-- Screens that no edge names change nothing. -/
  unnamed : route style (rects.filter fun r => IsNamed edges r) edges = route style rects edges
  /-- Edges that do not join two screens change nothing. -/
  dropped : route style rects (edges.filter fun edge => Joins rects edge) =
    route style rects edges

theorem faithful {style : Style Number} (hradius : (Number.int 0).lt style.radius = true)
    (rects : List (Rect Number)) (edges : List FlowEdge) : Faithful style rects edges where
  result hrange hrects htext :=
    (route_okIff ⟨.inr hradius, hrange⟩ hrects htext).1 fun hzero => by
      rw [Number.isZero_of_pos hradius] at hzero
      cases hzero
  ends paths h := by
    have hends : List.Forall₂ (fun edge drawn =>
          (edge.source, edge.target) = (some drawn.source, some drawn.target))
        (edges.filter fun edge => Joins rects edge) paths := by
      refine (route_ok_iff.mp h).imp fun edge drawn hdrawn => ?_
      obtain ⟨source, target, hsource, htarget, hpath⟩ := hdrawn
      rw [hsource.1, htarget.1, (path_ends hpath).1, (path_ends hpath).2]
    rw [← List.forall₂_eq_eq_eq, List.forall₂_map_left_iff, List.forall₂_map_right_iff]
    exact hends.flip.imp fun _ _ => Eq.symm
  alone paths h := by
    refine (route_ok_iff.mp h).imp fun edge drawn hdrawn => ?_
    obtain ⟨source, target, hsource, htarget, hpath⟩ := hdrawn
    refine ⟨source, target, hsource, htarget, ?_⟩
    rw [route_pair hsource htarget, hpath]
    rfl
  append := route_append edges
  unnamed := route_filter_isNamed edges
  dropped := route_filter_joins edges

end Flow

namespace Renderer

variable {renderer : Renderer} {spec : Spec Number} {paths : List (Flow.Path Number)}

/-- A pass that routes reports its paths, and the edges that became none. -/
theorem route_run (henabled : renderer.settings.enableMetrics = true)
    (h : Flow.route renderer.flowStyle (renderer.rects spec) spec.flows = .ok paths)
    (collector : Collector) :
    (renderer.route spec).run.run collector =
      (.ok paths, collector.recordEdges paths.length (spec.flows.length - paths.length)) := by
  unfold route record
  rw [h, henabled]
  rfl

/-- The edges of a spec that do not join two screens of it. -/
def droppedEdges (renderer : Renderer) (spec : Spec Number) : List FlowEdge :=
  spec.flows.filter fun edge => ¬ Flow.Joins (renderer.rects spec) edge

theorem length_paths_add
    (h : Flow.route renderer.flowStyle (renderer.rects spec) spec.flows = .ok paths) :
    paths.length + (renderer.droppedEdges spec).length = spec.flows.length := by
  rw [← (Flow.route_ok_iff.mp h).length_eq, droppedEdges]
  simp only [decide_not]
  exact (List.length_eq_length_filter_add _).symm

end Renderer

/-- Routing with a positive radius loses, invents and reorders nothing; and where metrics are
enabled a router counts its paths as routed and all other edges as dropped. -/
theorem routing_accounts_for_edges :
    (∀ (style : Flow.Style Number) (rects : List (Rect Number)) (edges : List FlowEdge),
      (Number.int 0).lt style.radius = true → Flow.Faithful style rects edges) ∧
    ∀ (renderer : Renderer) (spec : Spec Number) (collector : Collector)
      (paths : List (Flow.Path Number)), renderer.settings.enableMetrics = true →
      Flow.route renderer.flowStyle (renderer.rects spec) spec.flows = .ok paths →
      paths.length + (renderer.droppedEdges spec).length = spec.flows.length ∧
        ∃ after, (renderer.route spec).run.run collector = (.ok paths, after) ∧
          collector.ReportsEdges after paths.length (renderer.droppedEdges spec).length := by
  refine ⟨fun style rects edges hradius => Flow.faithful hradius rects edges, ?_⟩
  intro renderer spec collector paths henabled h
  have hlength := Renderer.length_paths_add h
  refine ⟨hlength, _, Renderer.route_run henabled h collector, ?_⟩
  have hdropped : spec.flows.length - paths.length = (renderer.droppedEdges spec).length := by omega
  rw [hdropped]
  exact collector.recordEdges_reports _ _

/-- Three screens, two of them with one id, and edges of which three join two screens. -/
theorem routing_accounts_for_edges_shared :
    let rects := Flow.levelScreens ++ [⟨"b", .int 0, .int 900, .int 280, .int 600⟩]
    let edges : List FlowEdge := [
      ⟨some "a", some "c", none, none⟩, ⟨some "b", some "a", some "Back", none⟩,
      ⟨none, some "b", none, none⟩, Flow.levelEdge, ⟨some "a", some "a", none, none⟩]
    let style : Flow.Style Number := ⟨.int 12, .double 7⟩
    (∃ paths, Flow.route style rects edges = .ok paths ∧
      paths.map (fun drawn => (some drawn.source, some drawn.target)) =
        [(some "b", some "a"), (some "a", some "b"), (some "a", some "a")]) ∧
    let screen (id : String) : Screen Number := ⟨some id, "", none, []⟩
    let spec : Spec Number := ⟨"", [screen "a", screen "b"], edges⟩
    let renderer := Renderer.create Registry.builtin Rules.builtin {}
    ∃ paths after, (renderer.route spec).run.run {} = (.ok paths, after) ∧ paths.length = 3 ∧
      (after.edgeCount "routed").toRat? = some 3 ∧ (after.edgeCount "dropped").toRat? = some 2 := by
  intro rects edges style
  obtain ⟨hfaithful, hcounts⟩ := routing_accounts_for_edges
  have hlabels : ∀ edge ∈ edges, ∀ text ∈ edge.label, (Number.int text.length).inRange = true := by
    decide +kernel
  constructor
  · have faithful := hfaithful style rects edges rfl
    obtain ⟨paths, hpaths⟩ := faithful.result rfl (by decide) hlabels
    refine ⟨paths, hpaths, (faithful.ends paths hpaths).trans ?_⟩
    decide
  · intro screen spec renderer
    have faithful := hfaithful renderer.flowStyle (renderer.rects spec) edges (by decide +kernel)
    obtain ⟨paths, hpaths⟩ := faithful.result (by decide +kernel) (by decide +kernel) hlabels
    obtain ⟨hlength, after, hrun, hreports⟩ := hcounts renderer spec {} paths rfl hpaths
    have hdropped : (renderer.droppedEdges spec).length = 2 := by decide +kernel
    rw [hdropped] at hlength hreports
    have hthree : paths.length = 3 := Nat.add_right_cancel (hlength : _ = 3 + 2)
    rw [hthree] at hreports
    have hrouted := hreports.routed.exact 0 (Collector.edgeCount_empty _) (by norm_num)
    have hlost := hreports.dropped.exact 0 (Collector.edgeCount_empty _) (by norm_num)
    exact ⟨paths, after, hrun, hthree, hrouted, hlost⟩

end Wireframe
