import Wireframe.Proofs.Metrics.Counts
import Wireframe.Proofs.Plan.Materialized
import Wireframe.Proofs.Preview.Canvas

/-! # Plans that are counted

A pass that renders a canvas counts every node of the plans that it has drawn, each under its kind,
and those of unknown types under their types as well. A pass that builds scenes counts none of them.
-/

namespace Wireframe

namespace Renderer

open Collector

variable {α : Type} {renderer : Renderer} {selection : Selection} {spec : Spec Number}
  {before middle after : Collector} {target : String} {heads : List PlanHead}

/-! ## Plans -/

theorem kindName_inj {kind kind' : PlanKind} : kind.name = kind'.name ↔ kind = kind' := by
  cases kind <;> cases kind' <;> decide

theorem count_countPlan (target : String) (before : Collector) (head : PlanHead)
    (key : SampleKey) :
    (countPlan target before head).count key = before.count key +
      (if planKey target head.kind.name = key then 1 else 0) +
      if head.isFallback = true ∧ fallbackKey head.elementType = key then 1 else 0 := by
  unfold countPlan
  dsimp only
  by_cases hfallback : head.isFallback = true
  · rw [if_pos hfallback, recordFallback, count_increment, recordPlan, count_increment]
    simp only [hfallback, true_and]
  · rw [if_neg hfallback, recordPlan, count_increment]
    simp only [hfallback, Bool.false_eq_true, false_and, if_false, Nat.add_zero]

theorem count_foldl_countPlan (target : String) (heads : List PlanHead) (before : Collector)
    (key : SampleKey) :
    (heads.foldl (countPlan target) before).count key = before.count key +
      heads.countP (fun head => planKey target head.kind.name = key) +
      heads.countP fun head => head.isFallback = true ∧ fallbackKey head.elementType = key := by
  induction heads generalizing before with
  | nil => rfl
  | cons head heads ih =>
      rw [List.foldl_cons, ih, count_countPlan, List.countP_cons, List.countP_cons]
      simp only [decide_eq_true_eq]
      omega

/-- The nodes of plans are counted for a target: each under its kind, and one that stands for an
element of unknown type under that type as well. -/
structure CountsPlans (target : String) (heads : List PlanHead) (before after : Collector) :
    Prop where
  kinds : ∀ kind : PlanKind, after.count (planKey target kind.name) =
    before.count (planKey target kind.name) + heads.countP fun head => head.kind = kind
  fallbacks : ∀ type, after.count (fallbackKey type) = before.count (fallbackKey type) +
    heads.countP fun head => head.isFallback = true ∧ typeLabel head.elementType = typeLabel type
  others : ∀ other kind, other ≠ target →
    after.count (planKey other kind) = before.count (planKey other kind)

theorem countPlans_countsPlans (target : String) (plans : List Plan) (before : Collector) :
    CountsPlans target (plans.flatMap Plan.walk) before (countPlans target plans before) where
  kinds kind := by
    rw [countPlans, count_foldl_countPlan]
    simp [planKey_inj, kindName_inj, (planKey_ne_fallbackKey _ _ _).symm]
  fallbacks type := by
    rw [countPlans, count_foldl_countPlan]
    simp [fallbackKey_inj]
  others other kind hother := by
    rw [countPlans, count_foldl_countPlan]
    simp [planKey_inj, hother.symm, (planKey_ne_fallbackKey _ _ _).symm]

theorem countsPlans_nil (target : String) (before : Collector) :
    CountsPlans target [] before before :=
  countPlans_countsPlans target [] before

/-- A pass counts no plans when it counts itself, and none when it counts edges. -/
theorem CountsPlans.recordPass (h : CountsPlans target heads before middle)
    (pass status : String) : CountsPlans target heads before (middle.recordPass pass status) where
  kinds kind := by
    rw [Collector.recordPass, count_increment, if_neg (planKey_ne_passKey _ _ _ _).symm, h.kinds,
      Nat.add_zero]
  fallbacks type := by
    rw [Collector.recordPass, count_increment, if_neg (fallbackKey_ne_passKey _ _ _).symm,
      h.fallbacks, Nat.add_zero]
  others other kind hother := by
    rw [Collector.recordPass, count_increment, if_neg (planKey_ne_passKey _ _ _ _).symm,
      h.others other kind hother, Nat.add_zero]

theorem CountsPlans.recordEdges (h : CountsPlans target heads before middle)
    (routed dropped : Nat) :
    CountsPlans target heads before (middle.recordEdges routed dropped) where
  kinds kind := by rw [count_recordEdges, h.kinds]
  fallbacks type := by rw [count_recordEdges, h.fallbacks]
  others other kind hother := by rw [count_recordEdges, h.others other kind hother]

/-- Nodes that were not counted are counted right only when there are none. -/
theorem CountsPlans.iff_nil (h : CountsPlans target [] before after) :
    CountsPlans target heads before after ↔ heads = [] := by
  constructor
  · intro hheads
    refine List.eq_nil_iff_forall_not_mem.mpr fun head hhead => ?_
    have hcount := (hheads.kinds head.kind).symm.trans (h.kinds head.kind)
    rw [List.countP_nil, Nat.add_left_cancel_iff, List.countP_eq_zero] at hcount
    exact hcount head hhead (decide_eq_true rfl)
  · rintro rfl
    exact h

def Draws {ε ν : Type} (rules : Rules) (target : Target ε ν) (screen : Screen Number)
    (plans : List Plan) : Prop :=
  rules.resolveScreen screen = .ok plans ∧ ∃ nodes, target.materializeAll plans = .ok nodes

def previewTarget (selection : Selection) (screen : Screen Number) : Target PreviewError Markup :=
  Preview.target (screen.id.getD "") selection

/-! ## Canvases -/

theorem renderScreen_counts (henabled : renderer.settings.enableMetrics = true)
    {screen : Screen Number} {node : Markup}
    (h : (renderer.renderScreen screen selection).run.run before = (.ok node, after)) :
    ∃ plans, Draws renderer.rules (previewTarget selection screen) screen plans ∧
      after = countPlans "dom" plans before := by
  rw [renderScreen, run_bind_eq_ok_iff] at h
  obtain ⟨plans, _, hresolve, h⟩ := h
  obtain ⟨hplans, rfl⟩ := attempt_run_ok_iff.mp hresolve
  rw [run_bind_eq_ok_iff] at h
  obtain ⟨nodes, _, hdraw, h⟩ := h
  obtain ⟨hnodes, rfl⟩ := attempt_run_ok_iff.mp hdraw
  rw [run_bind_of_ok (record_run henabled _ _)] at h
  exact ⟨plans, ⟨hplans, nodes, hnodes⟩, (Prod.mk.inj h).2.symm⟩

theorem renderScreens_counts (henabled : renderer.settings.enableMetrics = true) {index : Nat}
    {screens : List (Screen Number)} {nodes : List Markup}
    (h : (renderer.renderScreens selection index screens).run.run before = (.ok nodes, after)) :
    ∃ plans : List (List Plan),
      List.Forall₂ (fun screen plans =>
        Draws renderer.rules (previewTarget selection screen) screen plans) screens plans ∧
      after = countPlans "dom" plans.flatten before := by
  induction screens generalizing index before after nodes with
  | nil => exact ⟨[], .nil, (Prod.mk.inj h).2.symm⟩
  | cons screen screens ih =>
      rw [renderScreens, run_bind_eq_ok_iff] at h
      obtain ⟨node, middle, hnode, h⟩ := h
      dsimp only at h
      rw [run_bind_eq_ok_iff] at h
      obtain ⟨more, last, hmore, h⟩ := h
      obtain ⟨plans, hplans, rfl⟩ := renderScreen_counts henabled hnode
      obtain ⟨others, hothers, hlast⟩ := ih hmore
      refine ⟨plans :: others, .cons hplans hothers, ?_⟩
      rw [← (Prod.mk.inj h).2, hlast, countPlans, countPlans, countPlans, List.flatten_cons,
        List.flatMap_append, List.foldl_append]

theorem route_counts (henabled : renderer.settings.enableMetrics = true)
    {paths : List (Flow.Path Number)}
    (h : (renderer.route spec).run.run before = (.ok paths, after)) :
    after = before.recordEdges paths.length (spec.flows.length - paths.length) := by
  rw [route, run_bind_eq_ok_iff] at h
  obtain ⟨_, _, hpaths, h⟩ := h
  obtain ⟨-, rfl⟩ := attempt_run_ok_iff.mp hpaths
  rw [run_bind_of_ok (record_run henabled _ _)] at h
  obtain ⟨hpaths, hafter⟩ := Prod.mk.inj h
  rw [← hafter, Except.ok.inj hpaths]

/-- Everything that a canvas counts: its plans, its edges and itself. -/
theorem renderCanvas_counts (henabled : renderer.settings.enableMetrics = true) {page : Markup}
    (h : (renderer.renderCanvas spec selection).run.run before = (.ok page, after)) :
    ∃ (plans : List (List Plan)) (routed dropped : Nat),
      List.Forall₂ (fun screen plans =>
        Draws renderer.rules (previewTarget selection screen) screen plans)
          spec.ensureIds.screens plans ∧
      after = ((countPlans "dom" plans.flatten before).recordEdges routed dropped).recordPass
        "dom" "success" := by
  rw [renderCanvas, run_bind_eq_ok_iff] at h
  obtain ⟨_, _, haudit, h⟩ := h
  obtain ⟨-, rfl⟩ := attempt_run_ok_iff.mp haudit
  rw [run_bind_eq_ok_iff] at h
  obtain ⟨_, _, hscreens, h⟩ := h
  obtain ⟨plans, hplans, rfl⟩ := renderScreens_counts henabled hscreens
  rw [run_bind_eq_ok_iff] at h
  obtain ⟨paths, _, hroute, h⟩ := h
  obtain rfl := route_counts henabled hroute
  rw [run_bind_eq_ok_iff] at h
  obtain ⟨_, _, hoverlay, h⟩ := h
  obtain ⟨-, rfl⟩ := attempt_run_ok_iff.mp hoverlay
  rw [run_bind_of_ok (record_run henabled _ _)] at h
  exact ⟨plans, _, _, hplans, (Prod.mk.inj h).2.symm⟩

/-! ## Scene documents -/

theorem draws_of_drawScreens {device : Device} {rules : Rules} {index : Nat}
    {screens : List (Screen Number)} {frames : List Scene}
    (h : device.drawScreens rules index screens = .ok frames) :
    ∃ plans : List (List Plan),
      List.Forall₂ (Draws rules (Scene.target (device.pen true))) screens plans := by
  induction screens generalizing index frames with
  | nil => exact ⟨[], .nil⟩
  | cons screen screens ih =>
      obtain ⟨frame, hframe, h⟩ := Except.bind_ok_iff.mp h
      obtain ⟨more, hmore, -⟩ := Except.bind_ok_iff.mp h
      obtain ⟨plans, hplans, hframe⟩ := Except.bind_ok_iff.mp hframe
      obtain ⟨nodes, hnodes, -⟩ := Except.bind_ok_iff.mp hframe
      obtain ⟨others, hothers⟩ := ih hmore
      exact ⟨plans :: others, .cons
        ⟨Except.mapError_ok_iff.mp hplans, nodes, Except.mapError_ok_iff.mp hnodes⟩ hothers⟩

theorem draw_of_build {σ : Type} {device : Device} {rules : Rules} {host : FontHost σ} {state : σ}
    {document : SceneDocument} (h : device.build rules host state spec = .ok document) :
    device.draw rules spec = .ok document := by
  unfold Device.build at h
  dsimp only at h
  split at h
  · cases h
  · exact h

/-- Everything that a pass over scenes counts when it is through: itself. -/
theorem buildScenesFrom_counts (henabled : renderer.settings.enableMetrics = true) {σ : Type}
    {host : FontHost σ} {state : σ} {document : SceneDocument}
    (h : (renderer.buildScenesFrom spec host state).run.run before = (.ok document, after)) :
    (∃ plans : List (List Plan), List.Forall₂
      (Draws renderer.rules (Scene.target (renderer.settings.device.pen true)))
      spec.screens plans) ∧
      after = before.recordPass "native" "success" := by
  rw [buildScenesFrom, run_bind_eq_ok_iff] at h
  obtain ⟨_, _, haudit, h⟩ := h
  obtain ⟨-, rfl⟩ := attempt_run_ok_iff.mp haudit
  cases hbuild : renderer.settings.device.build renderer.rules host state spec with
  | error cause =>
      rw [hbuild] at h
      cases cause with
      | font cause =>
          rw [conclude, run_bind_of_ok (record_run henabled _ _)] at h
          cases (Prod.mk.inj h).1
      | resolve cause => cases (Prod.mk.inj h).1
      | scene cause => cases (Prod.mk.inj h).1
  | ok built =>
      rw [hbuild, conclude, run_bind_of_ok (record_run henabled _ _)] at h
      obtain ⟨frames, hframes, -⟩ := Except.map_ok_iff.mp (draw_of_build hbuild)
      exact ⟨draws_of_drawScreens hframes, (Prod.mk.inj h).2.symm⟩

/-! ## Both targets -/

theorem walk_flatten_eq_nil_iff {plans : List (List Plan)} :
    plans.flatten.flatMap Plan.walk = [] ↔ plans.flatten = [] := by
  rw [List.flatMap_eq_nil_iff, List.eq_nil_iff_forall_not_mem]
  constructor
  · intro h plan hplan
    obtain ⟨head, parts⟩ := plan
    exact List.cons_ne_nil _ _ ((Tree.preorder_node head parts).symm.trans (h _ hplan))
  · intro h plan hplan
    exact absurd hplan (h plan)

/-- Where metrics are enabled, a canvas counts exactly the plans that it has drawn. A pass over
scenes counts none, which is what it has drawn only where there is nothing to draw. -/
theorem passes_count_plans (henabled : renderer.settings.enableMetrics = true) :
    (∀ spec selection before page after,
      (renderer.renderCanvas spec selection).run.run before = (.ok page, after) →
        ∃ plans : List (List Plan),
          List.Forall₂ (fun screen plans =>
            Draws renderer.rules (previewTarget selection screen) screen plans)
              spec.ensureIds.screens plans ∧
          CountsPlans "dom" (plans.flatten.flatMap Plan.walk) before after) ∧
      ∀ (σ : Type) (host : FontHost σ) state spec before document after,
        (renderer.buildScenesFrom spec host state).run.run before = (.ok document, after) →
          ∃ plans : List (List Plan),
            List.Forall₂
              (Draws renderer.rules (Scene.target (renderer.settings.device.pen true)))
                spec.screens plans ∧
            CountsPlans "native" [] before after ∧
            (CountsPlans "native" (plans.flatten.flatMap Plan.walk) before after ↔
              plans.flatten = []) := by
  constructor
  · intro spec selection before page after h
    obtain ⟨plans, routed, dropped, hplans, rfl⟩ := renderCanvas_counts henabled h
    have hcounts := countPlans_countsPlans "dom" plans.flatten before
    exact ⟨plans, hplans, (hcounts.recordEdges routed dropped).recordPass _ _⟩
  · intro σ host state spec before document after h
    obtain ⟨⟨plans, hplans⟩, rfl⟩ := buildScenesFrom_counts henabled h
    have hcounts := (countsPlans_nil "native" before).recordPass "native" "success"
    exact ⟨plans, hplans, hcounts, hcounts.iff_nil.trans walk_flatten_eq_nil_iff⟩

/-- Two screens with two texts in a box and two elements of unknown types, one without a name. -/
theorem passes_count_plans_box :
    let renderer := create Registry.builtin Rules.builtin {}
    let leaf (type : String) : Element := .node ⟨type, none, []⟩ []
    let box : Element := .node ⟨"box", none, []⟩ [leaf "text", leaf "gauge", leaf "text"]
    let spec : Spec Number := ⟨"", [⟨none, "", none, [box]⟩, ⟨none, "", none, [leaf ""]⟩], []⟩
    renderer.settings.enableMetrics = true ∧
      ∃ page plans after,
        (renderer.renderCanvas spec Selection.none).run.run {} = (.ok page, after) ∧
        CountsPlans "dom" (List.flatMap Plan.walk plans) {} after ∧
        after.count (planKey "dom" "container") = 1 ∧ after.count (planKey "dom" "text") = 4 ∧
        after.count (fallbackKey "gauge") = 1 ∧ after.count (fallbackKey "") = 1 := by
  intro renderer leaf box spec
  let run := (renderer.renderCanvas spec Selection.none).run.run {}
  have hrun : run.1.isOk = true := by decide +kernel
  have hkinds : run.2.count (planKey "dom" "container") = 1 ∧
      run.2.count (planKey "dom" "text") = 4 := by decide +kernel
  have hunknown : run.2.count (fallbackKey "gauge") = 1 ∧ run.2.count (fallbackKey "") = 1 := by
    decide +kernel
  obtain ⟨page, hpage⟩ := Except.isOk_iff_exists.mp hrun
  have henabled : renderer.settings.enableMetrics = true := rfl
  obtain ⟨hcanvas, -⟩ := passes_count_plans henabled
  have hpair : run = (.ok page, run.2) := by rw [← hpage, Prod.mk.eta]
  obtain ⟨plans, -, hcounts⟩ := hcanvas spec Selection.none {} page run.2 hpair
  exact ⟨henabled, page, plans.flatten, run.2, hpair, hcounts, hkinds.1, hkinds.2, hunknown⟩

/-- A screen with one text: the pass over scenes draws it, and counts nothing. -/
theorem buildScenes_uncounted :
    let renderer := create Registry.builtin Rules.builtin {}
    let screen : Screen Number := ⟨none, "", none, [.node ⟨"text", none, []⟩ []]⟩
    ∃ document after plans,
      (renderer.buildScenes ⟨"", [screen], []⟩ {}).run.run {} = (.ok document, after) ∧
        renderer.rules.resolveScreen screen = .ok plans ∧
        (plans.flatMap Plan.walk).countP (fun head => head.kind = .text) = 1 ∧
        after.count (planKey "native" "text") = 0 := by
  intro renderer screen
  let run := (renderer.buildScenes ⟨"", [screen], []⟩ {}).run.run {}
  have hrun : run.1.isOk = true := by decide +kernel
  have hcount : run.2.count (planKey "native" "text") = 0 := by decide +kernel
  have hplans : (renderer.rules.resolveScreen screen).toOption.map
      (fun plans => (plans.flatMap Plan.walk).countP fun head => head.kind = .text) = some 1 := by
    decide +kernel
  obtain ⟨document, hdocument⟩ := Except.isOk_iff_exists.mp hrun
  have hpair : run = (.ok document, run.2) := by rw [← hdocument, Prod.mk.eta]
  cases h : renderer.rules.resolveScreen screen with
  | error cause =>
      rw [h] at hplans
      cases hplans
  | ok plans =>
      rw [h] at hplans
      exact ⟨document, run.2, plans, hpair, rfl, Option.some.inj hplans, hcount⟩

end Renderer

end Wireframe
