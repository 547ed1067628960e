import Wireframe.Proofs.Metrics.Drawn

/-! # Passes that are counted

A pass that renders a canvas is counted when it is through, and a pass that builds scenes also when
it gets no fonts. A pass that fails in any other way is counted nowhere.
-/

namespace Wireframe

namespace Renderer

open Collector

variable {α β : Type} {renderer : Renderer} {selection : Selection} {spec : Spec Number}
  {before middle after : Collector} {x : Pass α} {f : α → Pass β}

/-! ## Steps that are no passes -/

def SamePasses (before after : Collector) : Prop :=
  ∀ target status, after.count (passKey target status) = before.count (passKey target status)

/-- However the step ends, it leaves the counts of passes as they were. -/
def KeepsPasses (x : Pass α) : Prop := ∀ before, SamePasses before (x.run.run before).2

theorem SamePasses.trans (h : SamePasses before middle)
    (h' : SamePasses middle after) : SamePasses before after :=
  fun target status => (h' target status).trans (h target status)

theorem keepsPasses_pure (a : α) : KeepsPasses (pure a : Pass α) := fun _ _ _ => rfl

theorem keepsPasses_attempt {ε : Type} (cause : ε → RenderError) (x : Except ε α) :
    KeepsPasses (attempt cause x) := by
  intro before target status
  cases x <;> rfl

theorem keepsPasses_record {g : Collector → Collector}
    (h : ∀ collector, SamePasses collector (g collector)) : KeepsPasses (renderer.record g) := by
  intro before
  unfold record
  split
  · exact h before
  · exact fun _ _ => rfl

/-- Two steps, of which the first counts no pass: it fails, or the second goes on. -/
theorem KeepsPasses.bind_cases (hx : KeepsPasses x) {result : Except RenderError β}
    (h : (x >>= f).run.run before = (result, after)) :
    (∃ a middle, SamePasses before middle ∧ (f a).run.run middle = (result, after)) ∨
      ∃ cause, result = .error cause ∧ SamePasses before after := by
  have hkept := hx before
  cases hrun : x.run.run before with
  | mk first middle =>
      rw [hrun] at hkept
      cases first with
      | error cause =>
          rw [run_bind_of_error hrun] at h
          obtain ⟨rfl, rfl⟩ := Prod.mk.inj h
          exact .inr ⟨cause, rfl, hkept⟩
      | ok a =>
          rw [run_bind_of_ok hrun] at h
          exact .inl ⟨a, middle, hkept, h⟩

theorem KeepsPasses.bind (hx : KeepsPasses x) (hf : ∀ a, KeepsPasses (f a)) :
    KeepsPasses (x >>= f) := by
  intro before
  rcases hx.bind_cases (rfl : (x >>= f).run.run before = _) with
    ⟨a, middle, hmiddle, hrun⟩ | ⟨_, -, hkept⟩
  · have hlast := hf a middle
    rw [hrun] at hlast
    exact hmiddle.trans hlast
  · exact hkept

theorem countPlans_samePasses (target : String) (plans : List Plan) (before : Collector) :
    SamePasses before (countPlans target plans before) := by
  intro pass status
  rw [countPlans, count_foldl_countPlan]
  simp

theorem keepsPasses_renderScreen (renderer : Renderer) (screen : Screen Number)
    (selection : Selection) : KeepsPasses (renderer.renderScreen screen selection) := by
  unfold renderScreen
  refine (keepsPasses_attempt _ _).bind fun plans => ?_
  refine (keepsPasses_attempt _ _).bind fun nodes => ?_
  refine (keepsPasses_record fun collector => ?_).bind fun _ => keepsPasses_pure _
  exact countPlans_samePasses _ _ _

theorem keepsPasses_renderScreens (renderer : Renderer) (selection : Selection) (index : Nat)
    (screens : List (Screen Number)) :
    KeepsPasses (renderer.renderScreens selection index screens) := by
  induction screens generalizing index with
  | nil => exact keepsPasses_pure _
  | cons screen screens ih =>
      rw [renderScreens]
      refine (keepsPasses_renderScreen _ _ _).bind fun node => ?_
      exact (ih (index + 1)).bind fun more => keepsPasses_pure _

theorem keepsPasses_route (renderer : Renderer) (spec : Spec Number) :
    KeepsPasses (renderer.route spec) := by
  unfold route
  refine (keepsPasses_attempt _ _).bind fun paths => ?_
  refine (keepsPasses_record fun collector => ?_).bind fun _ => keepsPasses_pure _
  exact fun _ _ => count_recordEdges _ _ _ _

/-! ## Passes by their outcome -/

/-- A pass of a target is counted once under a status, or not at all where there is none, and no
other count of passes changes. -/
def CountsPass (target : String) (status : Option String) (before after : Collector) : Prop :=
  ∀ other ended, after.count (passKey other ended) =
    before.count (passKey other ended) + if other = target ∧ status = some ended then 1 else 0

theorem SamePasses.countsPass (h : SamePasses before after) (target : String) :
    CountsPass target none before after := by
  intro other ended
  rw [h, if_neg nofun, Nat.add_zero]

theorem SamePasses.recordPass_countsPass (h : SamePasses before middle) (target status : String) :
    CountsPass target (some status) before (middle.recordPass target status) := by
  intro other ended
  rw [recordPass, count_increment, h]
  simp only [passKey_inj, Option.some_inj, @eq_comm _ other target]

theorem CountsPass.status_eq {target : String} {status status' : Option String}
    (h : CountsPass target status before after) (h' : CountsPass target status' before after) :
    status = status' := by
  have hsame : ∀ ended, status = some ended ↔ status' = some ended := by
    intro ended
    have hcount := (h target ended).symm.trans (h' target ended)
    by_cases hs : status = some ended <;> by_cases hs' : status' = some ended <;> simp_all
  exact Option.ext hsame

/-- A pass that is counted in some cases is counted in no other one. -/
theorem CountsPass.some_iff {target status : String} {counted : Bool}
    (h : CountsPass target (if counted then some status else none) before after) :
    (CountsPass target (some status) before after ↔ counted = true) ∧
      (counted = false → CountsPass target none before after) := by
  cases counted with
  | true => exact ⟨iff_of_true h rfl, nofun⟩
  | false => exact ⟨iff_of_false (fun hsome => nomatch h.status_eq hsome) nofun, fun _ => h⟩

def statusOf (result : Except RenderError α) : String := if result.isOk then "success" else "error"

def lacksFonts : Except RenderError α → Bool
  | .error (.document (.font _)) => true
  | _ => false

theorem renderCanvas_countsPass (henabled : renderer.settings.enableMetrics = true)
    {result : Except RenderError Markup}
    (h : (renderer.renderCanvas spec selection).run.run before = (result, after)) :
    CountsPass "dom" (if result.isOk then some (statusOf result) else none) before after := by
  -- Every step but the last counts no pass, and fails with the pass or goes on.
  rw [renderCanvas] at h
  rcases (keepsPasses_attempt _ _).bind_cases h with ⟨_, _, haudit, h⟩ | ⟨_, rfl, hfailed⟩
  swap; · exact hfailed.countsPass _
  rcases (keepsPasses_renderScreens _ _ _ _).bind_cases h with ⟨_, _, hscreens, h⟩ |
    ⟨_, rfl, hfailed⟩
  swap; · exact (haudit.trans hfailed).countsPass _
  rcases (keepsPasses_route _ _).bind_cases h with ⟨_, _, hroute, h⟩ | ⟨_, rfl, hfailed⟩
  swap; · exact ((haudit.trans hscreens).trans hfailed).countsPass _
  rcases (keepsPasses_attempt _ _).bind_cases h with ⟨_, _, hoverlay, h⟩ | ⟨_, rfl, hfailed⟩
  swap; · exact (((haudit.trans hscreens).trans hroute).trans hfailed).countsPass _
  rw [run_bind_of_ok (record_run henabled _ _)] at h
  obtain ⟨rfl, rfl⟩ := Prod.mk.inj h
  exact (((haudit.trans hscreens).trans hroute).trans hoverlay).recordPass_countsPass _ _

theorem conclude_countsPass (henabled : renderer.settings.enableMetrics = true)
    {built : Except DocumentError SceneDocument} {result : Except RenderError SceneDocument}
    (h : (renderer.conclude built).run.run before = (result, after)) :
    CountsPass "native" (if result.isOk || lacksFonts result then some (statusOf result) else none)
      before after := by
  have hsame : SamePasses before before := fun _ _ => rfl
  cases built with
  | ok document =>
      rw [conclude, run_bind_of_ok (record_run henabled _ _)] at h
      obtain ⟨rfl, rfl⟩ := Prod.mk.inj h
      exact hsame.recordPass_countsPass _ _
  | error cause =>
      cases cause with
      | font cause =>
          rw [conclude, run_bind_of_ok (record_run henabled _ _)] at h
          obtain ⟨rfl, rfl⟩ := Prod.mk.inj h
          refine SamePasses.recordPass_countsPass (fun target status => ?_) _ _
          rw [recordError, count_increment, if_neg (errorKey_ne_passKey _ _ _ _), Nat.add_zero]
      | resolve cause =>
          obtain ⟨rfl, rfl⟩ := Prod.mk.inj h
          exact hsame.countsPass _
      | scene cause =>
          obtain ⟨rfl, rfl⟩ := Prod.mk.inj h
          exact hsame.countsPass _

theorem buildScenesFrom_countsPass (henabled : renderer.settings.enableMetrics = true) {σ : Type}
    {host : FontHost σ} {state : σ} {result : Except RenderError SceneDocument}
    (h : (renderer.buildScenesFrom spec host state).run.run before = (result, after)) :
    CountsPass "native" (if result.isOk || lacksFonts result then some (statusOf result) else none)
      before after := by
  rw [buildScenesFrom, audit] at h
  cases haudit : renderer.registry.audit spec with
  | error cause =>
      rw [haudit] at h
      obtain ⟨rfl, rfl⟩ := Prod.mk.inj h
      exact SamePasses.countsPass (fun _ _ => rfl) _
  | ok issues =>
      rw [haudit, run_bind_of_ok (attempt_run_ok_iff.mpr ⟨rfl, rfl⟩)] at h
      exact conclude_countsPass henabled h

/-! ## Both targets -/

/-- Where metrics are enabled, a pass over a canvas is counted once under the status of its outcome
exactly when it is through, and a pass over scenes also when it gets no fonts. Any other pass is not
counted. -/
theorem passes_counted (henabled : renderer.settings.enableMetrics = true) :
    (∀ spec selection before result after,
      (renderer.renderCanvas spec selection).run.run before = (result, after) →
        (CountsPass "dom" (some (statusOf result)) before after ↔ result.isOk = true) ∧
          (result.isOk = false → CountsPass "dom" none before after)) ∧
      ∀ (σ : Type) (host : FontHost σ) state spec before result after,
        (renderer.buildScenesFrom spec host state).run.run before = (result, after) →
          (CountsPass "native" (some (statusOf result)) before after ↔
              (result.isOk || lacksFonts result) = true) ∧
            ((result.isOk || lacksFonts result) = false →
              CountsPass "native" none before after) := by
  constructor
  · intro spec selection before result after h
    exact (renderCanvas_countsPass henabled h).some_iff
  · intro σ host state spec before result after h
    exact (buildScenesFrom_countsPass henabled h).some_iff

/-- No font at all: the pass fails, and is counted as an error. -/
theorem passes_counted_fontless :
    let renderer := create Registry.builtin Rules.builtin {}
    let spec : Spec Number := ⟨"", [⟨some "a", "", none, []⟩], []⟩
    let provider : FontProvider := { available := some [] }
    renderer.settings.enableMetrics = true ∧
      ∃ result after,
        (renderer.buildScenesFrom spec FontProvider.host provider).run.run {} = (result, after) ∧
        result.isOk = false ∧ CountsPass "native" (some "error") {} after := by
  intro renderer spec provider
  let run := (renderer.buildScenesFrom spec FontProvider.host provider).run.run {}
  have hfailed : run.1.isOk = false := by decide +kernel
  have hlacks : lacksFonts run.1 = true := by decide +kernel
  have henabled : renderer.settings.enableMetrics = true := rfl
  obtain ⟨-, hscenes⟩ := passes_counted henabled
  have hcounts := (hscenes _ FontProvider.host provider spec {} run.1 run.2 Prod.mk.eta.symm).1.mpr
    (by rw [hlacks, Bool.or_true])
  rw [statusOf, hfailed, if_neg Bool.false_ne_true] at hcounts
  exact ⟨henabled, run.1, run.2, Prod.mk.eta.symm, hfailed, hcounts⟩

/-- The size of an image is a list: the canvas fails, and is counted nowhere. -/
theorem renderCanvas_uncounted :
    let renderer := create Registry.builtin Rules.builtin {}
    let image : Element := .node ⟨"image", none, [("size", .list [.string "a"])]⟩ []
    let spec : Spec Number := ⟨"", [⟨some "a", "", none, [image]⟩], []⟩
    ∃ result after,
      (renderer.renderCanvas spec Selection.none).run.run {} = (result, after) ∧
        result.isOk = false ∧ ¬ CountsPass "dom" (some (statusOf result)) {} after ∧
        after.count (passKey "dom" "success") = 0 ∧ after.count (passKey "dom" "error") = 0 := by
  intro renderer image spec
  let run := (renderer.renderCanvas spec Selection.none).run.run {}
  have hfailed : run.1.isOk = false := by decide +kernel
  have hcounts : run.2.count (passKey "dom" "success") = 0 ∧
      run.2.count (passKey "dom" "error") = 0 := by decide +kernel
  refine ⟨run.1, run.2, Prod.mk.eta.symm, hfailed, fun hcounted => ?_, hcounts⟩
  have herror := hcounted "dom" "error"
  rw [hcounts.2, statusOf, hfailed] at herror
  exact absurd herror (by decide)

end Renderer

end Wireframe
