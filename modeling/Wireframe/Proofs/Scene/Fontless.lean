import Wireframe.Proofs.Plan.Drawable
import Wireframe.Scene.Document

/-! # Scenes without fonts

Before the fonts are there the nodes that show a text are refused, and every other node is drawn as
it is later. Hence a session without fonts refuses exactly the plans that hold such a node, unless an
icon that cannot be drawn at all comes first (`SceneSession.materialize_fontless`).
-/

namespace Wireframe

namespace PlanHead

variable {head : PlanHead}

theorem sceneFailure?_eq_fontsNotLoaded :
    head.sceneFailure? false = some .fontsNotLoaded ↔
      head.isPicturable = true ∧ head.needsFonts = true := by
  unfold sceneFailure?
  cases head.isPicturable <;> cases head.needsFonts <;> simp

theorem sceneFailure?_eq_none :
    head.sceneFailure? false = none ↔ head.isPicturable = true ∧ head.needsFonts = false := by
  unfold sceneFailure?
  cases head.isPicturable <;> cases head.needsFonts <;> simp

theorem eq_fontsNotLoaded_of_isPicturable {fontsLoaded : Bool} {cause : SceneError}
    (hpicturable : head.isPicturable = true) (h : head.sceneFailure? fontsLoaded = some cause) :
    cause = .fontsNotLoaded := by
  unfold sceneFailure? at h
  rw [hpicturable] at h
  cases hgate : head.needsFonts && !fontsLoaded <;> simp_all

theorem sceneFailure?_loaded {cause : SceneError} (hother : cause ≠ .fontsNotLoaded)
    (h : head.sceneFailure? false = some cause) : head.sceneFailure? true = some cause := by
  unfold sceneFailure? at h ⊢
  cases hpicturable : head.isPicturable with
  | false => rwa [hpicturable] at h
  | true =>
      rw [hpicturable] at h
      cases hneeds : head.needsFonts with
      | false => simp [hneeds] at h
      | true =>
          rw [hneeds] at h
          exact absurd (Option.some.inj h).symm hother

/-- Of the nodes of a plan, the first that a session without fonts refuses is refused for want of
them exactly if one shows a text and every node up to it can be drawn. -/
theorem findSome?_sceneFailure?_eq_fontsNotLoaded {walk : List PlanHead} :
    walk.findSome? (sceneFailure? false) = some .fontsNotLoaded ↔
      ∃ before head after, walk = before ++ head :: after ∧ head.needsFonts = true ∧
        ∀ other ∈ before ++ [head], other.isPicturable = true := by
  constructor
  · intro hfirst
    obtain ⟨before, head, after, hwalk, hhead, hbefore⟩ := List.findSome?_eq_some_iff.mp hfirst
    obtain ⟨hpicturable, hneeds⟩ := sceneFailure?_eq_fontsNotLoaded.mp hhead
    refine ⟨before, head, after, hwalk, hneeds, List.forall_mem_append.mpr ⟨?_, ?_⟩⟩
    · exact fun other hother => (sceneFailure?_eq_none.mp (hbefore other hother)).1
    · simpa using hpicturable
  · rintro ⟨before, head, after, rfl, hneeds, hpicturable⟩
    obtain ⟨hbefore, hhead⟩ := List.forall_mem_append.mp hpicturable
    have hrefused : head.sceneFailure? false = some .fontsNotLoaded :=
      sceneFailure?_eq_fontsNotLoaded.mpr ⟨hhead head List.mem_cons_self, hneeds⟩
    rw [List.findSome?_append]
    -- An earlier node may be the first, and it is refused for the same reason.
    cases hfirst : before.findSome? (sceneFailure? false) with
    | none => rw [List.findSome?_cons, hrefused, Option.none_or]
    | some cause =>
        obtain ⟨other, hother, hcause⟩ := List.exists_of_findSome?_eq_some hfirst
        rw [eq_fontsNotLoaded_of_isPicturable (hbefore other hother) hcause, Option.some_or]

/-- What else a session without fonts refuses first is refused first with fonts too. -/
theorem findSome?_sceneFailure?_loaded {walk : List PlanHead} {cause : SceneError}
    (hother : cause ≠ .fontsNotLoaded)
    (h : walk.findSome? (sceneFailure? false) = some cause) :
    walk.findSome? (sceneFailure? true) = some cause := by
  obtain ⟨before, head, after, hwalk, hhead, hbefore⟩ := List.findSome?_eq_some_iff.mp h
  refine List.findSome?_eq_some_iff.mpr ⟨before, head, after, hwalk,
    sceneFailure?_loaded hother hhead, fun other hmem => ?_⟩
  have hpasses := sceneFailure?_eq_none.mp (hbefore other hmem)
  simp [sceneFailure?, hpasses]

end PlanHead

namespace Scene

variable {pen : Pen} {head : PlanHead}

/-- A node that shows no text is drawn with fonts as it is without. -/
theorem leaf_of_not_needsFonts (h : head.needsFonts = false) (fontsLoaded : Bool) :
    leaf { pen with fontsLoaded } head = leaf pen head := by
  unfold PlanHead.needsFonts at h
  unfold leaf
  cases hkind : head.kind with
  | icon =>
      have hlabel : (head.prop "label").truthy = false := by simpa [hkind] using h
      simp only [icon, hlabel, Bool.false_eq_true, if_false]
  | text | button | input => simp [hkind] at h
  | image | divider | spacer | switch | container => rfl

end Scene

namespace SceneSession

variable {session : SceneSession} {rules : Rules} {inherited : Option String} {plan : Plan}

/-- A session without fonts refuses the plan of an element for want of them exactly if the plan
holds a text, a button or an input, or an icon whose label counts as true, and up to the first of
them every icon has a name and a label that can be written. In every other case it gives what it
gives with fonts, which is a node if every name and label of an icon can be written. -/
theorem materialize_fontless (fontless : session.fontsLoaded = false)
    (hrules : rules ⊆ Rules.builtin) {e : Element} (h : rules.resolve inherited e = .ok plan)
    (device : Device) :
    (session.materialize device plan = .error .fontsNotLoaded ↔
      ∃ before head after, plan.walk = before ++ head :: after ∧ head.needsFonts = true ∧
        ∀ other ∈ before ++ [head], other.isPicturable = true) ∧
    (session.materialize device plan ≠ .error .fontsNotLoaded →
      session.materialize device plan =
        { session with fontsLoaded := true }.materialize device plan) ∧
    ((∀ head ∈ plan.walk, head.isPicturable = true) →
      ∃ node, { session with fontsLoaded := true }.materialize device plan = .ok node) := by
  have built := Rules.resolve_sound hrules h
  have hwithout : (session.materialize device plan).error? =
      plan.walk.findSome? (PlanHead.sceneFailure? false) := by
    rw [materialize, fontless]
    exact Scene.materialize_error? built
  have hwith : ({ session with fontsLoaded := true }.materialize device plan).error? =
      plan.walk.findSome? (PlanHead.sceneFailure? true) := Scene.materialize_error? built
  refine ⟨?_, ?_, ?_⟩
  · rw [← Except.error?_eq_some_iff, hwithout]
    exact PlanHead.findSome?_sceneFailure?_eq_fontsNotLoaded
  · intro hgate
    cases hfails : plan.walk.findSome? (PlanHead.sceneFailure? false) with
    | none =>
        rw [List.findSome?_eq_none_iff] at hfails
        unfold materialize
        rw [fontless]
        apply Target.materialize_congr
        · rfl
        · rfl
        · intro head hhead
          have hfree := (PlanHead.sceneFailure?_eq_none.mp (hfails head hhead)).2
          exact (Scene.leaf_of_not_needsFonts hfree true).symm
    | some cause =>
        rw [hfails, Except.error?_eq_some_iff] at hwithout
        have hother : cause ≠ .fontsNotLoaded := fun hcause => hgate (hcause ▸ hwithout)
        rw [PlanHead.findSome?_sceneFailure?_loaded hother hfails, Except.error?_eq_some_iff]
          at hwith
        rw [hwithout, hwith]
  · intro hpicturable
    rw [← Except.isOk_iff_exists]
    exact (Scene.materialize_isOk_iff rfl built).mpr (List.all_eq_true.mpr hpicturable)

/-- A box of images, lines and a bare icon, and one with a labelled icon in a box inside it. -/
theorem materialize_fontless_icons :
    let session : SceneSession := {}
    let device : Device := ⟨.ofInt 393, .ofInt 852, "Inter"⟩
    let icon (label : Members) : Element :=
      .node ⟨"icon", none, ("name", .string "bell") :: label⟩ []
    let box (children : List Element) : Element := .node ⟨"box", none, []⟩ children
    let bare := box [.node ⟨"image", none, []⟩ [], .node ⟨"divider", none, []⟩ [], icon []]
    let labelled := box [.node ⟨"spacer", none, []⟩ [], box [icon [("label", .string "New")]]]
    (∃ plan node, Rules.builtin.resolve none bare = .ok plan ∧
      session.materialize device plan = .ok node ∧
      { session with fontsLoaded := true }.materialize device plan = .ok node) ∧
    ∃ plan, Rules.builtin.resolve none labelled = .ok plan ∧
      session.materialize device plan = .error .fontsNotLoaded := by
  intro session device icon box bare labelled
  have hbare : ∃ plan, Rules.builtin.resolve none bare = .ok plan := ⟨_, rfl⟩
  have hlabelled : ∃ plan, Rules.builtin.resolve none labelled = .ok plan := ⟨_, rfl⟩
  obtain ⟨plan, hplan⟩ := hbare
  obtain ⟨plan', hplan'⟩ := hlabelled
  have fontless : session.fontsLoaded = false := rfl
  obtain ⟨hgate, hsame, hdraws⟩ := materialize_fontless fontless (List.Subset.refl _) hplan device
  have hrefuses := (materialize_fontless fontless (List.Subset.refl _) hplan' device).1
  constructor
  · have hfree : ∀ head ∈ plan.walk, head.needsFonts = false := by
      cases hplan
      decide +kernel
    obtain ⟨node, hnode⟩ := hdraws (by cases hplan; decide +kernel)
    refine ⟨plan, node, hplan, (hsame fun hrefused => ?_).trans hnode, hnode⟩
    obtain ⟨before, head, after, hwalk, hneeds, -⟩ := hgate.mp hrefused
    rw [hfree head (by simp [hwalk])] at hneeds
    cases hneeds
  · refine ⟨plan', hplan', hrefuses.mpr ?_⟩
    cases hplan'
    exact ⟨[_, _, _], _, [], rfl, rfl, by decide +kernel⟩

/-- An icon whose label has 4301 digits is not refused for want of fonts, and one whose name has as
many shows no text and is not drawn. -/
theorem materialize_fontless_overlong :
    let session : SceneSession := {}
    let device : Device := ⟨.ofInt 393, .ofInt 852, "Inter"⟩
    let overlong := Value.int (Nat.pow 10 4300 : Nat)
    let icon (key : String) : Element := .node ⟨"icon", none, [(key, overlong)]⟩ []
    (∃ plan, Rules.builtin.resolve none (icon "label") = .ok plan ∧
      (∃ head ∈ plan.walk, head.needsFonts = true) ∧
      session.materialize device plan ≠ .error .fontsNotLoaded) ∧
    ∃ plan, Rules.builtin.resolve none (icon "name") = .ok plan ∧
      (∀ head ∈ plan.walk, head.needsFonts = false) ∧
      ¬ ∃ node, session.materialize device plan = .ok node := by
  intro session device overlong icon
  refine ⟨⟨_, rfl, by decide +kernel, fun hrefused => ?_⟩, ⟨_, rfl, by decide +kernel, ?_⟩⟩
  · have hmessage := congrArg (fun result => result.error?.map SceneError.message) hrefused
    revert hmessage
    decide +kernel
  · rw [← Except.isOk_iff_exists]
    decide +kernel

end SceneSession

end Wireframe
