import Wireframe.Proofs.Scene.Fonts
import Wireframe.Proofs.Scene.Texts

/-! # Texts use acquired fonts

A call for the fonts that nobody disturbs fails or is granted all of them, and what a provider
grants stands in its list of loaded fonts. Rules name no weight but those that are asked for, so
that every text of a document is in a font that was loaded (`build_font_loaded`).
-/

namespace Wireframe

namespace FontSession

variable {σ : Type} {host : FontHost σ} {fonts rest : List FontName} {s : FontSession σ}
  {call n : Nat} {font : FontName} {state : σ}

/-! ## A call on its own -/

def IsOver (s : FontSession σ) (call : Nat) : Prop :=
  s.calls[call]? = some .finished ∨ ∃ cause, s.calls[call]? = some (.failed cause)

theorem run_of_isOver (ended : s.IsOver call) : s.run host fonts (List.replicate n call) = s := by
  have hstep : s.step host fonts call = s := by
    unfold step
    rcases ended with h | ⟨cause, h⟩ <;> rw [h]
  induction n with
  | zero => rfl
  | succ n ih => rwa [List.replicate_succ, run, List.foldl_cons, hstep]

theorem step_refused (fonts : List FontName) {cause : FontError}
    (inside : s.calls[call]? = some (.requesting (font :: rest)))
    (answer : host.request s.host font = (.error cause, state)) :
    (s.step host fonts call).calls[call]? = some (.failed cause) := by
  rw [step, inside]
  simp only [advance, answer]
  exact getElem?_set_call inside

theorem step_granted_last (fonts : List FontName)
    (inside : s.calls[call]? = some (.requesting [font]))
    (answer : host.request s.host font = (.ok (), state)) :
    (s.step host fonts call).calls[call]? = some .finished ∧
      (s.step host fonts call).requests = s.requests ++ [⟨call, font, true⟩] := by
  rw [step, inside]
  simp only [advance, answer]
  exact ⟨getElem?_set_call inside, rfl⟩

theorem step_granted (fonts : List FontName)
    (inside : s.calls[call]? = some (.requesting (font :: rest))) (more : rest ≠ [])
    (answer : host.request s.host font = (.ok (), state)) :
    (s.step host fonts call).calls[call]? = some (.requesting rest) ∧
      (s.step host fonts call).requests = s.requests ++ [⟨call, font, true⟩] := by
  rw [step, inside]
  simp only [advance, answer, List.isEmpty_iff, if_neg more]
  exact ⟨getElem?_set_call inside, rfl⟩

/-- A call inside the provider that is scheduled often enough is refused a font or is granted all
that it still needs. -/
theorem run_inside {remaining : List FontName}
    (inside : s.calls[call]? = some (.requesting remaining)) (more : remaining ≠ [])
    (hn : remaining.length ≤ n) :
    (∃ cause, (s.run host fonts (List.replicate n call)).calls[call]? = some (.failed cause)) ∨
      (s.run host fonts (List.replicate n call)).requests =
        s.requests ++ granting call remaining := by
  -- One step takes one font off the list, or ends the call, which then stays as it is.
  induction remaining generalizing s n with
  | nil => exact absurd rfl more
  | cons font rest ih =>
      obtain ⟨n, rfl⟩ := Nat.exists_eq_succ_of_ne_zero (Nat.ne_zero_of_lt hn)
      rw [List.replicate_succ, run, List.foldl_cons, ← run]
      cases hanswer : host.request s.host font with
      | mk answer state =>
          cases answer with
          | error cause =>
              have hcall := step_refused fonts inside hanswer
              rw [run_of_isOver (.inr ⟨cause, hcall⟩)]
              exact .inl ⟨cause, hcall⟩
          | ok granted =>
              cases rest with
              | nil =>
                  have hlast := step_granted_last fonts inside hanswer
                  rw [run_of_isOver (.inl hlast.1)]
                  exact .inr hlast.2
              | cons next rest =>
                  have hnext := step_granted fonts inside (by simp) hanswer
                  have hrest := ih hnext.1 (by simp) (Nat.le_of_succ_le_succ hn)
                  rwa [hnext.2, List.append_assoc] at hrest

/-- The only call of a session that has no fonts yet fails or is granted all of them. -/
theorem load_alone (host : FontHost σ) (hfonts : fonts ≠ []) (state : σ) :
    (∃ cause, (load host fonts state false 1).calls[0]? = some (.failed cause)) ∨
      (load host fonts state false 1).requests = granting 0 fonts := by
  have hschedule : inOrder fonts 1 = 0 :: List.replicate (fonts.length + 1) 0 := by
    rw [inOrder, List.range_one, List.flatMap_singleton, List.replicate_succ]
  rw [load, hschedule, run, List.foldl_cons, ← run]
  exact run_inside rfl hfonts (Nat.le_succ _)

end FontSession

/-! ## What a provider grants -/

namespace FontProvider

theorem loaded_of_granted {provider after : FontProvider} {font : FontName}
    (h : provider.request font = (.ok (), after)) : after.loaded = provider.loaded ++ [font] := by
  unfold request at h
  split at h
  · cases h
  · split at h <;> cases h
    rfl

theorem loaded_of_refused {provider after : FontProvider} {font : FontName} {cause : FontError}
    (h : provider.request font = (.error cause, after)) : after.loaded = provider.loaded := by
  unfold request at h
  split at h
  · cases h
    rfl
  · split at h <;> cases h
    rfl

end FontProvider

namespace FontSession

variable {fonts : List FontName} {s s' : FontSession FontProvider} {call : Nat} {new : List Nat}

def granted {σ : Type} (s : FontSession σ) : List FontName :=
  (s.requests.filter (·.granted)).map FontRequest.font

/-- The provider has loaded the fonts of all requests that it granted. -/
def LoadsGranted (s : FontSession FontProvider) : Prop :=
  ∀ font ∈ s.granted, font ∈ s.host.loaded

theorem LoadsGranted.step (h : s.LoadsGranted)
    (moves : Moves FontProvider.host fonts s call s' new) : s'.LoadsGranted := by
  unfold LoadsGranted granted at *
  cases moves with
  | stays | returns | enters | leaves => exact h
  | fails inside answer =>
      rw [FontProvider.loaded_of_refused answer]
      simpa using h
  | completes inside answer | goesOn inside more answer =>
      rw [FontProvider.loaded_of_granted answer]
      intro f hf
      rw [List.filter_append, List.map_append, List.mem_append] at hf
      exact List.mem_append.mpr (hf.imp (h f) id)

theorem LoadsGranted.run (h : s.LoadsGranted) (fonts : List FontName) (schedule : List Nat) :
    (s.run FontProvider.host fonts schedule).LoadsGranted := by
  induction schedule generalizing s with
  | nil => exact h
  | cons call schedule ih => exact ih (h.step (step_moves FontProvider.host fonts s call))

/-- When its only call did not fail, the provider of a session has loaded all the fonts. -/
theorem loaded_of_load (hfonts : fonts ≠ []) (provider : FontProvider)
    (h : ∀ cause,
      (load FontProvider.host fonts provider false 1).calls[0]? ≠ some (.failed cause)) :
    ∀ font ∈ fonts, font ∈ (load FontProvider.host fonts provider false 1).host.loaded := by
  intro font hfont
  have hbegin : (begin provider false 1).LoadsGranted := by
    intro font hfont
    simp [granted, begin] at hfont
  have hloads := hbegin.run fonts (inOrder fonts 1)
  rcases load_alone FontProvider.host hfonts provider with ⟨cause, hcall⟩ | hrequests
  · exact absurd hcall (h cause)
  · apply hloads
    have hall : (granting 0 fonts).filter (·.granted) = granting 0 fonts :=
      List.filter_eq_self.mpr (by simp [granting])
    rwa [← load, granted, hrequests, hall, map_font_granting]

end FontSession

/-! ## Fonts of a document -/

theorem familyFonts_ne_nil (family : String) : familyFonts family ≠ [] := by
  simp [familyFonts, Token.fontWeights]

theorem PlanHead.font_of_mem_runs {head : PlanHead} {family : String} {run : TextRun}
    (hweight : ∀ style ∈ head.textStyle, style.weight ∈ Token.fontWeights)
    (h : run ∈ head.runs family) : run.font ∈ familyFonts family := by
  obtain ⟨characters, -, rfl⟩ := List.mem_map.mp h
  apply List.mem_map_of_mem (f := fun weight => FontName.mk family weight)
  cases hstyle : head.textStyle with
  | none => simp [Scene.usualStyle, Token.fontWeights]
  | some style => exact hweight style hstyle

/-- Whatever a rule draws, its texts are in fonts of the family. -/
theorem Rules.font_of_materialize {rules : Rules} (hrules : rules ⊆ builtin) {e : Element}
    {inherited : Option String} {plan : Plan} {pen : Scene.Pen} {node : Scene}
    (hplan : rules.resolve inherited e = .ok plan)
    (hnode : (Scene.target pen).materialize plan = .ok node) :
    ∀ run ∈ node.texts, run.font ∈ familyFonts pen.fontFamily := by
  have built := resolve_sound hrules hplan
  intro run hrun
  rw [built.texts_materialize hnode] at hrun
  obtain ⟨head, hhead, hrun⟩ := List.mem_flatMap.mp hrun
  have sound := built.of_mem_walk head hhead
  exact head.font_of_mem_runs (fun style hstyle => (sound.style style hstyle).weight) hrun

namespace Device

open Rules

variable {device : Device} {rules : Rules} {spec : Spec Number}

theorem font_of_drawScreen (hrules : rules ⊆ Rules.builtin) {index : Nat} {screen : Screen Number}
    {frame : Scene} (h : device.drawScreen rules index screen = .ok frame) :
    ∀ run ∈ frame.texts, run.font ∈ familyFonts device.fontFamily := by
  obtain ⟨plans, hplans, h⟩ := Except.bind_ok_iff.mp h
  obtain ⟨nodes, hnodes, h⟩ := Except.bind_ok_iff.mp h
  obtain ⟨fill, _, h⟩ := Except.bind_ok_iff.mp (Except.mapError_ok_iff.mp h)
  cases h
  have hplans := resolveItems_ok_iff.mp (Except.mapError_ok_iff.mp hplans)
  have hnodes := Target.materializeAll_ok_iff.mp (Except.mapError_ok_iff.mp hnodes)
  intro run hrun
  rw [Scene.texts_frame] at hrun
  obtain ⟨node, hnode, hrun⟩ := List.mem_flatMap.mp hrun
  obtain ⟨plan, hplan, hdrawn⟩ := exists_of_forall₂_of_mem hnodes hnode
  obtain ⟨e, -, hresolve⟩ := exists_of_forall₂_of_mem hplans hplan
  exact font_of_materialize hrules hresolve hdrawn run hrun

theorem mem_drawScreens {index : Nat} {screens : List (Screen Number)} {frames : List Scene}
    (h : device.drawScreens rules index screens = .ok frames) {frame : Scene}
    (hframe : frame ∈ frames) : ∃ i screen, device.drawScreen rules i screen = .ok frame := by
  induction screens generalizing index frames with
  | nil =>
      cases h
      cases hframe
  | cons screen screens ih =>
      obtain ⟨first, hfirst, h⟩ := Except.bind_ok_iff.mp h
      obtain ⟨rest, hrest, h⟩ := Except.bind_ok_iff.mp h
      cases h
      rcases List.mem_cons.mp hframe with rfl | hframe
      · exact ⟨index, screen, hfirst⟩
      · exact ih hrest hframe

end Device

namespace SceneSession

variable {device : Device} {rules : Rules} {spec : Spec Number} {document : SceneDocument}
  {session after : SceneSession}

/-- A session that had no fonts and returns a document has drawn it after it had loaded all fonts
of the family. -/
theorem of_build (fresh : session.fontsLoaded = false)
    (h : session.build device rules spec = (.ok document, after)) :
    device.draw rules spec = .ok document ∧
      ∀ font ∈ familyFonts device.fontFamily, font ∈ after.provider.loaded := by
  unfold build loadFonts at h
  rw [fresh] at h
  dsimp only at h
  split at h
  · cases h
  · rename_i outcomes later hunfailed hsession
    obtain ⟨hdraw, rfl⟩ := Prod.mk.inj h
    obtain ⟨rfl, rfl⟩ := Prod.mk.inj hsession
    refine ⟨hdraw, FontSession.loaded_of_load (familyFonts_ne_nil _) _ fun cause hcall => ?_⟩
    rw [← List.head?_eq_getElem?] at hcall
    obtain ⟨others, hcalls⟩ := List.head?_eq_some_iff.mp hcall
    refine hunfailed cause (others.map FontSession.outcome?) ?_
    rw [FontSession.outcomes, hcalls]
    rfl

/-- Every text of a document is in a font that the provider has loaded. -/
theorem build_font_loaded {provider : FontProvider} (hrules : rules ⊆ Rules.builtin)
    (h : ({ provider } : SceneSession).build device rules spec = (.ok document, after)) :
    ∀ frame ∈ document.frames, ∀ run ∈ frame.texts, run.font ∈ after.provider.loaded := by
  obtain ⟨hdraw, hloaded⟩ := of_build rfl h
  obtain ⟨frames, hframes, rfl⟩ := Except.map_ok_iff.mp hdraw
  intro frame hframe run hrun
  obtain ⟨index, screen, hscreen⟩ := Device.mem_drawScreens hframes hframe
  exact hloaded _ (Device.font_of_drawScreen hrules hscreen run hrun)

/-- A list item, tabs and a labelled icon use three of the four weights. -/
theorem build_font_loaded_weights :
    let provider : FontProvider := { available := some (familyFonts "Inter") }
    let device : Device := ⟨.ofInt 375, .ofInt 812, "Inter"⟩
    let spec : Spec Number := ⟨"", [⟨none, "", none, [
      .node ⟨"box", none, []⟩ [
        .node ⟨"listItem", none, []⟩ [],
        .node ⟨"tabs", none, []⟩ []],
      .node ⟨"icon", none, [("label", .string "Star")]⟩ []]⟩], []⟩
    ∃ document after,
      ({ provider } : SceneSession).build device Rules.builtin spec = (.ok document, after) ∧
        document.frames.flatMap (fun frame => frame.texts.map (·.font.style)) =
          ["Medium", "Semi Bold", "Regular", "Regular", "Medium"] ∧
        ∀ frame ∈ document.frames, ∀ run ∈ frame.texts, run.font ∈ after.provider.loaded := by
  intro provider device spec
  have hstyles : (({ provider } : SceneSession).build device Rules.builtin spec).1.toOption.map
      (fun document => document.frames.flatMap fun frame => frame.texts.map (·.font.style)) =
        some ["Medium", "Semi Bold", "Regular", "Regular", "Medium"] := by decide +kernel
  cases h : ({ provider } : SceneSession).build device Rules.builtin spec with
  | mk outcome after =>
      rw [h] at hstyles
      cases outcome with
      | error cause => cases hstyles
      | ok document =>
          have hloaded := build_font_loaded (List.Subset.refl _) h
          exact ⟨document, after, rfl, Option.some.inj hstyles, hloaded⟩

end SceneSession

end Wireframe
