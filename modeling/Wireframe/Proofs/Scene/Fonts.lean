import Wireframe.Scene.Font

/-! # Calls that acquire fonts take turns

The requests of a session fall into one block for each call that held the lock and found the fonts
not loaded, in the order in which these calls came. `FontSession.Turns` is what every step keeps:
all of these calls but the last one were refused a font, and the last one was refused too, is under
way and holds the lock, or has got all the fonts. `run_serial` reads off it what holds of any number
of calls and any schedule.
-/

namespace Wireframe.FontSession

variable {σ : Type} {host : FontHost σ} {fonts : List FontName} {s s' : FontSession σ}
  {callers past : List Nat} {call c : Nat}

/-! ## Calls and their blocks -/

/-- The call is inside the provider: it asks for the first of the fonts that it still needs. -/
def IsInside (s : FontSession σ) (call : Nat) : Prop :=
  ∃ remaining, s.calls[call]? = some (.requesting remaining)

/-- The call, if it is scheduled now, takes the lock and finds the fonts not loaded: the one call of
the list, or none. -/
def entrant (s : FontSession σ) (call : Nat) : List Nat :=
  if s.calls[call]? = some .waiting ∧ s.holder = none ∧ s.isLoaded = false then [call] else []

/-- The calls of a schedule that take the lock and find the fonts not loaded, in order. -/
def entrants (host : FontHost σ) (fonts : List FontName) : FontSession σ → List Nat → List Nat
  | _, [] => []
  | s, call :: schedule => s.entrant call ++ entrants host fonts (s.step host fonts call) schedule

def block (s : FontSession σ) (call : Nat) : List FontRequest :=
  s.requests.filter fun request => request.call = call

def granting (call : Nat) (fonts : List FontName) : List FontRequest :=
  fonts.map fun font => ⟨call, font, true⟩

/-- The call failed: it was granted the first fonts and refused the next one. -/
def Refused (fonts : List FontName) (s : FontSession σ) (call : Nat) : Prop :=
  ∃ granted font rest cause, fonts = granted ++ font :: rest ∧
    s.block call = granting call granted ++ [⟨call, font, false⟩] ∧
    s.calls[call]? = some (.failed cause)

/-- The call was granted the first fonts and is inside the provider for the next one. -/
def UnderWay (fonts : List FontName) (s : FontSession σ) (call : Nat) : Prop :=
  ∃ granted remaining, remaining ≠ [] ∧ fonts = granted ++ remaining ∧
    s.block call = granting call granted ∧ s.calls[call]? = some (.requesting remaining)

def Complete (fonts : List FontName) (s : FontSession σ) (call : Nat) : Prop :=
  s.block call = granting call fonts ∧ s.calls[call]? = some .finished

/-- A step leaves the call where it is and asks for nothing on its behalf. -/
structure Keeps (s s' : FontSession σ) (call : Nat) : Prop where
  block : s'.block call = s.block call
  call : s'.calls[call]? = s.calls[call]?

theorem Refused.keep (h : s.Refused fonts c) (keeps : Keeps s s' c) : s'.Refused fonts c := by
  unfold Refused
  rwa [keeps.block, keeps.call]

theorem Complete.keep (h : s.Complete fonts c) (keeps : Keeps s s' c) : s'.Complete fonts c := by
  unfold Complete
  rwa [keeps.block, keeps.call]

theorem granting_concat (call : Nat) (fonts : List FontName) (font : FontName) :
    granting call (fonts ++ [font]) = granting call fonts ++ [⟨call, font, true⟩] := by
  simp [granting]

theorem block_append {asked : List FontRequest} (hrequests : s'.requests = s.requests ++ asked)
    (hasked : ∀ request ∈ asked, request.call = call) :
    s'.block call = s.block call ++ asked := by
  have hall : asked.filter (fun request => request.call = call) = asked :=
    List.filter_eq_self.mpr fun request hrequest => by simp [hasked request hrequest]
  rw [block, block, hrequests, List.filter_append, hall]

theorem getElem?_set_call {calls : List FontCall} {old new : FontCall}
    (h : calls[call]? = some old) : (calls.set call new)[call]? = some new := by
  rw [List.getElem?_set_self', h]
  rfl

@[simp] theorem map_font_granting (call : Nat) (fonts : List FontName) :
    (granting call fonts).map FontRequest.font = fonts := by
  rw [granting, List.map_map]
  exact List.map_id fonts

/-! ## Steps -/

/-- What becomes of a session when a call is scheduled, and whether the call begins a block. -/
inductive Moves (host : FontHost σ) (fonts : List FontName) (s : FontSession σ) (call : Nat) :
    FontSession σ → List Nat → Prop where
  /-- There is no such call, it has ended, or another one holds the lock. -/
  | stays : Moves host fonts s call s []
  | returns (waiting : s.calls[call]? = some .waiting) (free : s.holder = none)
      (loaded : s.isLoaded = true) : Moves host fonts s call (s.setCall call .finished) []
  | enters (waiting : s.calls[call]? = some .waiting) (free : s.holder = none)
      (unloaded : s.isLoaded = false) :
      Moves host fonts s call { s.setCall call (.requesting fonts) with holder := some call } [call]
  /-- Nothing is left to request. -/
  | leaves (inside : s.calls[call]? = some (.requesting [])) :
      Moves host fonts s call
        { s.setCall call .finished with isLoaded := true, holder := none } []
  | fails {font : FontName} {rest : List FontName} {state : σ} {cause : FontError}
      (inside : s.calls[call]? = some (.requesting (font :: rest)))
      (answer : host.request s.host font = (.error cause, state)) :
      Moves host fonts s call
        { s.setCall call (.failed cause) with
          host := state, requests := s.requests ++ [⟨call, font, false⟩], holder := none } []
  | completes {font : FontName} {state : σ}
      (inside : s.calls[call]? = some (.requesting [font]))
      (answer : host.request s.host font = (.ok (), state)) :
      Moves host fonts s call
        { s.setCall call .finished with
          host := state, requests := s.requests ++ [⟨call, font, true⟩],
          isLoaded := true, holder := none } []
  | goesOn {font : FontName} {rest : List FontName} {state : σ}
      (inside : s.calls[call]? = some (.requesting (font :: rest))) (more : rest ≠ [])
      (answer : host.request s.host font = (.ok (), state)) :
      Moves host fonts s call
        { s.setCall call (.requesting rest) with
          host := state, requests := s.requests ++ [⟨call, font, true⟩] } []

theorem entrant_eq_nil (h : s.calls[call]? ≠ some .waiting) : s.entrant call = [] :=
  if_neg fun hcall => h hcall.1

theorem step_moves (host : FontHost σ) (fonts : List FontName) (s : FontSession σ) (call : Nat) :
    Moves host fonts s call (s.step host fonts call) (s.entrant call) := by
  unfold step
  cases hcall : s.calls[call]? with
  | none =>
      rw [entrant_eq_nil (by simp [hcall])]
      exact .stays
  | some state =>
      cases state with
      | waiting =>
          cases hholder : s.holder with
          | some holder => simpa [entrant, hcall, hholder] using .stays
          | none =>
              cases hloaded : s.isLoaded with
              | true =>
                  simpa [entrant, hcall, hholder, hloaded] using .returns hcall hholder hloaded
              | false =>
                  simpa [entrant, hcall, hholder, hloaded] using .enters hcall hholder hloaded
      | requesting remaining =>
          rw [entrant_eq_nil (by simp [hcall])]
          cases remaining with
          | nil => exact .leaves hcall
          | cons font rest =>
              obtain ⟨answer, state, hanswer⟩ :
                  ∃ answer state, host.request s.host font = (answer, state) := ⟨_, _, rfl⟩
              simp only [advance, hanswer]
              cases answer with
              | error cause => exact .fails hcall hanswer
              | ok granted =>
                  cases rest with
                  | nil => exact .completes hcall hanswer
                  | cons next rest => exact .goesOn hcall (by simp) hanswer
      | finished =>
          rw [entrant_eq_nil (by simp [hcall])]
          exact .stays
      | failed cause =>
          rw [entrant_eq_nil (by simp [hcall])]
          exact .stays

theorem keeps_of {state : FontCall} {asked : List FontRequest}
    (hrequests : s'.requests = s.requests ++ asked) (hcalls : s'.calls = s.calls.set call state)
    (hasked : ∀ request ∈ asked, request.call = call) (h : c ≠ call) : Keeps s s' c where
  block := by
    rw [block, block, hrequests, List.filter_append, List.append_right_eq_self,
      List.filter_eq_nil_iff]
    intro request hrequest
    simp [hasked request hrequest, h.symm]
  call := by rw [hcalls, List.getElem?_set_ne h.symm]

theorem Moves.keeps {new : List Nat} (h : Moves host fonts s call s' new) (hne : c ≠ call) :
    Keeps s s' c := by
  cases h with
  | stays => exact ⟨rfl, rfl⟩
  | returns | enters | leaves => exact keeps_of (List.append_nil _).symm rfl (by simp) hne
  | fails | completes | goesOn => exact keeps_of rfl rfl (by simp) hne

/-! ## Turns -/

inductive Phase (fonts : List FontName) (s : FontSession σ) : List Nat → Prop where
  | idle {callers : List Nat} (free : s.holder = none) (unloaded : s.isLoaded = false)
      (refused : ∀ c ∈ callers, s.Refused fonts c) : Phase fonts s callers
  | busy {past : List Nat} {call : Nat} (held : s.holder = some call)
      (unloaded : s.isLoaded = false) (refused : ∀ c ∈ past, s.Refused fonts c)
      (underWay : s.UnderWay fonts call) : Phase fonts s (past ++ [call])
  | done {past : List Nat} {call : Nat} (free : s.holder = none) (loaded : s.isLoaded = true)
      (refused : ∀ c ∈ past, s.Refused fonts c) (complete : s.Complete fonts call) :
      Phase fonts s (past ++ [call])

/-- The calls that found the fonts not loaded took turns. -/
structure Turns (fonts : List FontName) (s : FontSession σ) (callers : List Nat) : Prop where
  nodup : callers.Nodup
  requests : s.requests = callers.flatMap s.block
  /-- The other calls wait or returned at once. -/
  others : ∀ c ∉ callers, ∀ state, s.calls[c]? = some state → state = .waiting ∨ state = .finished
  phase : Phase fonts s callers

theorem Phase.of_mem (h : Phase fonts s callers) (hc : c ∈ callers) :
    s.Refused fonts c ∨ s.UnderWay fonts c ∨
      (s.Complete fonts c ∧ s.isLoaded = true ∧ callers.getLast? = some c) := by
  cases h with
  | idle _ _ refused => exact .inl (refused c hc)
  | busy _ _ refused underWay =>
      rcases List.mem_append.mp hc with hc | hc
      · exact .inl (refused c hc)
      · rw [List.mem_singleton.mp hc]
        exact .inr (.inl underWay)
  | done _ loaded refused complete =>
      rcases List.mem_append.mp hc with hc | hc
      · exact .inl (refused c hc)
      · rw [List.mem_singleton.mp hc]
        exact .inr (.inr ⟨complete, loaded, List.getLast?_concat⟩)

theorem Phase.not_waiting (h : Phase fonts s callers) (hc : c ∈ callers) :
    s.calls[c]? ≠ some .waiting := by
  rcases h.of_mem hc with ⟨_, _, _, _, -, -, hcall⟩ | ⟨_, _, -, -, -, hcall⟩ | ⟨⟨-, hcall⟩, -⟩ <;>
    simp [hcall]

namespace Turns

/-- A call inside the provider is the last that found the fonts not loaded, and holds the lock. -/
theorem of_inside (h : Turns fonts s callers) {remaining : List FontName}
    (inside : s.calls[call]? = some (.requesting remaining)) :
    ∃ past, callers = past ++ [call] ∧ s.holder = some call ∧ s.isLoaded = false ∧
      (∀ c ∈ past, s.Refused fonts c) ∧ s.UnderWay fonts call := by
  have hrefused : ¬ s.Refused fonts call := by
    rintro ⟨_, _, _, _, -, -, hcall⟩
    simp [hcall] at inside
  have hmem : call ∈ callers := by
    by_cases hmem : call ∈ callers
    · exact hmem
    · rcases h.others call hmem _ inside with h | h <;> cases h
  cases h.phase with
  | idle _ _ refused => exact absurd (refused call hmem) hrefused
  | @busy past holder held unloaded refused underWay =>
      rcases List.mem_append.mp hmem with hmem | hmem
      · exact absurd (refused call hmem) hrefused
      · rw [List.mem_singleton] at hmem
        subst hmem
        exact ⟨past, rfl, held, unloaded, refused, underWay⟩
  | done _ _ refused complete =>
      rcases List.mem_append.mp hmem with hmem | hmem
      · exact absurd (refused call hmem) hrefused
      · rw [List.mem_singleton.mp hmem, complete.2] at inside
        cases inside

theorem not_mem_of_waiting (h : Turns fonts s callers) (waiting : s.calls[call]? = some .waiting) :
    call ∉ callers :=
  fun hmem => h.phase.not_waiting hmem waiting

theorem block_eq_nil (h : Turns fonts s callers) (hc : c ∉ callers) : s.block c = [] := by
  rw [block, h.requests, List.filter_eq_nil_iff]
  intro request hrequest
  obtain ⟨owner, howner, hrequest⟩ := List.mem_flatMap.mp hrequest
  have : request.call = owner := by simpa using (List.mem_filter.mp hrequest).2
  simp only [decide_eq_true_eq, this]
  rintro rfl
  exact hc howner

theorem ne_of_mem_past (h : Turns fonts s (past ++ [call])) (hc : c ∈ past) : c ≠ call :=
  (List.nodup_append.mp h.nodup).2.2 c hc call (List.mem_singleton_self call)

/-- The calls before it stay refused, whatever the call whose turn it is does. -/
theorem keep_past (h : Turns fonts s (past ++ [call])) (refused : ∀ c ∈ past, s.Refused fonts c)
    (keeps : ∀ c ≠ call, Keeps s s' c) : ∀ c ∈ past, s'.Refused fonts c :=
  fun c hc => (refused c hc).keep (keeps c (h.ne_of_mem_past hc))

theorem goOn (h : Turns fonts s (past ++ [call])) {asked : List FontRequest}
    (hrequests : s'.requests = s.requests ++ asked)
    (hasked : ∀ request ∈ asked, request.call = call)
    (keeps : ∀ c ≠ call, Keeps s s' c) (phase : Phase fonts s' (past ++ [call])) :
    Turns fonts s' (past ++ [call]) := by
  have hblock := block_append hrequests hasked
  have hpast : past.flatMap s'.block = past.flatMap s.block := by
    rw [List.flatMap_def, List.flatMap_def]
    exact congrArg List.flatten
      (List.map_congr_left fun c hc => (keeps c (h.ne_of_mem_past hc)).block)
  refine ⟨h.nodup, ?_, ?_, phase⟩
  · rw [hrequests, h.requests]
    simp [hblock, hpast]
  · intro c hc state hstate
    have hne : c ≠ call := by
      rintro rfl
      simp at hc
    rw [(keeps c hne).call] at hstate
    exact h.others c hc state hstate

/-- Where it stands when it is inside the provider: after the fonts it was granted. -/
theorem granted_of_inside (h : Turns fonts s callers) {remaining : List FontName}
    (inside : s.calls[call]? = some (.requesting remaining)) :
    ∃ past granted, callers = past ++ [call] ∧ s.holder = some call ∧ s.isLoaded = false ∧
      (∀ c ∈ past, s.Refused fonts c) ∧ remaining ≠ [] ∧ fonts = granted ++ remaining ∧
      s.block call = granting call granted := by
  obtain ⟨past, rfl, held, unloaded, refused, granted, remaining', hne, hfonts, hblock, hcall⟩ :=
    h.of_inside inside
  obtain rfl : remaining = remaining' := by simpa [hcall] using inside.symm
  exact ⟨past, granted, rfl, held, unloaded, refused, hne, hfonts, hblock⟩

theorem returns (h : Turns fonts s callers) (waiting : s.calls[call]? = some .waiting)
    (free : s.holder = none) (loaded : s.isLoaded = true) :
    Turns fonts (s.setCall call .finished) callers := by
  have keeps : ∀ c ≠ call, Keeps s (s.setCall call .finished) c := fun c hne =>
    keeps_of (List.append_nil _).symm rfl (by simp) hne
  have hne : ∀ c ∈ callers, c ≠ call := by
    rintro c hc rfl
    exact h.not_mem_of_waiting waiting hc
  refine ⟨h.nodup, h.requests, ?_, ?_⟩
  · intro c hc state hstate
    by_cases hcall : c = call
    · subst hcall
      rw [setCall, getElem?_set_call waiting] at hstate
      exact .inr (Option.some.inj hstate).symm
    · rw [(keeps c hcall).call] at hstate
      exact h.others c hc state hstate
  · cases h.phase with
    | idle _ unloaded _ | busy _ unloaded _ _ => simp [loaded] at unloaded
    | done _ _ refused complete =>
        simp only [List.mem_append, List.mem_singleton] at hne
        exact .done free loaded (fun c hc => (refused c hc).keep (keeps c (hne c (.inl hc))))
          (complete.keep (keeps _ (hne _ (.inr rfl))))

theorem enters (h : Turns fonts s callers) (hfonts : fonts ≠ [])
    (waiting : s.calls[call]? = some .waiting) (free : s.holder = none)
    (unloaded : s.isLoaded = false) :
    Turns fonts { s.setCall call (.requesting fonts) with holder := some call }
      (callers ++ [call]) := by
  have hnot := h.not_mem_of_waiting waiting
  have hblock := h.block_eq_nil hnot
  have keeps : ∀ c ≠ call,
      Keeps s { s.setCall call (.requesting fonts) with holder := some call } c := fun c hne =>
    keeps_of (List.append_nil _).symm rfl (by simp) hne
  have hne : ∀ c ∈ callers, c ≠ call := by
    rintro c hc rfl
    exact hnot hc
  refine ⟨?_, ?_, ?_, ?_⟩
  · rw [List.nodup_append]
    refine ⟨h.nodup, by simp, fun c hc d hd => ?_⟩
    rw [List.mem_singleton.mp hd]
    exact hne c hc
  · show s.requests = (callers ++ [call]).flatMap s.block
    rw [List.flatMap_append, List.flatMap_singleton, hblock, List.append_nil, h.requests]
  · intro c hc state hstate
    simp only [List.mem_append, List.mem_singleton, not_or] at hc
    rw [(keeps c hc.2).call] at hstate
    exact h.others c hc.1 state hstate
  · cases h.phase with
    | idle _ _ refused =>
        refine .busy rfl unloaded (fun c hc => (refused c hc).keep (keeps c (hne c hc))) ?_
        exact ⟨[], fonts, hfonts, rfl, hblock, getElem?_set_call waiting⟩
    | busy held _ _ _ => simp [free] at held
    | done _ loaded _ _ => simp [unloaded] at loaded

/-- A step gives the turn to at most the scheduled call, and only when nobody has it. -/
theorem step (h : Turns fonts s callers) (hfonts : fonts ≠ []) {new : List Nat}
    (moves : Moves host fonts s call s' new) : Turns fonts s' (callers ++ new) := by
  have keeps : ∀ c ≠ call, Keeps s s' c := fun c => moves.keeps
  cases moves with
  | stays => rwa [List.append_nil]
  | returns waiting free loaded =>
      rw [List.append_nil]
      exact h.returns waiting free loaded
  | enters waiting free unloaded => exact h.enters hfonts waiting free unloaded
  | leaves inside =>
      obtain ⟨_, _, -, -, -, -, hmore, -⟩ := h.granted_of_inside inside
      exact absurd rfl hmore
  | @fails font rest state cause inside answer =>
      obtain ⟨past, granted, rfl, -, unloaded, refused, -, hall, hblock⟩ :=
        h.granted_of_inside inside
      rw [List.append_nil]
      refine h.goOn rfl (by simp) keeps (.idle rfl unloaded fun c hc => ?_)
      rcases List.mem_append.mp hc with hc | hc
      · exact h.keep_past refused keeps c hc
      · rw [List.mem_singleton.mp hc]
        refine ⟨granted, font, rest, cause, hall, ?_, getElem?_set_call inside⟩
        rw [block_append rfl (by simp), hblock]
  | completes inside answer =>
      obtain ⟨past, granted, rfl, -, -, refused, -, hall, hblock⟩ := h.granted_of_inside inside
      rw [List.append_nil]
      refine h.goOn rfl (by simp) keeps (.done rfl rfl (h.keep_past refused keeps) ⟨?_, ?_⟩)
      · rw [block_append rfl (by simp), hblock, hall, granting_concat]
      · exact getElem?_set_call inside
  | @goesOn font rest _ inside more answer =>
      obtain ⟨past, granted, rfl, held, unloaded, refused, -, hall, hblock⟩ :=
        h.granted_of_inside inside
      rw [List.append_nil]
      refine h.goOn rfl (by simp) keeps (.busy held unloaded (h.keep_past refused keeps) ?_)
      refine ⟨granted ++ [font], rest, more, ?_, ?_, getElem?_set_call inside⟩
      · rw [hall, List.append_assoc, List.singleton_append]
      · rw [block_append rfl (by simp), hblock, granting_concat]

theorem run (h : Turns fonts s callers) (hfonts : fonts ≠ []) (schedule : List Nat) :
    Turns fonts (s.run host fonts schedule) (callers ++ entrants host fonts s schedule) := by
  induction schedule generalizing s callers with
  | nil => rwa [entrants, List.append_nil]
  | cons call schedule ih =>
      rw [entrants, ← List.append_assoc]
      exact ih (h.step hfonts (step_moves host fonts s call))

theorem begin (state : σ) (calls : Nat) : Turns fonts (begin state false calls) [] where
  nodup := .nil
  requests := rfl
  others c _ state hstate := by
    obtain ⟨hlt, hstate⟩ := List.getElem?_eq_some_iff.mp hstate
    exact .inl (hstate.symm.trans (List.getElem_replicate hlt))
  phase := .idle rfl rfl (by simp)

/-! ## Loaded sessions -/

theorem last_complete (h : Turns fonts s callers) (loaded : s.isLoaded = true) :
    s.holder = none ∧ ∃ past call, callers = past ++ [call] ∧
      (∀ c ∈ past, s.Refused fonts c) ∧ s.Complete fonts call := by
  cases h.phase with
  | idle _ unloaded _ | busy _ unloaded _ _ => simp [loaded] at unloaded
  | done free _ refused complete => exact ⟨free, _, _, rfl, refused, complete⟩

/-- Once the fonts are loaded, a step only lets a call return. -/
theorem step_of_loaded (h : Turns fonts s callers) (loaded : s.isLoaded = true) {new : List Nat}
    (moves : Moves host fonts s call s' new) :
    s'.isLoaded = true ∧ s'.requests = s.requests ∧ s'.host = s.host ∧ new = [] := by
  have outside : ∀ remaining, s.calls[call]? ≠ some (.requesting remaining) := by
    intro remaining inside
    obtain ⟨_, -, -, unloaded, -⟩ := h.of_inside inside
    simp [loaded] at unloaded
  cases moves with
  | stays | returns => exact ⟨loaded, rfl, rfl, rfl⟩
  | enters _ _ unloaded => simp [loaded] at unloaded
  | leaves inside | fails inside _ | completes inside _ | goesOn inside _ _ =>
      exact absurd inside (outside _)

theorem run_of_loaded (h : Turns fonts s callers) (hfonts : fonts ≠ []) (loaded : s.isLoaded = true)
    (schedule : List Nat) :
    (s.run host fonts schedule).requests = s.requests ∧
      (s.run host fonts schedule).host = s.host ∧ entrants host fonts s schedule = [] := by
  induction schedule generalizing s callers with
  | nil => exact ⟨rfl, rfl, rfl⟩
  | cons call schedule ih =>
      have moves := step_moves host fonts s call
      obtain ⟨loaded', hrequests, hhost, hnew⟩ := h.step_of_loaded loaded moves
      obtain ⟨ihrequests, ihhost, ihnew⟩ := ih (h.step hfonts moves) loaded'
      refine ⟨ihrequests.trans hrequests, ihhost.trans hhost, ?_⟩
      rw [entrants, hnew, ihnew, List.append_nil]

end Turns

/-! ## Blocks of a run -/

theorem Refused.fonts_prefix (h : s.Refused fonts c) :
    ((s.block c).map FontRequest.font).IsPrefix fonts := by
  obtain ⟨granted, font, rest, -, rfl, hblock, -⟩ := h
  exact ⟨rest, by simp [hblock]⟩

theorem UnderWay.fonts_prefix (h : s.UnderWay fonts c) :
    ((s.block c).map FontRequest.font).IsPrefix fonts := by
  obtain ⟨granted, remaining, -, rfl, hblock, -⟩ := h
  exact ⟨remaining, by simp [hblock]⟩

theorem Complete.fonts_prefix (h : s.Complete fonts c) :
    ((s.block c).map FontRequest.font).IsPrefix fonts :=
  ⟨[], by simp [h.1]⟩

theorem Refused.block_ne (h : s.Refused fonts c) : s.block c ≠ granting c fonts := by
  obtain ⟨granted, font, rest, -, rfl, hblock, -⟩ := h
  simp [hblock, granting]

theorem UnderWay.block_ne (h : s.UnderWay fonts c) : s.block c ≠ granting c fonts := by
  obtain ⟨granted, remaining, hmore, rfl, hblock, -⟩ := h
  simpa [hblock, granting] using hmore

/-- The calls of a session acquire its fonts one after the other, and one of them at most gets them
all. -/
structure Serial (host : FontHost σ) (fonts : List FontName) (s : FontSession σ)
    (callers : List Nat) : Prop where
  /-- At most one call is inside the provider. -/
  alone : ∀ a b, s.IsInside a → s.IsInside b → a = b
  distinct : callers.Nodup
  /-- The requests are one block for each call that found the fonts not loaded. -/
  blocks : s.requests = callers.flatMap s.block
  /-- A block asks for the first of the fonts, in order. -/
  prefixes : ∀ c ∈ callers, ((s.block c).map FontRequest.font).IsPrefix fonts
  /-- Every block but the last one ends in a refused request, and its call has failed. -/
  refused : ∀ c ∈ callers.dropLast, s.Refused fonts c
  standing : ∀ c ∈ callers, s.Refused fonts c ∨ s.UnderWay fonts c ∨ s.Complete fonts c
  /-- A block that got all the fonts is the last one, whatever is scheduled after it. -/
  final : ∀ c ∈ callers, s.block c = granting c fonts → callers.getLast? = some c ∧
    ∀ more, (s.run host fonts more).requests = s.requests ∧
      (s.run host fonts more).host = s.host ∧ entrants host fonts s more = []
  loaded : s.isLoaded = true ↔ ∃ c ∈ callers, s.block c = granting c fonts
  /-- Once the fonts are loaded, a call that is let through the lock returns at once. -/
  returns : s.isLoaded = true → ∀ c, s.calls[c]? = some .waiting →
    s.step host fonts c = s.setCall c .finished

namespace Turns

theorem refused (h : Turns fonts s callers) (hc : c ∈ callers.dropLast) : s.Refused fonts c := by
  cases h.phase with
  | idle _ _ refused => exact refused c (List.dropLast_subset _ hc)
  | busy _ _ refused _ | done _ _ refused _ =>
      rw [List.dropLast_concat] at hc
      exact refused c hc

theorem of_complete_block (h : Turns fonts s callers) (hc : c ∈ callers)
    (hblock : s.block c = granting c fonts) :
    s.Complete fonts c ∧ s.isLoaded = true ∧ callers.getLast? = some c := by
  rcases h.phase.of_mem hc with refused | underWay | complete
  · exact absurd hblock refused.block_ne
  · exact absurd hblock underWay.block_ne
  · exact complete

theorem serial (h : Turns fonts s callers) (hfonts : fonts ≠ []) : Serial host fonts s callers where
  alone a b := by
    rintro ⟨_, ha⟩ ⟨_, hb⟩
    obtain ⟨_, -, ha, -⟩ := h.of_inside ha
    obtain ⟨_, -, hb, -⟩ := h.of_inside hb
    exact Option.some.inj (ha.symm.trans hb)
  distinct := h.nodup
  blocks := h.requests
  prefixes c hc := by
    rcases h.phase.of_mem hc with refused | underWay | ⟨complete, -⟩
    · exact refused.fonts_prefix
    · exact underWay.fonts_prefix
    · exact complete.fonts_prefix
  refused c hc := h.refused hc
  standing c hc := (h.phase.of_mem hc).imp_right fun last => last.imp_right And.left
  final c hc hblock := by
    obtain ⟨-, loaded, hlast⟩ := h.of_complete_block hc hblock
    exact ⟨hlast, h.run_of_loaded hfonts loaded⟩
  loaded := by
    constructor
    · intro loaded
      obtain ⟨-, past, call, rfl, -, complete⟩ := h.last_complete loaded
      exact ⟨call, by simp, complete.1⟩
    · rintro ⟨c, hc, hblock⟩
      exact (h.of_complete_block hc hblock).2.1
  returns loaded c waiting := by
    have free := (h.last_complete loaded).1
    simp [FontSession.step, waiting, free, loaded]

end Turns

/-- Whatever the provider answers and however the calls are scheduled, they acquire the fonts of a
family one after the other. -/
theorem run_serial (host : FontHost σ) (state : σ) (family : String) (calls : Nat)
    (schedule : List Nat) :
    Serial host (familyFonts family)
      (run host (familyFonts family) (begin state false calls) schedule)
      (entrants host (familyFonts family) (begin state false calls) schedule) := by
  have hfonts : familyFonts family ≠ [] := by simp [familyFonts, Token.fontWeights]
  exact ((Turns.begin state calls).run hfonts schedule).serial hfonts

/-- A provider that answers from a script, and grants what the script does not reach. -/
def scripted : FontHost (List Bool) where
  request answers font :=
    (if answers.headD true then .ok () else .error (.notAvailable font), answers.tail)

/-- Of three calls at once the first is refused its second font, the next gets all of them, and the
last finds them loaded. -/
theorem run_serial_retry :
    (run scripted (familyFonts "Inter") (begin [true, false] false 3)
        [0, 1, 0, 2, 0, 1, 1, 2, 1, 1, 1, 2]).calls =
      [.failed (.notAvailable ⟨"Inter", "Medium"⟩), .finished, .finished] ∧
    Serial scripted (familyFonts "Inter")
      (run scripted (familyFonts "Inter") (begin [true, false] false 3)
        [0, 1, 0, 2, 0, 1, 1, 2, 1, 1, 1, 2]) [0, 1] :=
  ⟨by decide, run_serial scripted [true, false] "Inter" 3 [0, 1, 0, 2, 0, 1, 1, 2, 1, 1, 1, 2]⟩

end Wireframe.FontSession
