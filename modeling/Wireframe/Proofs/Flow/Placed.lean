import Wireframe.Proofs.Flow.Routed
import Wireframe.Proofs.Preview.Canvas
import Wireframe.Proofs.Preview.Place
import Wireframe.Proofs.Spec.Edits

/-! # Paths and the screens that they join

A canvas gives a screen its place twice: in the style that the screen is drawn with, and in the
rectangle that paths begin and end at. The router has the coordinates as they are, while the style
has six digits of them, so the two are one place exactly when no more digits are needed.
-/

namespace Wireframe

namespace Flow

variable {α : Type} [Scalar α] {spec : Spec α} {screen : Screen α}

/-- Of the rectangles of the screens, the last one with an id that no two screens have is that of
the screen with the id. -/
theorem isLast_screenRects {id : String} (once : spec.HasOnce id) (hscreen : screen ∈ spec.screens)
    (hid : screen.id = some id) (hne : id ≠ "") {place : Point α}
    (hplace : screen.position = some place) (width height : α) :
    IsLast (screenRects spec width height) (some id) ⟨id, place.x, place.y, width, height⟩ := by
  obtain ⟨before, after, hscreens⟩ := List.append_of_mem hscreen
  have hlater : ∀ later ∈ after, later.id ≠ some id := by
    have hpairs := once
    rw [Spec.HasOnce, hscreens, List.pairwise_append, List.pairwise_cons] at hpairs
    exact fun later hmem hsame => hpairs.2.1.1 later hmem ⟨hid, hsame⟩
  have hkey : nonempty? screen.id = some id := nonempty?_eq_some.mpr ⟨hid, hne⟩
  unfold screenRects
  rw [hscreens, List.mapIdx_append, List.filterMap_append, List.mapIdx_cons,
    List.filterMap_cons_some (b := ⟨id, place.x, place.y, width, height⟩)
      (by simp [hkey, hplace])]
  refine ⟨rfl, _, _, rfl, ?_⟩
  intro later hmem
  obtain ⟨found, hfound, hsome⟩ := List.mem_filterMap.mp hmem
  obtain ⟨i, hi, rfl⟩ := List.mem_mapIdx.mp hfound
  obtain ⟨name, hname, rfl⟩ := Option.map_eq_some_iff.mp hsome
  intro hsame
  have hgiven : after[i].id = some name := (nonempty?_eq_some.mp hname).1
  have hname : name = id := hsame
  exact hlater _ (List.getElem_mem hi) (hgiven.trans (congrArg some hname))

def BeginsAt (drawn : Path α) (r : Rect α) : Prop :=
  ∃ start, r.side drawn.direction = .ok start ∧ drawn.points.head? = some start

def EndsAt (drawn : Path α) (r : Rect α) : Prop :=
  ∃ finish, r.side drawn.direction.opposite = .ok finish ∧ drawn.points.getLast? = some finish

theorem path_touches {style : Style α} {edge : FlowEdge} {source target : Rect α} {drawn : Path α}
    (h : path style edge source target = .ok drawn) :
    BeginsAt drawn source ∧ EndsAt drawn target := by
  obtain ⟨ends, hends, hpoints, -, -, -, -, hdirection⟩ := path_ok_iff.mp h
  obtain ⟨-, hstart, hfinish⟩ := anchors_ok_iff.mp hends
  have hbends : drawn.points.head? = some ends.start ∧
      drawn.points.getLast? = some ends.finish := by
    unfold bends at hpoints
    split at hpoints
    · obtain ⟨y, -, hpoints⟩ := Except.bind_ok_iff.mp hpoints
      rw [← Except.pure_ok_iff.mp hpoints]
      exact ⟨rfl, rfl⟩
    · obtain ⟨x, -, hpoints⟩ := Except.bind_ok_iff.mp hpoints
      rw [← Except.pure_ok_iff.mp hpoints]
      exact ⟨rfl, rfl⟩
  rw [← hdirection] at hstart hfinish
  exact ⟨⟨_, hstart, hbends.1⟩, _, hfinish, hbends.2⟩

/-- The paths of edges to and from an id meet the rectangle that the id names. -/
def MeetsAt (edges : List FlowEdge) (paths : List (Path α)) (id : String) (r : Rect α) : Prop :=
  List.Forall₂ (fun edge drawn => (edge.source = some id → BeginsAt drawn r) ∧
    (edge.target = some id → EndsAt drawn r)) edges paths

theorem meetsAt_of_route {style : Style α} {rects : List (Rect α)} {edges : List FlowEdge}
    {paths : List (Path α)} (h : route style rects edges = .ok paths) {id : String} {r : Rect α}
    (hlast : IsLast rects (some id) r) :
    MeetsAt (edges.filter fun edge => Joins rects edge) paths id r := by
  refine (route_ok_iff.mp h).imp fun edge drawn hdrawn => ?_
  obtain ⟨source, target, hsource, htarget, hpath⟩ := hdrawn
  obtain ⟨hbegins, hends⟩ := path_touches hpath
  constructor
  · intro hid
    rw [hid] at hsource
    rwa [← hsource.eq hlast]
  · intro hid
    rw [hid] at htarget
    rwa [← htarget.eq hlast]

end Flow

namespace Renderer

open Preview

variable {renderer : Renderer} {spec : Spec Number} {selection : Selection} {collector : Collector}
  {page : Markup}

/-- On a canvas the paths of a screen with an id of its own meet the rectangle at its coordinates,
and its style gives each of them exactly when six significant digits are enough for it. -/
theorem renderCanvas_places
    (h : ((renderer.renderCanvas spec selection).run.run collector).1 = .ok page) {index : Nat}
    {screen : Screen Number} {id : String} {place : Point Number} {x y : Rat}
    (hscreen : spec.ensureIds.screens[index]? = some screen) (hid : screen.id = some id)
    (once : spec.ensureIds.HasOnce id) (hplace : screen.position = some place)
    (hx : place.x.IsExactly x) (hy : place.y.IsExactly y) :
    ∃ drawn rect paths, placeAt? page index = some drawn ∧ ShowsPaths page paths ∧
      Flow.MeetsAt
        (spec.ensureIds.flows.filter fun edge => Flow.Joins (renderer.rects spec.ensureIds) edge)
        paths id rect ∧
      Flow.rect? (renderer.rects spec.ensureIds) (some id) = some rect ∧
      rect.x.toRat? = some x ∧ rect.y.toRat? = some y ∧
      (drawn.x = x ↔ HasDigits 6 x) ∧ (drawn.y = y ↔ HasDigits 6 y) := by
  obtain ⟨hdrawn, paths, hpaths, hshown⟩ := renderCanvas_ok h
  obtain ⟨drawn, hread, hleft, htop⟩ := readPlace?_placeStyle renderer hx hy
  have hne : id ≠ "" := by
    have hmade := hscreen
    rw [Spec.ensureIds, List.getElem?_mapIdx, Option.map_eq_some_iff] at hmade
    obtain ⟨given, -, rfl⟩ := hmade
    obtain rfl := Option.some.inj hid
    unfold Screen.idAt
    cases hgiven : nonempty? given.id with
    | none => exact screenId_ne_empty index
    | some id => exact (nonempty?_eq_some.mp hgiven).2
  have hlast := Flow.isLast_screenRects once (List.mem_of_getElem? hscreen) hid hne hplace
    (.double renderer.settings.screenWidth) (.double renderer.settings.screenHeight)
  refine ⟨drawn, _, paths, ?_, hshown, Flow.meetsAt_of_route hpaths hlast,
    Flow.rect?_eq_some_iff.mpr hlast, hx.value, hy.value, hleft, htop⟩
  have hindexed : spec.ensureIds.screens.zipIdx[index]? = some (screen, index) := by
    rw [List.getElem?_zipIdx, hscreen, Option.map_some, Nat.zero_add]
  have hlength : index < page.children.length := by
    have hbound := (List.getElem?_eq_some_iff.mp hindexed).1
    rw [← hdrawn.length_eq]
    exact hbound
  have hnode : page.children[index]? = some page.children[index] :=
    List.getElem?_eq_getElem hlength
  have hat := forall₂_getElem? hdrawn hindexed hnode
  simp only [placeAt?, hnode, hat.style hplace, Value.string?, hread, Option.bind_eq_bind,
    Option.bind_some]

/-- Seven digits of which the last is a zero: the paths begin where the screen is drawn. -/
theorem renderCanvas_places_level :
    let screen (id : String) (x y : Double) : Screen Number :=
      ⟨some id, "", some ⟨.double x, .double y⟩, []⟩
    let spec : Spec Number := ⟨"", [screen "a" 1234560 (-40), screen "b" 0 500],
      [⟨some "a", some "b", none, none⟩]⟩
    let renderer := create Registry.builtin Rules.builtin {}
    ∃ page drawn rect, ((renderer.renderCanvas spec Selection.none).run.run {}).1 = .ok page ∧
      placeAt? page 0 = some drawn ∧
      Flow.rect? (renderer.rects spec.ensureIds) (some "a") = some rect ∧
      rect.x.toRat? = some drawn.x ∧ rect.y.toRat? = some drawn.y ∧ drawn = ⟨1234560, -40⟩ := by
  intro screen spec renderer
  have hrun : ((renderer.renderCanvas spec Selection.none).run.run {}).1.isOk = true := by
    decide +kernel
  have hx : (Number.double 1234560).IsExactly 1234560 := ⟨by decide +kernel, by decide +kernel⟩
  have hy : (Number.double (-40)).IsExactly (-40) := ⟨by decide +kernel, by decide +kernel⟩
  have sixX : HasDigits 6 1234560 := ⟨123456, 1, by norm_num, by norm_num⟩
  have sixY : HasDigits 6 (-40) := ⟨40, 0, by norm_num, by norm_num⟩
  have hscreen : spec.ensureIds.screens[0]? = some (screen "a" 1234560 (-40)) := rfl
  have hid : (screen "a" 1234560 (-40)).id = some "a" := rfl
  obtain ⟨page, hpage⟩ := Except.isOk_iff_exists.mp hrun
  obtain ⟨⟨left, top⟩, rect, _, hdrawn, -, -, hrect, hleft, htop, hsameX, hsameY⟩ :=
    renderCanvas_places hpage hscreen hid (by decide) rfl hx hy
  obtain rfl : left = 1234560 := hsameX.mpr sixX
  obtain rfl : top = -40 := hsameY.mpr sixY
  exact ⟨page, _, rect, hpage, hdrawn, hrect, hleft, htop, rfl⟩

/-- Seven digits that count: the screen is drawn three pixels beside the rectangle at which its path
begins. -/
theorem renderCanvas_places_apart :
    let screen (id : String) (x y : Double) : Screen Number :=
      ⟨some id, "", some ⟨.double x, .double y⟩, []⟩
    let spec : Spec Number := ⟨"", [screen "a" 1234567 0, screen "b" 0 500],
      [⟨some "a", some "b", none, none⟩]⟩
    let renderer := create Registry.builtin Rules.builtin {}
    ∃ page rect, ((renderer.renderCanvas spec Selection.none).run.run {}).1 = .ok page ∧
      spec.ensureIds.HasOnce "a" ∧
      Flow.rect? (renderer.rects spec.ensureIds) (some "a") = some rect ∧
      rect.x.IsExactly 1234567 ∧ placeAt? page 0 = some ⟨1234570, 0⟩ := by
  intro screen spec renderer
  have hrun : (((renderer.renderCanvas spec Selection.none).run.run {}).1.toOption.any
      fun page => placeAt? page 0 == some ⟨1234570, 0⟩) = true := by
    decide +kernel
  have hrect : (Flow.rect? (renderer.rects spec.ensureIds) (some "a")).map (·.x) =
      some (.double 1234567) := by
    decide +kernel
  obtain ⟨rect, hfound, hx⟩ := Option.map_eq_some_iff.mp hrect
  have hexact : rect.x.IsExactly 1234567 := by
    rw [hx]
    exact ⟨by decide +kernel, by decide +kernel⟩
  cases hpage : ((renderer.renderCanvas spec Selection.none).run.run {}).1 with
  | error cause => simp [hpage, Except.toOption] at hrun
  | ok page =>
      rw [hpage, Except.toOption, Option.any_some, beq_iff_eq] at hrun
      exact ⟨page, rect, rfl, by decide, hfound, hexact, hrun⟩

end Renderer

end Wireframe
