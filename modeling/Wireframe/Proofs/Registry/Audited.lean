import Wireframe.Registry.Path
import Wireframe.Registry.Table
import Wireframe.Proofs.Pointwise
import Wireframe.Proofs.Registry.Verdict

/-! # What an audit reports

An audit walks the elements of a spec in preorder and extends the path of an element by the index of
each child. Hence its issues stand for the rejected elements one by one, and the path of an issue
reads back as the indices of its element. There is no audit where the presence of a required number
cannot be told, since no double is near it.
-/

namespace Wireframe

namespace Registry

variable {registry : Registry}

/-- The element has a known type, and a required number that cannot be tested for presence. -/
def Overflows (registry : Registry) (e : Element) : Prop :=
  e.type ≠ "" ∧ ∃ schema, registry.schema? e.type = some schema ∧
    e.toMembers.Exceeds schema.requiredProps

/-! ## Where there is a verdict -/

theorem checkElement_isOk (e : Element) :
    (registry.checkElement e).isOk = false ↔ registry.Overflows e := by
  show (registry.verdict e.toMembers).isOk = false ↔ _
  by_cases htype : e.type = ""
  · rw [verdict_untyped (by rw [value_type, htype]; rfl)]
    exact iff_of_false nofun fun h => h.1 htype
  · cases hschema : registry.schema? e.type with
    | none =>
        have htruthy : (Value.string e.type).truthy = true := by simp [Value.truthy, htype]
        rw [verdict_unknown (by rwa [value_type]) (by rw [value_type, schemaOf?, hschema])]
        simp [Overflows, hschema]
    | some schema =>
        have known : registry.HasSchema e.toMembers schema :=
          ⟨e.type, htype, value_type e, hschema⟩
        rw [known.verdict, Except.isOk_map, missingProp?_isOk]
        simp [Overflows, htype, hschema]

/-! ## Paths -/

def pathBelow (path : String) : List Nat → String
  | [] => path
  | i :: place => pathBelow (itemPath (path ++ ".children") i) place

theorem toList_itemPath (collection : String) (i : Nat) :
    (itemPath collection i).toList =
      (collection ++ "[").toList ++ (Nat.toDigits 10 i ++ [']']) := by
  simp [itemPath, toString, Nat.repr]

theorem closedIndex?_toDigits (i : Nat) : closedIndex? (Nat.toDigits 10 i ++ [']']) = some i := by
  have hdigits : ∀ c ∈ Nat.toDigits 10 i, c.isDigit = true := fun c hc =>
    Nat.isDigit_of_mem_toDigits (by decide) (by decide) hc
  have htake : (Nat.toDigits 10 i ++ [']']).takeWhile (·.isDigit) = Nat.toDigits 10 i := by
    rw [List.takeWhile_append_of_pos hdigits]
    simp
  have hdrop : (Nat.toDigits 10 i ++ [']']).dropWhile (·.isDigit) = [']'] := by
    rw [List.dropWhile_append_of_pos hdigits]
    rfl
  rw [closedIndex?, htake, hdrop, if_pos ⟨Nat.toDigits_ne_nil, rfl⟩,
    Nat.ofDigitChars_ten_toDigits]

theorem segmentIndex?_itemPath (collection : String) (i : Nat) :
    segmentIndex? collection (itemPath collection i).toList = some i := by
  have hopening : (collection ++ "[").toList.isPrefixOf (itemPath collection i).toList = true := by
    rw [List.isPrefixOf_iff_prefix, toList_itemPath]
    exact List.prefix_append _ _
  rw [segmentIndex?, if_pos hopening, toList_itemPath, List.drop_left, closedIndex?_toDigits]

theorem point_notMem_itemPath {collection : String} (h : '.' ∉ collection.toList) (i : Nat) :
    '.' ∉ (itemPath collection i).toList := by
  have hdigits : '.' ∉ Nat.toDigits 10 i := fun hmem =>
    nomatch Nat.isDigit_of_mem_toDigits (by decide) (by decide) hmem
  rw [toList_itemPath]
  simp [h, hdigits]

theorem splitOn_pathBelow (path : String) (place : List Nat) :
    (pathBelow path place).toList.splitOn '.' =
      path.toList.splitOn '.' ++ place.map fun i => (itemPath "children" i).toList := by
  induction place generalizing path with
  | nil => simp [pathBelow]
  | cons i place ih =>
      have hlevel : (itemPath (path ++ ".children") i).toList =
          path.toList ++ '.' :: (itemPath "children" i).toList := by
        simp [toList_itemPath]
      have hsegment := List.splitOn_eq_singleton (point_notMem_itemPath (by decide) i :
        '.' ∉ (itemPath "children" i).toList)
      rw [pathBelow, ih, hlevel, List.splitOn_append_cons_self, hsegment, List.append_assoc,
        List.map_cons, List.singleton_append]

theorem mapM_segmentIndex? (collection : String) (place : List Nat) :
    (place.map fun i => (itemPath collection i).toList).mapM (segmentIndex? collection) =
      some place := by
  induction place with
  | nil => rfl
  | cons i place ih =>
      rw [List.map_cons, List.mapM_cons, segmentIndex?_itemPath, ih]
      rfl

/-- The path to a place reads back as this place. -/
theorem readPath?_pathBelow (i : Nat) (place : List Nat) :
    readPath? (pathBelow (itemPath "elements" i) place) = some (i :: place) := by
  have hfirst := List.splitOn_eq_singleton (point_notMem_itemPath (by decide) i :
    '.' ∉ (itemPath "elements" i).toList)
  rw [readPath?, splitOn_pathBelow, hfirst, List.singleton_append]
  show (segmentIndex? "elements" _).bind _ = _
  rw [segmentIndex?_itemPath, mapM_segmentIndex?]
  rfl

/-! ## The walk -/

variable {screenId : Option String}

/-- An issue states the finding on an element, under the path from one above it. -/
structure Notes (registry : Registry) (screenId : Option String) (path : String)
    (site : List Nat × Element) (issue : Issue) : Prop where
  screenId : issue.screenId = screenId
  path : issue.path = pathBelow path site.1
  elementType : issue.elementType = site.2.type
  finding : registry.checkElement site.2 = .ok (.error issue.finding)

def NotesIn (registry : Registry) (screenId : Option String) (collection : String)
    (site : List Nat × Element) (issue : Issue) : Prop :=
  ∃ i place, site.1 = i :: place ∧
    registry.Notes screenId (itemPath collection i) (place, site.2) issue

theorem rejects_of_error {e : Element} {finding : Finding}
    (h : registry.checkElement e = .ok (.error finding)) : registry.rejects e = true := by
  rw [rejects, h]

theorem rejects_of_ok {e : Element} {schema : ComponentSchema}
    (h : registry.checkElement e = .ok (.ok schema)) : registry.rejects e = false := by
  rw [rejects, h]

theorem NotesIn.below {path : String} {site : List Nat × Element} {issue : Issue}
    (h : registry.NotesIn screenId (path ++ ".children") site issue) :
    registry.Notes screenId path site issue := by
  obtain ⟨i, place, hplace, hnotes⟩ := h
  refine ⟨hnotes.screenId, ?_, hnotes.elementType, hnotes.finding⟩
  rw [hplace]
  exact hnotes.path

theorem auditItems_notes {es : List Element}
    (ih : ∀ e ∈ es, ∀ path issues, registry.auditElement screenId path e = .ok issues →
      List.Forall₂ (registry.Notes screenId path)
        (e.located.filter fun site => registry.rejects site.2) issues)
    {collection : String} {index : Nat} {issues : List Issue}
    (h : registry.auditItems screenId collection index es = .ok issues) :
    List.Forall₂ (registry.NotesIn screenId collection)
      ((Tree.locatedFrom index es).filter fun site => registry.rejects site.2) issues := by
  induction es generalizing index issues with
  | nil => cases h; exact .nil
  | cons e es hrest =>
      rw [List.forall_mem_cons] at ih
      rw [auditItems, Except.bind_ok_iff] at h
      obtain ⟨here, hhere, h⟩ := h
      obtain ⟨more, hmore, h⟩ := Except.bind_ok_iff.mp h
      cases h
      have hfirst := ih.1 _ _ hhere
      rw [Tree.locatedFrom, List.filter_append, List.filter_map]
      apply List.rel_append
      · rw [List.forall₂_map_left_iff]
        exact hfirst.imp fun site issue hnotes => ⟨index, site.1, rfl, hnotes⟩
      · exact hrest ih.2 hmore

/-- The issues on an element are those of the rejected elements below it, each under its path. -/
theorem auditElement_notes {e : Element} {path : String} {issues : List Issue}
    (h : registry.auditElement screenId path e = .ok issues) :
    List.Forall₂ (registry.Notes screenId path)
      (e.located.filter fun site => registry.rejects site.2) issues := by
  induction e using Tree.induct generalizing path issues with
  | node head children ih =>
      rw [auditElement, Except.bind_ok_iff] at h
      obtain ⟨verdict, hverdict, h⟩ := h
      obtain ⟨below, hbelow, h⟩ := Except.bind_ok_iff.mp h
      cases h
      have hchildren := (auditItems_notes (fun e he path issues h => ih e he h) hbelow).imp
        fun site issue h => NotesIn.below h
      rw [Tree.located]
      cases verdict with
      | ok schema =>
          rw [List.filter_cons_of_neg (by simp [rejects_of_ok hverdict])]
          exact hchildren
      | error finding =>
          rw [List.filter_cons_of_pos (by simp [rejects_of_error hverdict])]
          exact .cons ⟨rfl, rfl, rfl, hverdict⟩ hchildren

/-! ## Audits that come to an end -/

theorem auditItems_isOk {es : List Element}
    (ih : ∀ e ∈ es, ∀ path, (registry.auditElement screenId path e).isOk =
      e.subtrees.all fun below => (registry.checkElement below).isOk)
    (collection : String) (index : Nat) :
    (registry.auditItems screenId collection index es).isOk =
      (es.flatMap Tree.subtrees).all fun below => (registry.checkElement below).isOk := by
  induction es generalizing index with
  | nil => rfl
  | cons e es hrest =>
      rw [List.forall_mem_cons] at ih
      rw [auditItems, List.flatMap_cons, List.all_append, ← ih.1 (itemPath collection index),
        ← hrest ih.2 (index + 1)]
      exact Except.isOk_bind fun _ => Except.isOk_bind_total fun _ => rfl

theorem auditElement_isOk (e : Element) (path : String) :
    (registry.auditElement screenId path e).isOk =
      e.subtrees.all fun below => (registry.checkElement below).isOk := by
  induction e using Tree.induct generalizing path with
  | node head children ih =>
      rw [auditElement, Tree.subtrees_node, List.all_cons,
        ← auditItems_isOk ih (path ++ ".children") 0]
      exact Except.isOk_bind fun _ => Except.isOk_bind_total fun _ => rfl

variable {α : Type}

/-- The issue names the screen and the type of an element, states what validation finds wrong with
it, and has a path that leads to it. -/
structure Reports (registry : Registry) (site : Site) (issue : Issue) : Prop where
  screenId : issue.screenId = site.screenId
  path : readPath? issue.path = some site.place
  elementType : issue.elementType = site.element.type
  finding : registry.checkElement site.element = .ok (.error issue.finding)

theorem NotesIn.reports {site : List Nat × Element} {issue : Issue}
    (h : registry.NotesIn screenId "elements" site issue) :
    registry.Reports ⟨screenId, site.1, site.2⟩ issue := by
  obtain ⟨i, place, hplace, hnotes⟩ := h
  refine ⟨hnotes.screenId, ?_, hnotes.elementType, hnotes.finding⟩
  rw [hnotes.path, readPath?_pathBelow, hplace]

theorem auditScreens_isOk (screens : List (Screen α)) :
    (registry.auditScreens screens).isOk =
      (screens.flatMap fun screen => screen.elements.flatMap Tree.subtrees).all fun e =>
        (registry.checkElement e).isOk := by
  induction screens with
  | nil => rfl
  | cons screen screens ih =>
      rw [auditScreens, List.flatMap_cons, List.all_append, ← ih,
        ← auditItems_isOk (fun e _ => auditElement_isOk e) "elements" 0]
      exact Except.isOk_bind fun _ => Except.isOk_bind_total fun _ => rfl

theorem auditScreens_reports {screens : List (Screen α)} {issues : List Issue}
    (h : registry.auditScreens screens = .ok issues) :
    List.Forall₂ registry.Reports
      ((screens.flatMap Screen.sites).filter fun site => registry.rejects site.element) issues := by
  induction screens generalizing issues with
  | nil => cases h; exact .nil
  | cons screen screens ih =>
      rw [auditScreens, Except.bind_ok_iff] at h
      obtain ⟨here, hhere, h⟩ := h
      obtain ⟨more, hmore, h⟩ := Except.bind_ok_iff.mp h
      cases h
      have hnotes := auditItems_notes (fun e _ path issues h => auditElement_notes h) hhere
      rw [List.flatMap_cons, List.filter_append]
      apply List.rel_append
      · rw [Screen.sites, List.filter_map, List.forall₂_map_left_iff]
        exact hnotes.imp fun site issue h => NotesIn.reports h
      · exact ih hmore

/-- An audit comes to an end exactly if no element has a required number beyond the doubles. Then it
reports, one by one and in order, the rejected ones among all elements, under paths that lead to
them; nested elements are among these sites, and each element is one site. -/
theorem audit_reports (registry : Registry) (spec : Spec α) :
    ((∃ issues, registry.audit spec = .ok issues) ↔
      ∀ screen ∈ spec.screens, ∀ e ∈ screen.elements.flatMap Tree.subtrees,
        ¬ registry.Overflows e) ∧
    (∀ issues, registry.audit spec = .ok issues →
      List.Forall₂ registry.Reports (registry.rejected spec) issues) ∧
    ∀ screen ∈ spec.screens,
      screen.sites.map (·.element) = screen.elements.flatMap Tree.subtrees ∧
      (screen.sites.map (·.place)).Nodup ∧
      ∀ site ∈ screen.sites,
        site.screenId = screen.id ∧ screen.elementAt? site.place = some site.element := by
  refine ⟨?_, fun issues h => auditScreens_reports h, fun screen _ =>
    ⟨screen.map_element_sites, screen.nodup_place_sites, fun site hsite =>
      ⟨Screen.screenId_of_mem_sites hsite, Screen.elementAt?_of_mem_sites hsite⟩⟩⟩
  rw [← Except.isOk_iff_exists, audit, auditScreens_isOk, List.all_eq_true]
  simp only [List.mem_flatMap, ← checkElement_isOk, Bool.not_eq_false]
  constructor
  · intro h screen hscreen e he
    exact h e ⟨screen, hscreen, he⟩
  · intro h e he
    obtain ⟨screen, hscreen, he⟩ := he
    exact h screen hscreen e he

/-- An integer of 401 digits as the value of a stat: the audit fails, and does not report the
element of unknown type behind it. -/
theorem audit_beyond_doubles :
    let stat : Element := .node ⟨"stat", none,
      [("label", .string "L"), ("value", .number (.int (Nat.pow 10 400)))]⟩ []
    let gauge : Element := .node ⟨"gauge", none, []⟩ []
    let spec : Spec Number := ⟨"", [⟨some "s", "", none, [stat, gauge]⟩], []⟩
    builtin.rejects gauge = true ∧ ¬ ∃ issues, builtin.audit spec = .ok issues := by
  intro stat gauge spec
  refine ⟨by decide +kernel, ?_⟩
  rw [← Except.isOk_iff_exists]
  decide +kernel

end Registry

end Wireframe
