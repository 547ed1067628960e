import Wireframe.Json.Lenient
import Wireframe.Proofs.Spec.Loaded

/-! # How loading fails

A response that is no valid document is refused with a message, and `Envelope.validate` reports a
violation as a value. The one way in which both fail otherwise is at the id of a screen, which is
looked up among the ids before it although its kind has not been checked yet. `Spec.unrefused_iff`
says exactly when that happens. Behind the check nothing is left to fail: a document that comes from
a text has no integer whose text could not be written, and so all its faults are reported.
-/

namespace Wireframe

/-! ## Faults -/

namespace Checked

variable {α β γ : Type}

def Reported (x : Checked α) : Prop := ∀ fault ∈ x.faults, fault.isReported = true

theorem reported_ok (a : α) : Reported (.ok a) := nofun

theorem reported_fault {kind : FaultKind} (h : kind.code?.isSome = true) :
    Reported (fault kind : Checked α) := by
  rintro _ (_ | ⟨_, ⟨⟩⟩)
  exact h

theorem Reported.under {x : Checked α} (h : x.Reported) (step : Step) :
    (x.under step).Reported := by
  cases x with
  | ok a => exact reported_ok a
  | error fs =>
      intro fault hfault
      obtain ⟨inner, hinner, rfl⟩ := List.mem_map.mp hfault
      exact h inner hinner

theorem Reported.both {f : α → β → γ} {x : Checked α} {y : Checked β} (hx : x.Reported)
    (hy : y.Reported) : (Checked.both f x y).Reported := by
  have hjoined : ∀ fault ∈ x.faults ++ y.faults, fault.isReported = true :=
    List.forall_mem_append.mpr ⟨hx, hy⟩
  cases x with
  | error _ => exact hjoined
  | ok _ =>
      cases y with
      | error _ => exact hjoined
      | ok _ => exact reported_ok _

theorem Reported.ap {f : Checked (α → β)} {x : Checked α} (hf : f.Reported) (hx : x.Reported) :
    (Checked.ap f x).Reported :=
  hf.both hx

theorem Reported.each {check : α → Checked β} {as : List α} (h : ∀ a ∈ as, (check a).Reported)
    (start : Nat) : (Checked.each check start as).Reported := by
  induction as generalizing start with
  | nil => exact reported_ok []
  | cons a as ih =>
      rw [List.forall_mem_cons] at h
      exact (h.1.under _).both (ih h.2 (start + 1))

theorem Reported.map {x : Checked α} (h : x.Reported) (f : α → β) :
    Reported (Except.map f x) := by
  cases x with
  | ok a => exact reported_ok _
  | error _ => exact h

theorem Reported.bind {x : Checked α} {f : α → Checked β} (hx : x.Reported)
    (h : ∀ a, x = .ok a → (f a).Reported) : Reported (x >>= f) := by
  cases x with
  | ok a => exact h a rfl
  | error _ => exact hx

end Checked

open Checked (reported_ok reported_fault)

namespace Value

variable {v : Value}

theorem reported_asMembers (v : Value) : v.asMembers.Reported := by
  cases v with
  | object members => exact reported_ok members
  | null | bool | number | string | list => exact reported_fault rfl

theorem reported_asString (v : Value) : v.asString.Reported := by
  cases v with
  | string s => exact reported_ok s
  | null | bool | number | list | object => exact reported_fault rfl

theorem reported_asDouble (v : Value) : v.asDouble.Reported := by
  unfold asDouble
  split
  · exact reported_ok _
  · split
    · exact reported_ok _
    · exact reported_fault rfl
  · exact reported_ok _
  · split
    · exact reported_ok _
    · exact reported_fault rfl
  · exact reported_fault rfl

theorem Sound.reported_asLooseString (sound : v.Sound Number.IsWritable) :
    v.asLooseString.Reported := by
  cases sound with
  | string s => exact reported_ok s
  | number holds =>
      rw [asLooseString, display_of_isWritable (isWritable_of_sound (.number holds))]
      exact reported_ok _
  | null | bool | list | object => exact reported_fault rfl

theorem Sound.reported_asOptionalString (sound : v.Sound Number.IsWritable) :
    v.asOptionalString.Reported := by
  unfold asOptionalString
  split
  · exact reported_ok none
  · exact sound.reported_asLooseString.map some

theorem Sound.reported_asListOf {α : Type} {read : Value → Checked α}
    (sound : v.Sound Number.IsWritable)
    (h : ∀ item : Value, item.Sound Number.IsWritable → (read item).Reported) :
    (v.asListOf read).Reported := by
  cases sound with
  | null => exact reported_ok []
  | list below => exact Checked.Reported.each (fun item hitem => h item (below item hitem)) 0
  | bool | number | string | object => exact reported_fault rfl

end Value

namespace Members.Sound

variable {α : Type} {members : Members} {key other : String} {default : α}
  {read : Value → Checked α}

theorem reported_field (sound : members.Sound Number.IsWritable)
    (h : ∀ v : Value, v.Sound Number.IsWritable → (read v).Reported) :
    (members.field key default read).Reported := by
  unfold field
  split
  · next v hv => exact (h v (sound.below _ (mem_of_value? hv))).under _
  · exact reported_ok default

theorem reported_fieldNamed (sound : members.Sound Number.IsWritable)
    (h : ∀ v : Value, v.Sound Number.IsWritable → (read v).Reported) :
    (members.fieldNamed key other default read).Reported := by
  unfold fieldNamed
  split
  · exact sound.reported_field h
  · exact sound.reported_field h

end Members.Sound

namespace Value.Sound

variable {v : Value}

/-- A reader of objects lists reported faults when it does so for every sound table of members. -/
theorem reported_bind {α : Type} {read : Members → Checked α} (sound : v.Sound Number.IsWritable)
    (h : ∀ members : Members, members.Sound Number.IsWritable → (read members).Reported) :
    (v.asMembers >>= read).Reported := by
  refine v.reported_asMembers.bind fun members hmembers => h members ?_
  obtain rfl := asMembers_ok_iff.mp hmembers
  cases sound with
  | object keys below => exact ⟨keys, below⟩

theorem reported_readElement (sound : v.Sound Number.IsWritable) :
    (Element.read v).Reported ∧ (Element.readCollection v).Reported := by
  induction sound with
  | list _ ih =>
      refine ⟨reported_fault rfl, ?_⟩
      rw [Element.readCollection_eq_asListOf]
      exact Checked.Reported.each (fun item hitem => (ih item hitem).1) 0
  | @object members keys below ih =>
      have sound : Members.Sound Number.IsWritable members := ⟨keys, below⟩
      refine ⟨Checked.Reported.both ?_ ?_, reported_fault rfl⟩
      · exact (sound.reported_field fun _ h => h.reported_asLooseString).both
          (sound.reported_field fun _ h => h.reported_asOptionalString)
      · rw [Element.under_readChildren, Members.field]
        split
        · next v hv => exact (ih _ (Members.mem_of_value? hv)).2.under _
        · exact reported_ok []
  | null => exact ⟨reported_fault rfl, reported_ok []⟩
  | bool | number | string => exact ⟨reported_fault rfl, reported_fault rfl⟩

theorem reported_readPoint (sound : v.Sound Number.IsWritable) :
    (Point.readOptional v).Reported := by
  unfold Point.readOptional
  split
  · exact reported_ok none
  · refine (sound.reported_bind fun members sound => ?_).map some
    exact (sound.reported_field fun v _ => v.reported_asDouble.map _).both
      (sound.reported_field fun v _ => v.reported_asDouble.map _)

theorem reported_readScreen (sound : v.Sound Number.IsWritable) : (Screen.read v).Reported :=
  sound.reported_bind fun _ sound =>
    (((sound.reported_field fun _ h => h.reported_asOptionalString).both
      (sound.reported_field fun _ h => h.reported_asLooseString)).ap
      (sound.reported_field fun _ h => h.reported_readPoint)).ap
      (sound.reported_field fun _ h => h.reported_readElement.2)

theorem reported_readFlow (sound : v.Sound Number.IsWritable) : (FlowEdge.read v).Reported :=
  sound.reported_bind fun _ sound =>
    (((sound.reported_fieldNamed fun _ h => h.reported_asOptionalString).both
      (sound.reported_field fun _ h => h.reported_asOptionalString)).ap
      (sound.reported_field fun _ h => h.reported_asOptionalString)).ap
      (sound.reported_field fun _ h => h.reported_asOptionalString)

/-- Whatever is wrong with a sound document is reported. -/
theorem reported_readSpec (sound : v.Sound Number.IsWritable) : (Spec.read v).Reported :=
  sound.reported_bind fun _ sound =>
    ((sound.reported_fieldNamed fun v _ => v.reported_asString).both
      (sound.reported_field fun _ h => h.reported_asListOf fun _ h => h.reported_readScreen)).ap
      (sound.reported_field fun _ h => h.reported_asListOf fun _ h => h.reported_readFlow)

end Value.Sound

/-! ## The check -/

theorem Value.Sound.idField {p : Number → Prop} {v : Value} (sound : v.Sound p) :
    v.idField.Sound p := by
  cases sound with
  | @object members _ below =>
      show (Members.value members "id").Sound p
      cases hid : Members.value? members "id" with
      | none =>
          rw [Members.value_of_absent hid]
          exact .null
      | some id =>
          rw [Members.value_of_value? hid]
          exact below _ (Members.mem_of_value? hid)
  | _ => exact .null

namespace Envelope

/-- The checks before the ids pass, and so do the ids `before`: the check comes to the next one. -/
structure Reaches (members : Members) (maxDepth : Int) (before : List Value) (id : Value) :
    Prop where
  depth : excess? maxDepth 0 (.object members) = none
  screens : ∃ items, (members.value "screens").asList = .ok items
  flows : ∃ items, (members.value "flows").asList = .ok items
  shape : ∀ v ∈ Envelope.screens members, ∃ fields : Members, v = .object fields ∧
    ∃ items, (fields.value "elements").asList = .ok items
  ids : ∃ after, screenIds (Envelope.screens members) = before ++ id :: after
  keys : ∀ other ∈ before, other.isKey = true
  apart : before.Pairwise fun a b => a.sameKey b = false

/-- The id cannot be looked up, or it is there already and has too many digits to be reported. -/
def Trips (before : List Value) (id : Value) : Prop :=
  id.isKey = false ∨ ∃ n, id = .int n ∧ Text.isWritable n = false ∧
    ∃ other ∈ before, other.sameKey id = true

/-- The check ends, but not with a violation. -/
def Fails (result : Except EnvelopeError Unit) : Prop :=
  ∃ cause, result = .error cause ∧ cause.isViolation = false

variable {result : Except EnvelopeError Unit}

theorem fails_bind {next : Unit → Except EnvelopeError Unit} :
    Fails (result >>= next) ↔ Fails result ∨ result = .ok () ∧ Fails (next ()) := by
  cases result <;> simp [Fails, bind, Except.bind]

@[simp] theorem not_fails_ok : ¬ Fails (.ok ()) := nofun

theorem fails_error {cause : EnvelopeError} :
    Fails (.error cause) ↔ cause.isViolation = false := by
  simp [Fails]

theorem not_fails_checkSize (data : String) (limit : Int) (name : String) :
    ¬ Fails (checkSize data limit name) := by
  unfold checkSize
  split <;> simp [fails_error, EnvelopeError.isViolation]

theorem not_fails_checkDepth (v : Value) (limit depth : Int) :
    ¬ Fails (checkDepth v limit depth) := by
  unfold checkDepth
  split <;> simp [fails_error, EnvelopeError.isViolation]

theorem not_fails_checkList (members : Members) (field : String) :
    ¬ Fails (checkList members field) := by
  unfold checkList
  split <;> simp [fails_error, EnvelopeError.isViolation]

theorem not_fails_checkScreens (index : Nat) (screens : List Value) :
    ¬ Fails (checkScreens index screens) := by
  fun_induction checkScreens index screens <;> simp_all [fails_error, EnvelopeError.isViolation]

theorem isViolation_duplicateId {id : Value} :
    (EnvelopeError.duplicateId id).isViolation = false ↔
      ∃ n, id = .int n ∧ Text.isWritable n = false := by
  cases id with
  | number n => cases n <;> simp [EnvelopeError.isViolation, Value.int]
  | _ => simp [EnvelopeError.isViolation, Value.int]

/-- What is reported of an id behind others: that it is no key, or the key of one of them. -/
def Reports (before : List Value) (id : Value) (cause : EnvelopeError) : Prop :=
  id.isKey = false ∧ cause = .idNotAKey id ∨
    id.isKey = true ∧ (∃ other ∈ before, other.sameKey id = true) ∧ cause = .duplicateId id

theorem reports_congr {before before' : List Value} (h : ∀ v, v ∈ before ↔ v ∈ before')
    (id : Value) (cause : EnvelopeError) : Reports before id cause ↔ Reports before' id cause := by
  simp only [Reports, h]

theorem checkIds_of_reports {seen : List Value} {id : Value} {cause : EnvelopeError}
    (h : Reports seen id cause) (rest : List Value) : checkIds seen (id :: rest) = .error cause := by
  rcases h with ⟨hkey, rfl⟩ | ⟨hkey, hagain, rfl⟩
  · simp [checkIds, hkey]
  · simp [checkIds, hkey, List.any_eq_true.mpr hagain]

theorem checkIds_of_not_reports {seen : List Value} {id : Value}
    (h : ∀ cause, ¬ Reports seen id cause) (rest : List Value) :
    checkIds seen (id :: rest) = checkIds (id :: seen) rest := by
  have hkey : id.isKey = true := by
    cases hkey : id.isKey with
    | true => rfl
    | false => exact absurd (.inl ⟨hkey, rfl⟩) (h (.idNotAKey id))
  have hnew : (seen.any fun other => other.sameKey id) = false := by
    cases hagain : seen.any fun other => other.sameKey id with
    | false => rfl
    | true =>
        exact absurd (.inr ⟨hkey, List.any_eq_true.mp hagain, rfl⟩) (h (.duplicateId id))
  simp [checkIds, hkey, hnew]

/-- The check of the ids ends with a report at the first id that there is something to report of. -/
theorem checkIds_error_iff {seen ids : List Value} {cause : EnvelopeError} :
    checkIds seen ids = .error cause ↔ ∃ before id after, ids = before ++ id :: after ∧
      checkIds seen before = .ok () ∧ Reports (seen ++ before) id cause := by
  induction ids generalizing seen with
  | nil => simp [checkIds]
  | cons id rest ih =>
      simp only [List.cons_eq_append_iff]
      by_cases hreported : ∃ report, Reports seen id report
      · obtain ⟨report, hreport⟩ := hreported
        constructor
        · intro h
          rw [checkIds_of_reports hreport] at h
          cases h
          have hfirst : Reports (seen ++ []) id cause := by rwa [List.append_nil]
          exact ⟨[], id, rest, .inl ⟨rfl, rfl⟩, rfl, hfirst⟩
        · rintro ⟨_, _, after, ⟨rfl, heq⟩ | ⟨tail, rfl, -⟩, hpass, hreports⟩
          · cases heq
            rw [List.append_nil] at hreports
            exact checkIds_of_reports hreports rest
          · rw [checkIds_of_reports hreport] at hpass
            cases hpass
      · have hpassed := checkIds_of_not_reports (not_exists.mp hreported)
        rw [hpassed, ih]
        constructor
        · rintro ⟨before, other, after, rfl, hpass, hreports⟩
          refine ⟨id :: before, other, after, .inr ⟨before, rfl, rfl⟩, ?_, ?_⟩
          · rw [hpassed, hpass]
          · exact (reports_congr (by simp [or_left_comm]) other cause).mp hreports
        · rintro ⟨_, other, after, ⟨rfl, heq⟩ | ⟨before, rfl, rfl⟩, hpass, hreports⟩
          · cases heq
            rw [List.append_nil] at hreports
            exact absurd ⟨cause, hreports⟩ hreported
          · rw [hpassed] at hpass
            exact ⟨before, other, after, rfl, hpass,
              (reports_congr (by simp [or_left_comm]) other cause).mpr hreports⟩

theorem fails_checkIds_iff {seen ids : List Value} :
    Fails (checkIds seen ids) ↔ ∃ before id after, ids = before ++ id :: after ∧
      checkIds seen before = .ok () ∧ Trips (seen ++ before) id := by
  have htrips : ∀ before id, Trips before id ↔
      ∃ cause, Reports before id cause ∧ cause.isViolation = false := by
    intro before id
    constructor
    · rintro (hkey | ⟨n, rfl, hlong, hagain⟩)
      · exact ⟨_, .inl ⟨hkey, rfl⟩, rfl⟩
      · exact ⟨_, .inr ⟨rfl, hagain, rfl⟩, isViolation_duplicateId.mpr ⟨n, rfl, hlong⟩⟩
    · rintro ⟨_, ⟨hkey, rfl⟩ | ⟨hkey, hagain, rfl⟩, hviolation⟩
      · exact .inl hkey
      · obtain ⟨n, hn, hlong⟩ := isViolation_duplicateId.mp hviolation
        exact .inr ⟨n, hn, hlong, hagain⟩
  simp only [Fails, checkIds_error_iff, htrips]
  constructor
  · rintro ⟨cause, ⟨before, id, after, hids, hpass, hreports⟩, hviolation⟩
    exact ⟨before, id, after, hids, hpass, cause, hreports, hviolation⟩
  · rintro ⟨before, id, after, hids, hpass, cause, hreports, hviolation⟩
    exact ⟨cause, ⟨before, id, after, hids, hpass, hreports⟩, hviolation⟩

/-- Behind the size, the checks fail exactly when they come to an id that trips them. -/
theorem fails_checkMembers_iff {members : Members} {maxDepth : Int} :
    (Fails do
      checkDepth (.object members) maxDepth 0
      checkList members "screens"
      checkList members "flows"
      checkScreens 0 (screens members)
      checkIds [] (screenIds (screens members))) ↔
    ∃ before id, Reaches members maxDepth before id ∧ Trips before id := by
  simp only [fails_bind, not_fails_checkDepth, not_fails_checkList, not_fails_checkScreens,
    false_or, checkDepth_ok_iff, checkList_ok_iff, checkScreens_ok_iff, fails_checkIds_iff,
    List.nil_append, checkIds_ok_iff]
  constructor
  · rintro ⟨hdepth, hscreens, hflows, hshape, before, id, after, hids, ⟨hkeys, hapart, -⟩, htrips⟩
    exact ⟨before, id, ⟨hdepth, hscreens, hflows, hshape, ⟨after, hids⟩, hkeys, hapart⟩, htrips⟩
  · rintro ⟨before, id, hreaches, htrips⟩
    obtain ⟨after, hids⟩ := hreaches.ids
    exact ⟨hreaches.depth, hreaches.screens, hreaches.flows, hreaches.shape, before, id, after,
      hids, ⟨hreaches.keys, hreaches.apart, by simp⟩, htrips⟩

/-- A document is checked without a verdict exactly when its size is in order and the check comes to
an id that trips it. -/
theorem fails_check_iff {document : Value} {text : Option String} {maxSize maxDepth : Int} :
    Fails (check document text maxSize maxDepth) ↔
      (∀ t ∈ text, (t.utf8ByteSize : Int) ≤ maxSize) ∧ ∃ members before id,
        document = .object members ∧ Reaches members maxDepth before id ∧ Trips before id := by
  have hsize : ∀ (t : String) (next : Unit → Except EnvelopeError Unit),
      Fails (checkSize t maxSize "Spec document" >>= next) ↔
        (t.utf8ByteSize : Int) ≤ maxSize ∧ Fails (next ()) := by
    intro t next
    rw [fails_bind, checkSize_ok_iff]
    exact or_iff_right (not_fails_checkSize _ _ _)
  have hkind : Fails (.error .notAnObject) ↔ False := by
    simp [fails_error, EnvelopeError.isViolation]
  cases document with
  | object members =>
      cases text with
      | none => simp [check, fails_checkMembers_iff]
      | some t => simp [check, hsize, fails_checkMembers_iff]
  | _ =>
      cases text with
      | none => simp [check, hkind]
      | some t => simp [check, hsize, hkind]

theorem validate_isOk {document : Value} {text : Option String} :
    (validate document text).isOk = false ↔
      Fails (check document text defaultMaxSize defaultMaxDepth) := by
  unfold validate
  cases check document text defaultMaxSize defaultMaxDepth with
  | ok _ => simp [Fails]
  | error cause => cases h : cause.isViolation <;> simp [h, fails_error]

/-- In a sound document only an id that is no key trips the check: its integers can be reported. -/
theorem Reaches.trips_iff {members : Members} (sound : members.Sound Number.IsWritable)
    {maxDepth : Int} {before : List Value} {id : Value} (h : Reaches members maxDepth before id) :
    Trips before id ↔ id.isKey = false := by
  refine ⟨?_, .inl⟩
  rintro (hkey | ⟨n, rfl, hlong, -⟩)
  · exact hkey
  · obtain ⟨after, hids⟩ := h.ids
    have hmem : Value.int n ∈ (Envelope.screens members).map Value.idField := by
      rw [screenIds_eq] at hids
      exact List.mem_of_mem_filter (hids ▸ List.mem_append_right before List.mem_cons_self)
    obtain ⟨v, hv, hfield⟩ := List.mem_map.mp hmem
    have hid := (sound_of_mem_screens sound hv).idField
    rw [hfield] at hid
    cases hid with
    | number holds => exact absurd hlong (by rw [show Text.isWritable n = true from holds]; decide)

end Envelope

namespace Spec

/-- Loading ends without a spec or a refusal only where the check of the document fails. -/
theorem load_unrefused_iff {repair : Json.Repairer} {text : String} {maxSize maxDepth : Int} :
    (∃ cause, load repair text maxSize maxDepth = .error cause ∧ cause.isRefusal = false) ↔
      ∃ members, Json.extract repair text true = .ok members ∧
        Envelope.Fails (Envelope.check (.object members) (some text) maxSize maxDepth) := by
  unfold load ofDocument
  cases hobject : Json.extract repair text true with
  | error cause => simp [LoadError.isRefusal]
  | ok members =>
      cases hcheck : Envelope.check (.object members) (some text) maxSize maxDepth with
      | error cause => simp [hcheck, LoadError.isRefusal, Envelope.fails_error]
      | ok _ =>
          have sound := Json.extract_sound hobject
          have reported : (Spec.read (.object members)).Reported :=
            (Value.Sound.object sound.keys sound.below).reported_readSpec
          cases hread : Spec.read (.object members) with
          | ok given => simp [hcheck, hread, Envelope.Fails]
          | error faults =>
              rw [hread] at reported
              have hrefused : faults.all Fault.isReported = true := List.all_eq_true.mpr reported
              simp [hcheck, hread, hrefused, LoadError.isRefusal, Envelope.Fails]

/-- Loading refuses with a message whatever is no valid document, and the check of a document as a
value always gives a verdict, unless they come to the id of a screen that trips them: one that is a
list or an object, or, where a document does not come from a text, one that is there twice and has
too many digits for the report. -/
theorem unrefused_iff (repair : Json.Repairer) (text : String) (maxSize maxDepth : Int)
    (document : Value)
    (given : Option String) :
    ((∃ cause, load repair text maxSize maxDepth = .error cause ∧ cause.isRefusal = false) ↔
      (text.utf8ByteSize : Int) ≤ maxSize ∧ ∃ members before id,
        Json.extract repair text true = .ok members ∧
        Envelope.Reaches members maxDepth before id ∧ id.isKey = false) ∧
    ((Envelope.validate document given).isOk = false ↔
      (∀ t ∈ given, (t.utf8ByteSize : Int) ≤ defaultMaxSize) ∧ ∃ members before id,
        document = .object members ∧
        Envelope.Reaches members defaultMaxDepth before id ∧ Envelope.Trips before id) := by
  refine ⟨?_, Envelope.validate_isOk.trans Envelope.fails_check_iff⟩
  rw [load_unrefused_iff]
  constructor
  · rintro ⟨members, hextract, hfails⟩
    obtain ⟨hsize, _, before, id, ⟨⟩, hreaches, htrips⟩ := Envelope.fails_check_iff.mp hfails
    exact ⟨hsize text rfl, members, before, id, hextract, hreaches,
      (hreaches.trips_iff (Json.extract_sound hextract)).mp htrips⟩
  · rintro ⟨hsize, members, before, id, hextract, hreaches, hkey⟩
    refine ⟨members, hextract, Envelope.fails_check_iff.mpr ⟨?_, members, before, id, rfl, hreaches,
      .inl hkey⟩⟩
    rintro t ⟨⟩
    exact hsize

/-- A list and an object as the id of a screen, and an integer of 4301 digits that two screens
give. -/
theorem unrefused_ids :
    let text := "\x7b\"screens\": [\x7b\"id\": []\x7d]\x7d"
    let document (ids : List Value) :=
      Value.object [("screens", .list (ids.map fun id => .object [("id", id)]))]
    let overlong := Value.int (Nat.pow 10 4300 : Nat)
    (∃ cause, load Json.Lenient.repair text defaultMaxSize defaultMaxDepth = .error cause ∧
      cause.isRefusal = false) ∧
      (Envelope.validate (document [.object []]) none).isOk = false ∧
      (Envelope.validate (document [overlong, overlong]) none).isOk = false := by
  intro text document overlong
  refine ⟨?_, by decide +kernel, by decide +kernel⟩
  have hrun : (match load Json.Lenient.repair text defaultMaxSize defaultMaxDepth with
      | .ok _ => true
      | .error cause => cause.isRefusal) = false := by
    decide +kernel
  split at hrun
  · cases hrun
  · next cause hload => exact ⟨cause, hload, hrun⟩

end Spec

end Wireframe
