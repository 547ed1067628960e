import Wireframe.Proofs.Flow.Coordinates
import Wireframe.Proofs.Spec.Depth
import Wireframe.Proofs.Spec.Refusal

/-! # The shape of a document

`Envelope.Accepts` says which documents are well shaped without saying how that is checked: by the
depth at which values stand, the fields that hold lists, and the values of the ids. The check passes
on exactly these, and reports a violation on every other one, unless what there is to report is the
second use of an id that has too many digits.
-/

namespace Wireframe

/-! ## Values of numbers -/

/-- Two numbers have one value: a rational, or one of the infinities. -/
inductive Number.SameValue : Number → Number → Prop where
  | rational {x y : Number} {q : Rat} (first : x.toRat? = some q) (second : y.toRat? = some q) :
      SameValue x y
  | infinite (negative : Bool) :
      SameValue (.double (.infinite negative)) (.double (.infinite negative))

namespace Number

variable {x y : Number}

theorem exists_infinite_of_same (hx : x.toRat? = none) (h : x.same y = true) :
    ∃ negative, x = .double (.infinite negative) ∧ y = .double (.infinite negative) := by
  cases x with
  | int m => cases hx
  | double x =>
      cases x with
      | finite s m e stored => cases hx
      | nan => cases y <;> cases h
      | infinite s =>
          cases y with
          | int n => cases s <;> cases h
          | double y =>
              cases y with
              | finite t n f stored => cases s <;> cases h
              | nan => cases s <;> cases h
              | infinite t =>
                  cases s <;> cases t <;> first | exact ⟨_, rfl, rfl⟩ | cases h

theorem same_iff : x.same y = true ↔ x.SameValue y := by
  constructor
  · intro h
    cases hx : x.toRat? with
    | none =>
        obtain ⟨negative, rfl, rfl⟩ := exists_infinite_of_same hx h
        exact .infinite negative
    | some p =>
        cases hy : y.toRat? with
        | none =>
            obtain ⟨negative, rfl, rfl⟩ := exists_infinite_of_same hy (same_comm x y ▸ h)
            exact .infinite negative
        | some q =>
            rw [same_of_toRat? hx hy, decide_eq_true_iff] at h
            exact .rational hx (h ▸ hy)
  · rintro (⟨hx, hy⟩ | negative)
    · rw [same_of_toRat? hx hy, decide_eq_true_iff]
    · cases negative <;> rfl

end Number

namespace Value

/-- Two ids are equal: one text, or numbers of one value; `false` and `true` are 0 and 1. What is
not a number equals nothing. -/
inductive Equal : Value → Value → Prop where
  | string (s : String) : Equal (.string s) (.string s)
  | number {v w : Value} {m n : Number} (first : v.numeric? = some m) (second : w.numeric? = some n)
      (same : m.SameValue n) : Equal v w

def notANumber : Value := .number (.double .nan)

/-- Two ids count as one: they are equal, or both the one not-a-number that texts are decoded to. -/
def SameId (v w : Value) : Prop := v.Equal w ∨ v = notANumber ∧ w = notANumber

theorem eq_notANumber {v : Value} {m : Number} (hv : v.numeric? = some m)
    (hnan : m.isNaN = true) : v = notANumber := by
  cases v with
  | number n =>
      cases hv
      cases m with
      | int n => cases hnan
      | double x => cases x <;> first | rfl | cases hnan
  | bool b =>
      cases hv
      cases hnan
  | _ => cases hv

theorem sameKey_string_iff {s : String} {w : Value} :
    (string s).sameKey w = true ↔ w = .string s := by
  cases w with
  | string t =>
      rw [sameKey, beq_iff_eq, string.injEq]
      exact eq_comm
  | _ => simp [sameKey, numeric?]

theorem sameId_string_iff {s : String} {w : Value} : (string s).SameId w ↔ w = .string s := by
  constructor
  · rintro ((_ | ⟨⟨⟩, -, -⟩) | ⟨⟨⟩, -⟩)
    rfl
  · rintro rfl
    exact .inl (.string s)

/-- What stands for a number is looked up by its value, and so not found among texts. -/
theorem sameKey_iff_of_numeric {v w : Value} {m : Number} (hv : v.numeric? = some m) :
    v.sameKey w = true ↔ v.SameId w := by
  have hkey : v.sameKey w = true ↔
      ∃ n, w.numeric? = some n ∧ (m.same n = true ∨ m.isNaN = true ∧ n.isNaN = true) := by
    cases v <;> cases hv <;> cases w <;> simp [sameKey, numeric?]
  rw [hkey]
  constructor
  · rintro ⟨n, hw, hsame | ⟨hm, hn⟩⟩
    · exact .inl (.number hv hw (Number.same_iff.mp hsame))
    · exact .inr ⟨eq_notANumber hv hm, eq_notANumber hw hn⟩
  · rintro ((_ | ⟨hv', hw, hsame⟩) | ⟨rfl, rfl⟩)
    · cases hv
    · rw [hv] at hv'
      cases hv'
      exact ⟨_, hw, .inl (Number.same_iff.mpr hsame)⟩
    · cases hv
      exact ⟨_, rfl, .inr ⟨rfl, rfl⟩⟩

/-- Ids are looked up by their values. -/
theorem sameKey_iff {v : Value} (hkey : v.isKey = true) (hnull : v.isNull = false) (w : Value) :
    v.sameKey w = true ↔ v.SameId w := by
  cases v with
  | null => cases hnull
  | bool b => exact sameKey_iff_of_numeric rfl
  | number n => exact sameKey_iff_of_numeric rfl
  | string s => rw [sameKey_string_iff, sameId_string_iff]
  | list _ | object _ => cases hkey

theorem SameId.notNull {v w : Value} (h : v.SameId w) : v.isNull = false ∧ w.isNull = false := by
  rcases h with (_ | ⟨hv, hw, -⟩) | ⟨rfl, rfl⟩
  · exact ⟨rfl, rfl⟩
  · refine ⟨?_, ?_⟩
    · cases v <;> first | rfl | cases hv
    · cases w <;> first | rfl | cases hw
  · exact ⟨rfl, rfl⟩

/-! ## Depth -/

inductive Contains : Value → Nat → Value → Prop where
  | root (v : Value) : Contains v 0 v
  | item {items : List Value} {item v : Value} {depth : Nat} (mem : item ∈ items)
      (below : Contains item depth v) : Contains (.list items) (depth + 1) v
  | member {members : List (String × Value)} {entry : String × Value} {v : Value} {depth : Nat}
      (mem : entry ∈ members) (below : Contains entry.2 depth v) :
      Contains (.object members) (depth + 1) v

end Value

namespace Envelope

variable {limit depth : Int}

theorem depth_le_of_excess? {v : Value} (h : excess? limit depth v = none) : depth ≤ limit := by
  cases v with
  | list items => exact (excess?_list_eq_none_iff.mp h).1
  | object members => exact (excess?_object_eq_none_iff.mp h).1
  | _ => simpa [excess?] using h

theorem le_of_contains {v w : Value} {n : Nat} (hcontains : v.Contains n w)
    (h : excess? limit depth v = none) : depth + n ≤ limit := by
  induction hcontains generalizing depth with
  | root v => simpa using depth_le_of_excess? h
  | item hmem below ih =>
      have hbelow := ih ((excess?_list_eq_none_iff.mp h).2 _ hmem)
      omega
  | member hmem below ih =>
      have hbelow := ih ((excess?_object_eq_none_iff.mp h).2 _ hmem)
      omega

theorem excess?_of_contains (v : Value) (depth : Int)
    (h : ∀ n w, v.Contains n w → depth + n ≤ limit) : excess? limit depth v = none := by
  have hroot : depth ≤ limit := by simpa using h 0 v (.root v)
  match v with
  | .list items =>
      refine excess?_list_eq_none_iff.mpr ⟨hroot, fun item hitem => ?_⟩
      refine excess?_of_contains item (depth + 1) fun n w hw => ?_
      have hdeep := h (n + 1) w (.item hitem hw)
      omega
  | .object members =>
      refine excess?_object_eq_none_iff.mpr ⟨hroot, fun entry hentry => ?_⟩
      refine excess?_of_contains entry.2 (depth + 1) fun n w hw => ?_
      have hdeep := h (n + 1) w (.member hentry hw)
      omega
  | .null | .bool _ | .number _ | .string _ => simpa [excess?] using hroot
termination_by sizeOf v
decreasing_by
  · have := List.sizeOf_lt_of_mem hitem
    simp
    omega
  · have := List.sizeOf_lt_of_mem hentry
    obtain ⟨key, w⟩ := entry
    simp at this ⊢
    omega

theorem excess?_eq_none_iff {v : Value} :
    excess? limit depth v = none ↔ ∀ n w, v.Contains n w → depth + n ≤ limit :=
  ⟨fun h _ _ hcontains => le_of_contains hcontains h, excess?_of_contains v depth⟩

end Envelope

/-! ## The shape -/

def Members.MayList (members : Members) (key : String) : Prop :=
  ∀ v ∈ members.value? key, v = .null ∨ ∃ items, v = .list items

namespace Envelope

structure HasLists (members : Members) : Prop where
  screens : members.MayList "screens"
  flows : members.MayList "flows"
  items : ∀ v ∈ Envelope.screens members, ∃ fields : Members, v = .object fields ∧
    fields.MayList "elements"

structure WellShaped (members : Members) : Prop extends HasLists members where
  ids : (Envelope.screens members).Pairwise fun v w => ¬ v.idField.SameId w.idField

/-- The documents that should pass, with their text where it is given. -/
structure Accepts (document : Value) (text : Option String) (maxSize maxDepth : Int) : Prop where
  size : ∀ t ∈ text, (t.utf8ByteSize : Int) ≤ maxSize
  depth : ∀ n v, document.Contains n v → (n : Int) ≤ maxDepth
  shape : ∃ members, document = .object members ∧ WellShaped members

/-- An integer with too many digits is the id of two screens. -/
def RepeatsOverlong (members : Members) : Prop :=
  ∃ before v after n, screens members = before ++ v :: after ∧ v.idField = .int n ∧
    Text.isWritable n = false ∧ ∃ w ∈ before, w.idField.SameId v.idField

theorem mayList_iff {members : Members} {key : String} :
    (∃ items, (members.value key).asList = .ok items) ↔ members.MayList key := by
  unfold Members.MayList
  cases hfound : members.value? key with
  | none => simp [Members.value_of_absent hfound, Value.asList]
  | some v =>
      rw [Members.value_of_value? hfound]
      cases v <;> simp [Value.asList, Checked.fault]

section Ids

variable {members : Members} (hids : ∀ v ∈ screens members, v.idField.isKey = true)
include hids

theorem pairwise_screenIds_iff :
    (screenIds (screens members)).Pairwise (fun a b => a.sameKey b = false) ↔
      (screens members).Pairwise fun v w => ¬ v.idField.SameId w.idField := by
  rw [screenIds_eq, List.pairwise_filter, List.pairwise_map]
  refine List.Pairwise.iff_of_mem fun {v w} hv hw => ?_
  constructor
  · intro h hsame
    obtain ⟨hv', hw'⟩ := hsame.notNull
    have happart := h (by rw [hv']; rfl) (by rw [hw']; rfl)
    rw [(Value.sameKey_iff (hids v hv) hv' _).mpr hsame] at happart
    cases happart
  · intro h hv' _
    rw [← Bool.not_eq_true, Value.sameKey_iff (hids v hv) (by simpa using hv')]
    exact h

theorem isKey_of_mem_screenIds {id : Value} (h : id ∈ screenIds (screens members)) :
    id.isKey = true := by
  rw [screenIds_eq] at h
  obtain ⟨v, hv, rfl⟩ := List.mem_map.mp (List.mem_of_mem_filter h)
  exact hids v hv

/-- Behind the size and the depth, the checks pass exactly on the documented shape. -/
theorem wellShaped_iff :
    (checkList members "screens" = .ok () ∧ checkList members "flows" = .ok () ∧
      checkScreens 0 (screens members) = .ok () ∧
      checkIds [] (screenIds (screens members)) = .ok ()) ↔ WellShaped members := by
  rw [checkList_ok_iff, checkList_ok_iff, checkScreens_ok_iff, checkIds_ok_iff, mayList_iff,
    mayList_iff, pairwise_screenIds_iff hids]
  simp only [mayList_iff]
  constructor
  · rintro ⟨hscreens, hflows, hitems, -, happart, -⟩
    exact ⟨⟨hscreens, hflows, hitems⟩, happart⟩
  · rintro ⟨⟨hscreens, hflows, hitems⟩, happart⟩
    exact ⟨hscreens, hflows, hitems, fun id hid => isKey_of_mem_screenIds hids hid, happart,
      by simp⟩

/-- Where every id is a key, the check trips over the second use of an overlong one alone. -/
theorem repeatsOverlong_of_trips {maxDepth : Int} {before : List Value} {id : Value}
    (reaches : Reaches members maxDepth before id) (trips : Trips before id) :
    RepeatsOverlong members := by
  obtain ⟨after, hsplit⟩ := reaches.ids
  have hmem : ∀ other ∈ before ++ id :: after, other ∈ screenIds (screens members) :=
    fun other hother => hsplit ▸ hother
  have hkey : id.isKey = true := isKey_of_mem_screenIds hids (hmem id (by simp))
  obtain ⟨n, rfl, hlong, other, hother, hsame⟩ := trips.resolve_left (by simp [hkey])
  -- The ids before and behind are those of the screens before and behind.
  rw [screenIds_eq] at hsplit
  obtain ⟨front, rest, hscreens, hfront, hrest⟩ := List.filter_eq_append_iff.mp hsplit
  obtain ⟨skipped, back, rfl, -, -, -⟩ := List.filter_eq_cons_iff.mp hrest
  obtain ⟨vs, ws, hvs, rfl, hws⟩ := List.map_eq_append_iff.mp hscreens
  obtain ⟨us, vs', rfl, hus, hvs'⟩ := List.map_eq_append_iff.mp hws
  obtain ⟨v, later, rfl, hv, -⟩ := List.map_eq_cons_iff.mp hvs'
  refine ⟨vs ++ us, v, later, n, by simp [hvs], hv, hlong, ?_⟩
  have hgiven : other ∈ vs.map Value.idField := List.mem_of_mem_filter (hfront ▸ hother)
  obtain ⟨w, hw, rfl⟩ := List.mem_map.mp hgiven
  have hnull : w.idField.isNull = false := by
    have hkept := hmem w.idField (List.mem_append_left _ hother)
    rw [screenIds_eq, List.mem_filter] at hkept
    simpa using hkept.2
  refine ⟨w, List.mem_append_left us hw, ?_⟩
  rw [hv]
  refine (Value.sameKey_iff (hids w ?_) hnull _).mp hsame
  rw [hvs]
  exact List.mem_append_left _ hw

end Ids

/-- The check passes exactly on the documents of the documented shape, and reports every other one
as a violation unless it repeats an overlong id. -/
theorem check_ok_iff_accepts {document : Value} (text : Option String) (maxSize maxDepth : Int)
    (hids : ∀ members, document = .object members →
      ∀ v ∈ screens members, v.idField.isKey = true) :
    (check document text maxSize maxDepth = .ok () ↔ Accepts document text maxSize maxDepth) ∧
    (¬ Accepts document text maxSize maxDepth →
      (∃ cause, check document text maxSize maxDepth = .error cause ∧ cause.isViolation = true) ∨
        ∃ members, document = .object members ∧ RepeatsOverlong members) := by
  have hpass : check document text maxSize maxDepth = .ok () ↔
      Accepts document text maxSize maxDepth := by
    rw [check_passes_iff]
    constructor
    · rintro ⟨hsize, members, rfl, hdepth, hscreens, hflows, hitems, hkeys⟩
      refine ⟨hsize, fun n v hv => ?_, members, rfl, ?_⟩
      · simpa using excess?_eq_none_iff.mp hdepth n v hv
      · exact (wellShaped_iff (hids members rfl)).mp ⟨hscreens, hflows, hitems, hkeys⟩
    · rintro ⟨hsize, hdepth, members, rfl, hshape⟩
      obtain ⟨hscreens, hflows, hitems, hkeys⟩ := (wellShaped_iff (hids members rfl)).mpr hshape
      refine ⟨hsize, members, rfl, ?_, hscreens, hflows, hitems, hkeys⟩
      exact excess?_eq_none_iff.mpr fun n v hv => by simpa using hdepth n v hv
  refine ⟨hpass, fun hrefused => ?_⟩
  cases hcheck : check document text maxSize maxDepth with
  | ok _ => exact absurd (hpass.mp hcheck) hrefused
  | error cause =>
      cases hviolation : cause.isViolation with
      | true => exact .inl ⟨cause, rfl, hviolation⟩
      | false =>
          obtain ⟨-, members, before, id, rfl, hreaches, htrips⟩ :=
            fails_check_iff.mp ⟨cause, hcheck, hviolation⟩
          exact .inr ⟨members, rfl, repeatsOverlong_of_trips (hids members rfl) hreaches htrips⟩

/-- A number and its text are two ids, `true` and 1 are one. -/
theorem check_ok_iff_accepts_ids :
    let document (ids : List Value) :=
      Value.object [("screens", .list (ids.map fun id => .object [("id", id)])), ("flows", .null)]
    let apart := document [.int 1, .string "1", .null, .null]
    let shared := document [.bool true, .int 1]
    Accepts apart (some "\x7b\x7d") 2 3 ∧ ¬ Accepts shared none 0 3 ∧
      ∃ cause, check shared none 0 3 = .error cause ∧ cause.isViolation = true := by
  intro document apart shared
  have hids : ∀ ids : List Value, (ids.all Value.isKey) = true → ∀ members,
      document ids = .object members → ∀ v ∈ screens members, v.idField.isKey = true := by
    intro ids hkeys members heq v hv
    obtain rfl := Value.object.inj heq
    obtain ⟨id, hid, rfl⟩ := List.mem_map.mp hv
    exact List.all_eq_true.mp hkeys id hid
  obtain ⟨hpass, hreport⟩ := check_ok_iff_accepts none 0 3 (hids [.bool true, .int 1] rfl)
  have hrefused : ¬ Accepts shared none 0 3 := by
    intro haccepts
    have hrun : (check shared none 0 3).isOk = false := by decide +kernel
    rw [hpass.mpr haccepts] at hrun
    cases hrun
  obtain ⟨_, hrun⟩ : ∃ _, check apart (some "\x7b\x7d") 2 3 = .ok () :=
    Except.isOk_iff_exists.mp (by decide +kernel)
  refine ⟨(check_ok_iff_accepts _ 2 3 (hids [.int 1, .string "1", .null, .null] rfl)).1.mp hrun,
    hrefused, (hreport hrefused).resolve_right ?_⟩
  rintro ⟨members, heq, before, v, after, n, hsplit, hv, hlong, -⟩
  obtain rfl := Value.object.inj heq
  have hmem : v ∈ [Value.object [("id", .bool true)], .object [("id", .int 1)]] := by
    rw [show [Value.object [("id", .bool true)], .object [("id", .int 1)]] = _ from hsplit]
    exact List.mem_append_right _ List.mem_cons_self
  have hone : Text.isWritable 1 = true := by decide +kernel
  simp only [List.mem_cons, List.not_mem_nil, or_false] at hmem
  rcases hmem with rfl | rfl
  · cases hv
  · obtain rfl : (1 : Int) = n := by cases hv; rfl
    rw [hone] at hlong
    cases hlong

/-- Two screens whose ids are not a number: the ids differ from each other, as each does from
itself, and are refused as one. -/
theorem check_refuses_nan :
    let screen := Value.object [("id", .notANumber)]
    let members : Members := [("screens", .list [screen, screen])]
    HasLists members ∧ (∀ n v, (Value.object members).Contains n v → (n : Int) ≤ 3) ∧
      ((screens members).Pairwise fun v w => ¬ v.idField.Equal w.idField) ∧
      ∃ cause, check (.object members) none 0 3 = .error cause ∧ cause.isViolation = true := by
  intro screen members
  have hscreens : screens members = [screen, screen] := rfl
  have hitems : ∀ v ∈ screens members, v = screen := by
    intro v hv
    rw [hscreens] at hv
    simpa using hv
  have hlists : HasLists members := by
    refine ⟨?_, nofun, fun v hv => ⟨_, hitems v hv, nofun⟩⟩
    rintro _ ⟨⟩
    exact .inr ⟨_, rfl⟩
  have hdiffer : ¬ Value.notANumber.Equal Value.notANumber := by
    rintro (_ | ⟨hv, hw, hsame⟩)
    cases hv
    cases hw
    cases hsame with
    | rational hvalue _ => cases hvalue
  refine ⟨hlists, fun n v hv => ?_, ?_, ?_⟩
  · have hdepth : excess? 3 0 (Value.object members) = none := by decide +kernel
    simpa using excess?_eq_none_iff.mp hdepth n v hv
  · rw [hscreens]
    exact List.pairwise_pair.mpr hdiffer
  · exact ⟨_, rfl, rfl⟩

end Envelope

end Wireframe
