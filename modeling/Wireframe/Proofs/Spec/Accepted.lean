import Wireframe.Proofs.Spec.Reading
import Wireframe.Spec.Load

/-! # What loading accepts

The checks of the outer shape of a document, inverted, and with them `Spec.load`: a response loads
when it holds an object that passes the checks and can be read, to what was read, made normal.
-/

namespace Wireframe

namespace Envelope

theorem checkSize_ok_iff {data name : String} {limit : Int} :
    checkSize data limit name = .ok () ↔ (data.utf8ByteSize : Int) ≤ limit := by
  unfold checkSize
  split <;> simp_all

theorem checkDepth_ok_iff {v : Value} {limit depth : Int} :
    checkDepth v limit depth = .ok () ↔ excess? limit depth v = none := by
  unfold checkDepth
  cases excess? limit depth v <;> simp

theorem checkList_ok_iff {members : Members} {field : String} :
    checkList members field = .ok () ↔ ∃ items, (members.value field).asList = .ok items := by
  unfold checkList
  cases members.value field <;> simp [Value.asList, Checked.fault]

theorem checkScreens_ok_iff {index : Nat} {screens : List Value} :
    checkScreens index screens = .ok () ↔
      ∀ v ∈ screens, ∃ members : Members, v = .object members ∧
        ∃ items, (members.value "elements").asList = .ok items := by
  induction screens generalizing index with
  | nil => simp [checkScreens]
  | cons v rest ih =>
      cases v with
      | object members =>
          rw [List.forall_mem_cons, checkScreens]
          cases h : Members.value members "elements" <;> simp [ih, h, Value.asList, Checked.fault]
      | _ => simp [checkScreens]

/-- Ids pass when each is a key and none is the key of an earlier one. -/
theorem checkIds_ok_iff {seen ids : List Value} :
    checkIds seen ids = .ok () ↔
      (∀ id ∈ ids, id.isKey = true) ∧ ids.Pairwise (fun a b => a.sameKey b = false) ∧
        ∀ other ∈ seen, ∀ id ∈ ids, other.sameKey id = false := by
  induction ids generalizing seen with
  | nil => simp [checkIds]
  | cons id rest ih =>
      rw [checkIds]
      by_cases hkey : id.isKey = true
      · rw [if_neg (by simp [hkey])]
        by_cases hseen : (seen.any fun other => other.sameKey id) = true
        · rw [if_pos hseen]
          obtain ⟨other, hother, hsame⟩ := List.any_eq_true.mp hseen
          refine iff_of_false (by simp) ?_
          rintro ⟨-, -, happart⟩
          simp [happart other hother id List.mem_cons_self] at hsame
        · rw [if_neg hseen, ih]
          simp only [List.any_eq_true, not_exists, not_and, Bool.not_eq_true] at hseen
          simp only [List.forall_mem_cons, List.pairwise_cons, hkey, true_and]
          constructor
          · rintro ⟨hkeys, happart, hid, hrest⟩
            exact ⟨hkeys, ⟨hid, happart⟩,
              fun other hother => ⟨hseen other hother, hrest other hother⟩⟩
          · rintro ⟨hkeys, ⟨hid, happart⟩, hrest⟩
            exact ⟨hkeys, happart, hid, fun other hother => (hrest other hother).2⟩
      · rw [if_pos (by simp [hkey])]
        simp [hkey]

theorem check_passes_iff {document : Value} {text : Option String} {maxSize maxDepth : Int} :
    check document text maxSize maxDepth = .ok () ↔
      (∀ t ∈ text, (t.utf8ByteSize : Int) ≤ maxSize) ∧ ∃ members, document = .object members ∧
        excess? maxDepth 0 document = none ∧ checkList members "screens" = .ok () ∧
        checkList members "flows" = .ok () ∧ checkScreens 0 (screens members) = .ok () ∧
        checkIds [] (screenIds (screens members)) = .ok () := by
  cases document with
  | object members =>
      cases text <;>
        simp [check, Except.bind_ok_iff, Unique.exists_iff, checkSize_ok_iff, checkDepth_ok_iff]
  | _ => cases text <;> simp [check, Except.bind_ok_iff]

theorem check_ok_iff {document : Value} {text : String} {maxSize maxDepth : Int} :
    check document (some text) maxSize maxDepth = .ok () ↔
      (text.utf8ByteSize : Int) ≤ maxSize ∧ ∃ members, document = .object members ∧
        excess? maxDepth 0 document = none ∧ checkList members "screens" = .ok () ∧
        checkList members "flows" = .ok () ∧ checkScreens 0 (screens members) = .ok () ∧
        checkIds [] (screenIds (screens members)) = .ok () := by
  simp [check_passes_iff]

end Envelope

namespace Spec

variable {repair : Json.Repairer} {text : String} {maxSize maxDepth : Int} {spec : Spec Number}

theorem load_ok_iff :
    load repair text maxSize maxDepth = .ok spec ↔
      ∃ members given, Json.extract repair text true = .ok members ∧
        Envelope.check (.object members) (some text) maxSize maxDepth = .ok () ∧
        Spec.read (.object members) = .ok given ∧ given.ensureIds = spec := by
  unfold load ofDocument
  cases hobject : Json.extract repair text true with
  | error cause => simp
  | ok members =>
      cases hcheck : Envelope.check (.object members) (some text) maxSize maxDepth with
      | error cause => simp [hcheck]
      | ok _ => cases hread : Spec.read (.object members) <;> simp [hcheck, hread]

end Spec

end Wireframe
