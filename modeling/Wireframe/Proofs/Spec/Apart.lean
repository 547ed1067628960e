import Wireframe.Proofs.Flow.Coordinates
import Wireframe.Proofs.Spec.Edits
import Wireframe.Proofs.Spec.Inverse

/-! # Screens stand apart

An update that brings no positions leaves it to the merge where its screens stand. Each is placed by
itself: where its id stood, else where the screen at its index stood, else on a slot of the grid.
Places of one kind differ, but a new screen inherits the place at its index also when the screen
that stood there comes with the update at another index, and then both stand there.
`mergeUpdate_apart_iff` says when this does not happen.
-/

namespace Wireframe

instance (m n : Number) : Decidable (m.Equal n) :=
  inferInstanceAs (Decidable (m = n ∨ m.same n = true))

theorem Number.Equal.symm {m n : Number} (h : m.Equal n) : n.Equal m := by
  rcases h with rfl | h
  · exact .inl rfl
  · exact .inr (by rw [Number.same_comm, h])

namespace Point

instance (p q : Point Number) : Decidable (p.Equal q) :=
  decidable_of_iff (p.x.Equal q.x ∧ p.y.Equal q.y) ⟨fun h => ⟨h.1, h.2⟩, fun h => ⟨h.x, h.y⟩⟩

theorem Equal.refl (p : Point Number) : p.Equal p := ⟨.inl rfl, .inl rfl⟩

theorem Equal.symm {p q : Point Number} (h : p.Equal q) : q.Equal p := ⟨h.x.symm, h.y.symm⟩

end Point

/-! ## Slots of the grid -/

namespace Grid

theorem slot_injective {i j : Int} (h : slot i = slot j) : i = j := by
  simp only [slot, Prod.mk.injEq] at h
  have hi := Int.mul_fdiv_add_fmod i 3
  have hj := Int.mul_fdiv_add_fmod j 3
  omega

theorem slot_bounds {i : Nat} (h : i < 2 ^ 45) :
    (slot i).1.natAbs < 2 ^ 53 ∧ (slot i).2.natAbs < 2 ^ 53 := by
  simp only [slot]
  have hdiv := Int.mul_fdiv_add_fmod i 3
  have hnonneg := Int.fmod_nonneg_of_pos (i : Int) (b := 3) (by decide)
  have hlt := Int.fmod_lt_of_pos (i : Int) (b := 3) (by decide)
  constructor <;> omega

theorem value_of_equal {m n : Int} (hm : m.natAbs < 2 ^ 53) (hn : n.natAbs < 2 ^ 53)
    (h : (Number.double (Double.ofInt m)).Equal (.double (Double.ofInt n))) : m = n := by
  have hvalue (k : Int) (hk : k.natAbs < 2 ^ 53) :
      (Number.double (Double.ofInt k)).toRat? = some (k : Rat) := Double.ofInt_toRat? hk
  rcases h with h | h
  · have hsame := congrArg Number.toRat? h
    rw [hvalue m hm, hvalue n hn, Option.some_inj] at hsame
    exact_mod_cast hsame
  · rw [Number.same_of_toRat? (hvalue m hm) (hvalue n hn)] at h
    exact_mod_cast of_decide_eq_true h

theorem place_apart {i j : Nat} (hi : i < 2 ^ 45) (hj : j < 2 ^ 45) (hij : i ≠ j) :
    ¬ (place Number i).Equal (place Number j) := by
  intro h
  obtain ⟨hix, hiy⟩ := slot_bounds hi
  obtain ⟨hjx, hjy⟩ := slot_bounds hj
  have hx : (slot i).1 = (slot j).1 := value_of_equal hix hjx h.x
  have hy : (slot i).2 = (slot j).2 := value_of_equal hiy hjy h.y
  have := slot_injective (Prod.ext hx hy)
  omega

end Grid

namespace Spec

def Apart (spec : Spec Number) : Prop :=
  spec.screens.Pairwise fun (s t : Screen Number) =>
    ∀ p ∈ s.position, ∀ q ∈ t.position, ¬ p.Equal q

instance (spec : Spec Number) : Decidable spec.Apart :=
  inferInstanceAs (Decidable (spec.screens.Pairwise _))

theorem apart_iff {spec : Spec Number} :
    spec.Apart ↔ ∀ (i j : Nat) (s t : Screen Number) (p q : Point Number), i ≠ j →
      spec.screens[i]? = some s → spec.screens[j]? = some t →
      s.position = some p → t.position = some q → ¬ p.Equal q := by
  rw [Apart, List.pairwise_iff_getElem]
  constructor
  · intro h i j s t p q hij hs ht hp hq hpq
    obtain ⟨hi, rfl⟩ := List.getElem?_eq_some_iff.mp hs
    obtain ⟨hj, rfl⟩ := List.getElem?_eq_some_iff.mp ht
    rcases Nat.lt_or_gt_of_ne hij with hlt | hlt
    · exact h i j hi hj hlt p hp q hq hpq
    · exact h j i hj hi hlt q hq p hp hpq.symm
  · intro h i j hi hj hlt p hp q hq
    exact h i j _ _ p q hlt.ne (List.getElem?_eq_getElem hi) (List.getElem?_eq_getElem hj) hp hq

section Landing

variable {α : Type} {current update : Spec α} {s c : Screen α} {id : String} {index : Nat}
  {place : Point α}

def IsNew (current : Spec α) (s : Screen α) : Prop := ∀ c ∈ current.screens, c.id ≠ s.id

theorem currentScreen?_of_isNew (hnew : current.IsNew s) (index : Nat) :
    current.currentScreen? index s = current.screens[index]? := by
  have hnone : (nonempty? s.id).bind current.screen? = none := by
    rw [Option.bind_eq_none_iff]
    intro id hid
    rw [screen?, screenWith?, List.find?_eq_none]
    intro c hc heq
    exact hnew c hc ((beq_iff_eq.mp heq).trans (nonempty?_eq_some.mp hid).1.symm)
  rw [currentScreen?, hnone]

theorem position_keepPosition_of_isNew (hnew : current.IsNew s) (hnone : s.position = none) :
    (current.keepPosition index s).position = current.screens[index]?.bind Screen.position := by
  rw [keepPosition, hnone, ← currentScreen?_of_isNew hnew]

variable [Scalar α]

/-- Where the merge puts the screen at an index of an update. -/
def landing (current : Spec α) (index : Nat) (s : Screen α) : Point α :=
  (current.keepPosition index s).position.getD (Grid.place α index)

theorem position_mergeUpdate (current : Spec α) (hs : update.screens[index]? = some s) :
    ∃ t, (mergeUpdate (some current) update).screens[index]? = some t ∧
      t.position = some (current.landing index s) :=
  ⟨_, by rw [getElem?_mergeUpdate, hs, Option.map_some], rfl⟩

theorem landing_of_id (distinct : (current.screens.map Screen.id).Nodup) (hid : s.id = some id)
    (hne : id ≠ "") (hnone : s.position = none) (hc : c ∈ current.screens) (hcs : c.id = s.id)
    (hplace : c.position = some place) : current.landing index s = place := by
  have stands := (hasOnce_of_nodup distinct id).standsAt hc (hcs.trans hid) hplace
  rw [landing, stands.position_keepPosition hne hid hnone, Option.getD_some]

theorem landing_of_isNew (hnew : current.IsNew s) (hnone : s.position = none)
    (hc : current.screens[index]? = some c) (hplace : c.position = some place) :
    current.landing index s = place := by
  rw [landing, position_keepPosition_of_isNew hnew hnone, hc, Option.bind_some, hplace,
    Option.getD_some]

theorem landing_of_behind (hnew : current.IsNew s) (hnone : s.position = none)
    (hbehind : current.screens[index]? = none) :
    current.landing index s = Grid.place α index := by
  rw [landing, position_keepPosition_of_isNew hnew hnone, hbehind]
  rfl

end Landing

/-- The screen at an index of an update comes for the one at `k` in the document: it has its id, or
it is new and has its index. -/
def ComesFor (current : Spec Number) (index : Nat) (s : Screen Number) (k : Nat)
    (c : Screen Number) : Prop :=
  c.id = s.id ∨ current.IsNew s ∧ k = index

/-- A new screen at an index has a place to itself. -/
structure HasRoom (current update : Spec Number) (index : Nat) : Prop where
  /-- The screen whose place it inherits does not come with the update. -/
  gone : ∀ c, current.screens[index]? = some c → ∀ t ∈ update.screens, t.id ≠ c.id
  /-- Its slot, if it gets one, is not the place of a screen for which another one comes. -/
  free : current.screens[index]? = none → ∀ k c p, current.screens[k]? = some c →
    c.position = some p → (∃ j t, update.screens[j]? = some t ∧ current.ComesFor j t k c) →
      ¬ p.Equal (Grid.place Number index)
  /-- Nor is it the slot of another new screen. -/
  slot : current.screens[index]? = none → ∀ j t, j ≠ index → update.screens[j]? = some t →
    current.IsNew t → current.screens[j]? = none →
      ¬ (Grid.place Number j).Equal (Grid.place Number index)

/-- Where the screen at an index of an update comes to stand. -/
inductive LandsOn (current : Spec Number) (index : Nat) (s : Screen Number) : Point Number → Prop
  | screen {k : Nat} {c : Screen Number} {place : Point Number}
      (found : current.screens[k]? = some c) (placed : c.position = some place)
      (comes : current.ComesFor index s k c) : current.LandsOn index s place
  | slot (new : current.IsNew s) (behind : current.screens[index]? = none) :
      current.LandsOn index s (Grid.place Number index)

variable {current update : Spec Number} {i j k : Nat} {s t c : Screen Number} {p q : Point Number}

theorem landsOn (placed : ∀ c ∈ current.screens, c.position.isSome = true)
    (distinct : (current.screens.map Screen.id).Nodup) (named : ∃ id ∈ s.id, id ≠ "")
    (unplaced : s.position = none) (i : Nat) : current.LandsOn i s (current.landing i s) := by
  obtain ⟨id, hid, hne⟩ := named
  by_cases hnew : current.IsNew s
  · cases hfound : current.screens[i]? with
    | none =>
        rw [landing_of_behind hnew unplaced hfound]
        exact .slot hnew hfound
    | some c =>
        obtain ⟨p, hp⟩ := Option.isSome_iff_exists.mp (placed c (List.mem_of_getElem? hfound))
        rw [landing_of_isNew hnew unplaced hfound hp]
        exact .screen hfound hp (.inr ⟨hnew, rfl⟩)
  · obtain ⟨c, hc, hcs⟩ : ∃ c ∈ current.screens, c.id = s.id := by
      by_contra hnone
      exact hnew fun c hc hcs => hnone ⟨c, hc, hcs⟩
    obtain ⟨k, hk⟩ := List.mem_iff_getElem?.mp hc
    obtain ⟨p, hp⟩ := Option.isSome_iff_exists.mp (placed c hc)
    rw [landing_of_id distinct hid hne unplaced hc hcs hp]
    exact .screen hk hp (.inl hcs)

theorem eq_of_id_eq (distinct : (update.screens.map Screen.id).Nodup)
    (hs : update.screens[i]? = some s) (ht : update.screens[j]? = some t) (h : s.id = t.id) :
    i = j := by
  have hi : (update.screens.map Screen.id)[i]? = some s.id := by rw [List.getElem?_map, hs]; rfl
  have hj : (update.screens.map Screen.id)[j]? = some s.id := by rw [List.getElem?_map, ht, h]; rfl
  exact (List.getElem?_inj (List.getElem?_eq_some_iff.mp hi).1 distinct).mp (hi.trans hj.symm)

/-- With room for the new screens, no place of the document is used for two screens. -/
theorem eq_of_comesFor (distinct : (update.screens.map Screen.id).Nodup)
    (room : ∀ i s, update.screens[i]? = some s → current.IsNew s → current.HasRoom update i)
    (hs : update.screens[i]? = some s) (ht : update.screens[j]? = some t)
    (hc : current.screens[k]? = some c) (hsc : current.ComesFor i s k c)
    (htc : current.ComesFor j t k c) : i = j := by
  rcases hsc with hsc | ⟨hnew, rfl⟩
  · rcases htc with htc | ⟨hnew, rfl⟩
    · exact eq_of_id_eq distinct hs ht (hsc.symm.trans htc)
    · exact absurd hsc.symm ((room _ t ht hnew).gone c hc s (List.mem_of_getElem? hs))
  · rcases htc with htc | ⟨-, hkj⟩
    · exact absurd htc.symm ((room _ s hs hnew).gone c hc t (List.mem_of_getElem? ht))
    · exact hkj

theorem LandsOn.apart (apart : current.Apart) (distinct : (update.screens.map Screen.id).Nodup)
    (room : ∀ i s, update.screens[i]? = some s → current.IsNew s → current.HasRoom update i)
    (hij : i ≠ j) (hs : update.screens[i]? = some s) (ht : update.screens[j]? = some t)
    (hp : current.LandsOn i s p) (hq : current.LandsOn j t q) : ¬ p.Equal q := by
  cases hp with
  | screen hc hp hsc =>
      cases hq with
      | screen hd hq htd =>
          -- Places of the document differ, so only one place used twice could be shared.
          refine apart_iff.mp apart _ _ _ _ _ _ ?_ hc hd hp hq
          rintro rfl
          cases hc.symm.trans hd
          exact hij (eq_of_comesFor distinct room hs ht hc hsc htd)
      | slot hnew hbehind =>
          exact (room j t ht hnew).free hbehind _ _ _ hc hp ⟨i, s, hs, hsc⟩
  | slot hnew hbehind =>
      cases hq with
      | screen hd hq htd =>
          intro hpq
          exact (room i s hs hnew).free hbehind _ _ _ hd hq ⟨j, t, ht, htd⟩ hpq.symm
      | slot hnew' hbehind' =>
          exact (room j t ht hnew').slot hbehind' i s hij hs hnew hbehind

theorem mergeUpdate_apart_iff_landing :
    (mergeUpdate (some current) update).Apart ↔ ∀ i j s t, i ≠ j →
      update.screens[i]? = some s → update.screens[j]? = some t →
        ¬ (current.landing i s).Equal (current.landing j t) := by
  rw [apart_iff]
  constructor
  · intro h i j s t hij hs ht
    obtain ⟨s', hs', hp⟩ := position_mergeUpdate current hs
    obtain ⟨t', ht', hq⟩ := position_mergeUpdate current ht
    exact h i j s' t' _ _ hij hs' ht' hp hq
  · intro h i j s' t' p q hij hs' ht' hp hq
    rw [getElem?_mergeUpdate, Option.map_eq_some_iff] at hs' ht'
    obtain ⟨s, hs, rfl⟩ := hs'
    obtain ⟨t, ht, rfl⟩ := ht'
    cases hp
    cases hq
    exact h i j s t hij hs ht

theorem ne_of_isNew (hs : update.screens[i]? = some s) (hnew : current.IsNew s)
    (hc : c ∈ current.screens) (ht : update.screens[j]? = some t) (hid : t.id = c.id) : j ≠ i := by
  rintro rfl
  cases ht.symm.trans hs
  exact hnew c hc hid.symm

/-- Screens that land apart leave room for the new ones. -/
theorem hasRoom_of_landing (placed : ∀ c ∈ current.screens, c.position.isSome = true)
    (distinct : (current.screens.map Screen.id).Nodup)
    (named : ∀ s ∈ update.screens, ∃ id ∈ s.id, id ≠ "")
    (unplaced : ∀ s ∈ update.screens, s.position = none)
    (hland : ∀ i j s t, i ≠ j → update.screens[i]? = some s → update.screens[j]? = some t →
      ¬ (current.landing i s).Equal (current.landing j t))
    (hs : update.screens[i]? = some s) (hnew : current.IsNew s) : current.HasRoom update i := by
  have hnone := unplaced s (List.mem_of_getElem? hs)
  have hkept {k : Nat} {c t : Screen Number} {p : Point Number} (hc : current.screens[k]? = some c)
      (hp : c.position = some p) (ht : t ∈ update.screens) (hid : t.id = c.id) :
      ¬ p.Equal (current.landing i s) := by
    obtain ⟨j, hj⟩ := List.mem_iff_getElem?.mp ht
    obtain ⟨id, htid, hne⟩ := named t ht
    have hcmem := List.mem_of_getElem? hc
    have hapart := hland j i t s (ne_of_isNew hs hnew hcmem hj hid) hj hs
    rwa [landing_of_id distinct htid hne (unplaced t ht) hcmem hid.symm hp] at hapart
  refine ⟨fun c hc t ht hid => ?_, fun hbehind k c p hc hp hcomes => ?_,
    fun hbehind j t hji ht htnew htbehind => ?_⟩
  · obtain ⟨p, hp⟩ := Option.isSome_iff_exists.mp (placed c (List.mem_of_getElem? hc))
    have hapart := hkept hc hp ht hid
    rw [landing_of_isNew hnew hnone hc hp] at hapart
    exact hapart (Point.Equal.refl p)
  · rw [← landing_of_behind hnew hnone hbehind]
    obtain ⟨j, t, ht, hid | ⟨htnew, rfl⟩⟩ := hcomes
    · exact hkept hc hp (List.mem_of_getElem? ht) hid.symm
    · have hki : k ≠ i := by
        rintro rfl
        cases hc.symm.trans hbehind
      have hapart := hland k i t s hki ht hs
      rwa [landing_of_isNew htnew (unplaced t (List.mem_of_getElem? ht)) hc hp] at hapart
  · have hapart := hland j i t s hji ht hs
    rwa [landing_of_behind htnew (unplaced t (List.mem_of_getElem? ht)) htbehind,
      landing_of_behind hnew hnone hbehind] at hapart

/-- Screens that come without positions stand apart once they are merged exactly when each new one
has a place to itself; the slots of two indices differ. -/
theorem mergeUpdate_apart_iff {current update : Spec Number}
    (placed : ∀ c ∈ current.screens, c.position.isSome = true) (apart : current.Apart)
    (distinct : (current.screens.map Screen.id).Nodup)
    (updateDistinct : (update.screens.map Screen.id).Nodup)
    (named : ∀ s ∈ update.screens, ∃ id ∈ s.id, id ≠ "")
    (unplaced : ∀ s ∈ update.screens, s.position = none) :
    ((mergeUpdate (some current) update).Apart ↔
      ∀ i s, update.screens[i]? = some s → current.IsNew s → current.HasRoom update i) ∧
    ∀ i j : Nat, i < 2 ^ 45 → j < 2 ^ 45 → i ≠ j →
      ¬ (Grid.place Number i).Equal (Grid.place Number j) := by
  refine ⟨?_, fun i j => Grid.place_apart⟩
  rw [mergeUpdate_apart_iff_landing]
  constructor
  · intro hland i s hs hnew
    exact hasRoom_of_landing placed distinct named unplaced hland hs hnew
  · intro room i j s t hij hs ht
    have hsmem := List.mem_of_getElem? hs
    have htmem := List.mem_of_getElem? ht
    exact LandsOn.apart apart updateDistinct room hij hs ht
      (landsOn placed distinct (named s hsmem) (unplaced s hsmem) i)
      (landsOn placed distinct (named t htmem) (unplaced t htmem) j)

/-- Of three screens one is new where a screen is gone, and one is new behind the document. -/
theorem mergeUpdate_apart_iff_replaced :
    let screen (id : String) (position : Option (Point Number)) : Screen Number :=
      ⟨some id, "", position, []⟩
    let current : Spec Number := ⟨"", [screen "a" (some ⟨1, 2⟩), screen "b" (some ⟨3, 4⟩)], []⟩
    let update : Spec Number := ⟨"", [screen "c" none, screen "b" none, screen "d" none], []⟩
    (∀ c ∈ current.screens, c.position.isSome = true) ∧ current.Apart ∧
      (current.screens.map Screen.id).Nodup ∧ (update.screens.map Screen.id).Nodup ∧
      (∀ s ∈ update.screens, ∃ id ∈ s.id, id ≠ "") ∧ (∀ s ∈ update.screens, s.position = none) ∧
      (mergeUpdate (some current) update).Apart ∧
      ∀ i s, update.screens[i]? = some s → current.IsNew s → current.HasRoom update i := by
  intro screen current update
  have placed : ∀ c ∈ current.screens, c.position.isSome = true := by decide
  have apart : current.Apart := by decide +kernel
  have distinct : (current.screens.map Screen.id).Nodup := by decide
  have updateDistinct : (update.screens.map Screen.id).Nodup := by decide
  have named : ∀ s ∈ update.screens, ∃ id ∈ s.id, id ≠ "" := by decide
  have unplaced : ∀ s ∈ update.screens, s.position = none := by decide
  have merged : (mergeUpdate (some current) update).Apart := by decide +kernel
  have room := mergeUpdate_apart_iff placed apart distinct updateDistinct named unplaced
  exact ⟨placed, apart, distinct, updateDistinct, named, unplaced, merged, room.1.mp merged⟩

/-- A screen that moves up keeps its place, and a new screen at its index inherits it. -/
theorem mergeUpdate_stacks :
    let screen (id : String) (position : Option (Point Number)) : Screen Number :=
      ⟨some id, "", position, []⟩
    let current : Spec Number := ⟨"", [screen "a" (some ⟨1, 2⟩), screen "b" (some ⟨3, 4⟩)], []⟩
    let update : Spec Number := ⟨"", [screen "b" none, screen "c" none], []⟩
    (∀ c ∈ current.screens, c.position.isSome = true) ∧ current.Apart ∧
      (current.screens.map Screen.id).Nodup ∧ (update.screens.map Screen.id).Nodup ∧
      (∀ s ∈ update.screens, ∃ id ∈ s.id, id ≠ "") ∧ (∀ s ∈ update.screens, s.position = none) ∧
      ¬ (mergeUpdate (some current) update).Apart ∧
      (mergeUpdate (some current) update).screens.map (fun s => (s.id, s.position)) =
        [(some "b", some ⟨3, 4⟩), (some "c", some ⟨3, 4⟩)] := by
  decide +kernel

end Spec

end Wireframe
