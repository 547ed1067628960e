import Wireframe.Value.Basic

/-! # Sound values

What every decoded value is: its objects have each key once, and its numbers pass a test. Tables
that `Members.put` builds keep both, and a table that has each key once is built again as it is.
-/

namespace Wireframe

/-- Each key once in every object, and `p` for every number. -/
inductive Value.Sound (p : Number → Prop) : Value → Prop where
  | null : Sound p .null
  | bool (b : Bool) : Sound p (.bool b)
  | number {n : Number} (holds : p n) : Sound p (.number n)
  | string (s : String) : Sound p (.string s)
  | list {items : List Value} (below : ∀ v ∈ items, Sound p v) : Sound p (.list items)
  | object {members : List (String × Value)} (keys : (members.map Prod.fst).Nodup)
      (below : ∀ entry ∈ members, Sound p entry.2) : Sound p (.object members)

namespace Value

variable {p q : Number → Prop} {v : Value}

theorem Sound.mono (h : ∀ n, p n → q n) (sound : v.Sound p) : v.Sound q := by
  induction sound with
  | null => exact .null
  | bool b => exact .bool b
  | number holds => exact .number (h _ holds)
  | string s => exact .string s
  | list _ ih => exact .list ih
  | object keys _ ih => exact .object keys ih

theorem Sound.and (hp : v.Sound p) (hq : v.Sound q) : v.Sound fun n => p n ∧ q n := by
  induction hp with
  | null => exact .null
  | bool b => exact .bool b
  | number holds => cases hq with | number holds' => exact .number ⟨holds, holds'⟩
  | string s => exact .string s
  | list _ ih => cases hq with | list below => exact .list fun v hv => ih v hv (below v hv)
  | object keys _ ih =>
      cases hq with
      | object _ below =>
          exact .object keys fun entry hentry => ih entry hentry (below entry hentry)

end Value

namespace Members

variable {p : Number → Prop} {members : Members} {key : String} {value : Value}

/-- A table of sound values with each key once. -/
structure Sound (p : Number → Prop) (members : Members) : Prop where
  keys : (members.map Prod.fst).Nodup
  below : ∀ entry ∈ members, entry.2.Sound p

theorem put_of_mem_keys (h : key ∈ members.map Prod.fst) :
    (members.put key value).map Prod.fst = members.map Prod.fst := by
  induction members with
  | nil => simp at h
  | cons entry rest ih =>
      obtain ⟨k, v⟩ := entry
      unfold put
      by_cases hk : k = key
      · rw [if_pos (beq_iff_eq.mpr hk)]
        rfl
      · rw [if_neg (by simpa using hk), List.map_cons, List.map_cons, ih]
        rw [List.map_cons, List.mem_cons] at h
        exact h.resolve_left (Ne.symm hk)

theorem put_of_not_mem_keys (h : key ∉ members.map Prod.fst) :
    members.put key value = members ++ [(key, value)] := by
  induction members with
  | nil => rfl
  | cons entry rest ih =>
      obtain ⟨k, v⟩ := entry
      rw [List.map_cons, List.mem_cons, not_or] at h
      unfold put
      rw [if_neg (by simpa using Ne.symm h.1), ih h.2]
      rfl

theorem nodup_keys_put (h : (members.map Prod.fst).Nodup) :
    ((members.put key value).map Prod.fst).Nodup := by
  by_cases hkey : key ∈ members.map Prod.fst
  · rwa [put_of_mem_keys hkey]
  · rw [put_of_not_mem_keys hkey, List.map_append, List.nodup_append]
    refine ⟨h, by simp, ?_⟩
    intro k hk k' hk' heq
    rw [List.map_singleton, List.mem_singleton] at hk'
    rw [heq, hk'] at hk
    exact hkey hk

theorem Sound.nil : Sound p [] := ⟨List.nodup_nil, by simp⟩

theorem Sound.put (sound : members.Sound p) (h : value.Sound p) :
    (members.put key value).Sound p := by
  refine ⟨nodup_keys_put sound.keys, ?_⟩
  intro entry hentry
  rcases mem_put hentry with hentry | rfl
  · exact sound.below entry hentry
  · exact h

theorem Sound.foldl_put {entries : List (String × Value)} (sound : members.Sound p)
    (h : ∀ entry ∈ entries, entry.2.Sound p) :
    Members.Sound p (entries.foldl (fun members entry => members.put entry.1 entry.2) members) := by
  induction entries generalizing members with
  | nil => exact sound
  | cons entry entries ih =>
      rw [List.forall_mem_cons] at h
      exact ih (sound.put h.1) h.2

theorem sound_ofEntries {entries : List (String × Value)}
    (h : ∀ entry ∈ entries, entry.2.Sound p) : (ofEntries entries).Sound p :=
  Sound.nil.foldl_put h

theorem foldl_put_of_nodup {entries : List (String × Value)}
    (h : ((members ++ entries).map Prod.fst).Nodup) :
    entries.foldl (fun members entry => members.put entry.1 entry.2) members =
      members ++ entries := by
  induction entries generalizing members with
  | nil => rw [List.append_nil, List.foldl_nil]
  | cons entry entries ih =>
      have hfresh : entry.1 ∉ members.map Prod.fst := by
        rw [List.map_append, List.map_cons, List.nodup_append] at h
        intro hmem
        exact h.2.2 entry.1 hmem entry.1 List.mem_cons_self rfl
      rw [List.foldl_cons, put_of_not_mem_keys hfresh, ih, List.append_assoc]
      · rfl
      · rwa [List.append_assoc]

theorem ofEntries_of_nodup {entries : List (String × Value)}
    (h : (entries.map Prod.fst).Nodup) : ofEntries entries = entries :=
  foldl_put_of_nodup h

end Members

end Wireframe
