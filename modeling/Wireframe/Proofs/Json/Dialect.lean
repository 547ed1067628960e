import Wireframe.Json.Decode
import Wireframe.Proofs.Outcome

/-! # The two dialects agree

What the strict dialect reads the extended one reads alike: it only adds readings where the strict
dialect has none.
-/

namespace Wireframe.Json

variable {s : List Char}

theorem readMagnitude_of_not_digit {dialect : Dialect} {negative : Bool}
    (h : ∀ c ∈ s.head?, c.isDigit = false) :
    readMagnitude dialect negative s = .error .malformed := by
  have hspan : (spanDigits s).1 = [] := by
    unfold spanDigits
    cases s with
    | nil => rfl
    | cons c s => simp [h c rfl]
  unfold readMagnitude
  simp [hspan]

theorem admits_extended (n : Number) : Dialect.extended.admits n = true := by
  cases n <;> simp [Dialect.admits]

theorem readMagnitude_mono {negative : Bool} {r : Number × List Char}
    (h : readMagnitude .strict negative s = .ok r) :
    readMagnitude .extended negative s = .ok r := by
  unfold readMagnitude at h ⊢
  dsimp only at h ⊢
  split at h
  · cases h
  · next hdigits =>
    rw [if_neg hdigits]
    split at h
    · cases h
    · exact h
    · rw [if_pos (admits_extended _)]
      split at h
      · exact h
      · cases h

theorem readNumber_mono {r : Number × List Char} (h : readNumber .strict s = .ok r) :
    readNumber .extended s = .ok r := by
  have hdigit : ∀ {negative : Bool} {c : Char} {rest : List Char}, c.isDigit = false →
      readMagnitude .strict negative (c :: rest) = .error .malformed := by
    intro negative c rest hc
    apply readMagnitude_of_not_digit
    rintro _ ⟨⟩
    exact hc
  unfold readNumber at h ⊢
  split
  · next rest _ =>
    have h : readMagnitude .strict false ('N' :: 'a' :: 'N' :: rest) = .ok r := h
    rw [hdigit rfl] at h
    cases h
  · next rest _ =>
    have h : readMagnitude .strict false ('I' :: 'n' :: 'f' :: 'i' :: 'n' :: 'i' :: 't' :: 'y' ::
      rest) = .ok r := h
    rw [hdigit rfl] at h
    cases h
  · next rest _ =>
    have h : readMagnitude .strict true ('I' :: 'n' :: 'f' :: 'i' :: 'n' :: 'i' :: 't' :: 'y' ::
      rest) = .ok r := h
    rw [hdigit rfl] at h
    cases h
  · exact readMagnitude_mono h
  · next hminus _ _ _ =>
    split at h
    · contradiction
    · contradiction
    · contradiction
    · exact absurd rfl (hminus _)
    · exact readMagnitude_mono h

theorem map_mono {ε α β : Type} {x y : Except ε α} {f : α → β} {b : β}
    (hxy : ∀ a, x = .ok a → y = .ok a) (h : x.map f = .ok b) : y.map f = .ok b := by
  obtain ⟨a, ha, rfl⟩ := Except.map_ok_iff.mp h
  rw [hxy a ha]
  rfl

theorem read_mono (fuel : Nat) :
    (∀ s r, readValue .strict fuel s = .ok r → readValue .extended fuel s = .ok r) ∧
      (∀ s r, readItems .strict fuel s = .ok r → readItems .extended fuel s = .ok r) ∧
      (∀ s r, readMembers .strict fuel s = .ok r → readMembers .extended fuel s = .ok r) := by
  induction fuel with
  | zero => exact ⟨nofun, nofun, nofun⟩
  | succ fuel ih =>
      obtain ⟨hvalue, hitems, hmembers⟩ := ih
      refine ⟨?_, ?_, ?_⟩
      · intro s r h
        rw [readValue.eq_def] at h ⊢
        dsimp only at h ⊢
        split at h
        · split at h
          · exact h
          · exact map_mono (hmembers _) h
        · split at h
          · exact h
          · exact map_mono (hitems _) h
        · exact h
        · exact h
        · exact h
        · exact h
        · exact map_mono (fun n => readNumber_mono) h
      · intro s r h
        rw [readItems.eq_def] at h ⊢
        dsimp only at h ⊢
        split at h
        · cases h
        · next hitem =>
          rw [hvalue _ _ hitem]
          dsimp only
          split at h
          · exact map_mono (hitems _) h
          · exact h
          · cases h
      · intro s r h
        rw [readMembers.eq_def] at h ⊢
        dsimp only at h ⊢
        split at h
        · next heq =>
          obtain rfl := Nat.succ.inj heq
          split at h
          · cases h
          · split at h
            · split at h
              · cases h
              · next hread =>
                rw [hvalue _ _ hread]
                dsimp only
                split at h
                · exact map_mono (hmembers _) h
                · exact h
                · cases h
            · cases h
        · cases h

/-- A text that is strict JSON denotes the same value in the extended dialect. -/
theorem decode_mono {text : String} {v : Value} (h : decode .strict text = .ok v) :
    decode .extended text = .ok v := by
  unfold decode decodeChars at h ⊢
  split at h
  · cases h
  · next hread =>
    rw [(read_mono _).1 _ _ hread]
    exact h

end Wireframe.Json
