import SubmissionRouting.Proofs.FirstFault

/-! # What a result can fail with

A result *fails only* with errors of some kind if every error that it can be is of that kind
(`FailsOnly`). Steps in a row fail only with what the single steps fail with, and so do the loops
that the library uses. A result for which no kind of error is left has a value
(`exists_ok_of_failsOnly`). -/

namespace SubmissionRouting

variable {ε α β : Type} {P Q : ε → Prop}

/-- If the result is an error, the error is of some kind. -/
def FailsOnly (P : ε → Prop) (x : Except ε α) : Prop := ∀ e, x = .error e → P e

theorem failsOnly_ok (a : α) : FailsOnly P (.ok a) := nofun

theorem failsOnly_error {e : ε} (h : P e) : FailsOnly P (.error e : Except ε α) := by
  intro e' he
  cases he
  exact h

theorem FailsOnly.mono {x : Except ε α} (h : FailsOnly P x) (hPQ : ∀ e, P e → Q e) :
    FailsOnly Q x := fun e he => hPQ e (h e he)

theorem FailsOnly.bind {x : Except ε α} {f : α → Except ε β} (hx : FailsOnly P x)
    (hf : ∀ a, x = .ok a → FailsOnly P (f a)) : FailsOnly P (x >>= f) := by
  cases x with
  | error e => exact failsOnly_error (hx e rfl)
  | ok a => exact hf a rfl

theorem FailsOnly.map {x : Except ε α} (hx : FailsOnly P x) (f : α → β) :
    FailsOnly P (x.map f) := by
  cases x with
  | error e => exact failsOnly_error (hx e rfl)
  | ok a => exact failsOnly_ok (f a)

theorem failsOnly_mapM {f : α → Except ε β} {l : List α} (h : ∀ a ∈ l, FailsOnly P (f a)) :
    FailsOnly P (l.mapM f) := by
  induction l with
  | nil => exact failsOnly_ok []
  | cons a l ih =>
    rw [List.mapM_cons]
    refine (h a List.mem_cons_self).bind fun b _ => ?_
    refine (ih fun c hc => h c (List.mem_cons_of_mem a hc)).bind fun bs _ => ?_
    exact failsOnly_ok (b :: bs)

theorem failsOnly_foldlM {f : β → α → Except ε β} (h : ∀ b a, FailsOnly P (f b a)) (l : List α)
    (b : β) : FailsOnly P (l.foldlM f b) := by
  intro e he
  obtain ⟨a, -, b', hstep⟩ := exists_of_foldlM_eq_error he
  exact h b' a e hstep

/-- **A loop that carries a state gets through** if and only if each of its steps does, where it is no
matter at which state. -/
theorem exists_ok_foldlM_iff {f : β → α → Except ε β} {Q : α → Prop} {l : List α}
    (h : ∀ a ∈ l, ∀ b, (∃ b', f b a = .ok b') ↔ Q a) (b : β) :
    (∃ b', l.foldlM f b = .ok b') ↔ ∀ a ∈ l, Q a := by
  induction l generalizing b with
  | nil => exact iff_of_true ⟨b, rfl⟩ nofun
  | cons a l ih =>
    obtain ⟨ha, hl⟩ := List.forall_mem_cons.mp h
    rw [List.foldlM_cons, List.forall_mem_cons, ← ha b]
    cases f b a with
    | error e => exact iff_of_false nofun nofun
    | ok b' => exact (ih hl b').trans (and_iff_right ⟨b', rfl⟩).symm

theorem failsOnly_orFault {P : Fault → Prop} {x : Except Misuse α}
    (h : FailsOnly (fun m => P (.misuse m)) x) : FailsOnly P (orFault x) := by
  cases x with
  | error m => exact failsOnly_error (h m rfl)
  | ok a => exact failsOnly_ok a

theorem exists_ok_of_failsOnly {x : Except ε α} (h : FailsOnly P x) (hP : ∀ e, ¬ P e) :
    ∃ a, x = .ok a := by
  cases x with
  | error e => exact absurd (h e rfl) (hP e)
  | ok a => exact ⟨a, rfl⟩

theorem exists_ok_map_iff {x : Except ε α} {f : α → β} :
    (∃ b, x.map f = .ok b) ↔ ∃ a, x = .ok a := by
  cases x <;> simp [Except.map]

theorem exists_ok_mapM_iff {f : α → Except ε β} {l : List α} :
    (∃ bs, l.mapM f = .ok bs) ↔ ∀ a ∈ l, ∃ b, f a = .ok b := by
  constructor
  · rintro ⟨bs, h⟩
    induction l generalizing bs with
    | nil => exact List.forall_mem_nil _
    | cons a l ih =>
      rw [List.mapM_cons] at h
      obtain ⟨b, hb, h⟩ := exists_of_bind_eq_ok h
      obtain ⟨rest, hrest, -⟩ := exists_of_bind_eq_ok h
      exact List.forall_mem_cons.mpr ⟨⟨b, hb⟩, ih rest hrest⟩
  · intro h
    refine exists_ok_of_failsOnly (failsOnly_mapM (P := fun _ => False) fun a ha e he => ?_)
      fun _ hfalse => hfalse
    obtain ⟨b, hb⟩ := h a ha
    rw [hb] at he
    cases he

theorem eq_error_of_failsOnly {e : ε} {x : Except ε α} (h : FailsOnly (· = e) x)
    (hx : ∀ a, x ≠ .ok a) : x = .error e := by
  cases x with
  | error e' => exact congrArg Except.error (h e' rfl)
  | ok a => exact absurd rfl (hx a)

end SubmissionRouting
