import Mathlib.Order.Defs.Unbundled

/-!
# Programs that change a state and may fail on the way

A program `Eff σ ε α` takes a state and gives a state and a value or an error.  There is no
rollback: what a program wrote before it failed stays.

`Respects R x s` says that the run of `x` from the state `s` ends, in a value or in an error, in a
state that `R` relates to `s`.  For a preorder `R` this passes through a program statement by
statement (`respects_bind`); where a program reads the state first, the rules keep the state that
was read (`respects_get`).

`Judged E R x s C` says that this run respects `R` IFF `C`, for a relation `R` that can be judged on
the parts of a run (`Splits`); again this passes through a program (`judged_bind`).
-/

set_option linter.unusedSectionVars false

namespace Lib

theorem ok_of_bind_ok {ε α β : Type} {x : Except ε α} {f : α → Except ε β} {b : β}
    (h : x >>= f = .ok b) : ∃ a, x = .ok a ∧ f a = .ok b := by
  cases x with
  | error e => cases h
  | ok a => exact ⟨a, rfl, h⟩

theorem ok_of_map_ok {ε α β : Type} {x : Except ε α} {f : α → β} {b : β} (h : x.map f = .ok b) :
    ∃ a, x = .ok a ∧ f a = b := by
  cases x with
  | error e => cases h
  | ok a => exact ⟨a, rfl, Except.ok.inj h⟩

def Eff (σ ε α : Type) : Type := σ → σ × Except ε α

namespace Eff

variable {σ ε α β : Type}

instance : Monad (Eff σ ε) where
  pure a := fun s => (s, .ok a)
  bind x f := fun s =>
    match x s with
    | (s', .ok a) => f a s'
    | (s', .error e) => (s', .error e)

def get : Eff σ ε σ := fun s => (s, .ok s)

theorem get_bind (f : σ → Eff σ ε β) (s : σ) : (get >>= f) s = f s s := rfl

theorem bind_of_ok {x : Eff σ ε α} {s s' : σ} {a : α} (h : x s = (s', .ok a))
    (f : α → Eff σ ε β) : (x >>= f) s = f a s' := by
  show (match x s with
    | (s', .ok a) => f a s'
    | (s', .error e) => (s', .error e)) = _
  rw [h]

theorem bind_of_error {x : Eff σ ε α} {s s' : σ} {e : ε} (h : x s = (s', .error e))
    (f : α → Eff σ ε β) : (x >>= f) s = (s', .error e) := by
  show (match x s with
    | (s', .ok a) => f a s'
    | (s', .error e) => (s', .error e)) = _
  rw [h]

def modify (f : σ → σ) : Eff σ ε Unit := fun s => (f s, .ok ())

def fail (e : ε) : Eff σ ε α := fun s => (s, .error e)

/-- a computation that does not touch the state -/
def ofExcept (x : Except ε α) : Eff σ ε α := fun s => (s, x)

def ensure (b : Bool) (e : ε) : Eff σ ε Unit := if b then pure () else fail e

theorem ensure_bind (b : Bool) (e : ε) (f : Unit → Eff σ ε β) (s : σ) :
    (ensure b e >>= f) s = if b then f () s else (s, .error e) := by
  cases b <;> rfl

def Respects (R : σ → σ → Prop) (x : Eff σ ε α) (s : σ) : Prop := R s (x s).1

section
variable {R : σ → σ → Prop} [IsPreorder σ R] {s : σ}

theorem respects_pure (a : α) : Respects R (pure a : Eff σ ε α) s := refl s

theorem respects_fail (e : ε) : Respects R (fail e : Eff σ ε α) s := refl s

theorem respects_ofExcept (x : Except ε α) : Respects R (ofExcept x : Eff σ ε α) s := refl s

theorem respects_ensure (b : Bool) (e : ε) : Respects R (ensure b e) s := by
  unfold ensure
  split
  · exact respects_pure ()
  · exact respects_fail e

theorem respects_bind {x : Eff σ ε α} {f : α → Eff σ ε β} (hx : Respects R x s)
    (hf : ∀ s' a, x s = (s', .ok a) → R s s' → Respects R (f a) s') : Respects R (x >>= f) s := by
  unfold Respects at hx
  show R s (match x s with
    | (s', .ok a) => f a s'
    | (s', .error e) => (s', .error e)).1
  rcases hrun : x s with ⟨s', e | a⟩
  · rw [hrun] at hx
    exact hx
  · rw [hrun] at hx
    exact trans_of R hx (hf s' a hrun hx)

theorem respects_bind_pure {x : Eff σ ε α} {f : α → β} (hx : Respects R x s) :
    Respects R (x >>= fun a => pure (f a)) s := respects_bind hx fun _ _ _ _ => respects_pure _

theorem respects_get {f : σ → Eff σ ε β} (h : Respects R (f s) s) : Respects R (get >>= f) s := h

theorem respects_modify {f : σ → σ} (h : R s (f s)) : Respects R (modify f : Eff σ ε Unit) s := h

end

/-! ## exact conditions -/

/-- a run of two parts that both respect `E` respects `R` only if both do -/
structure Splits (E R : σ → σ → Prop) : Prop where
  sub : ∀ s s', R s s' → E s s'
  left : ∀ s s' s'', E s s' → E s' s'' → R s s'' → R s s'
  right : ∀ s s' s'', E s s' → E s' s'' → R s s'' → R s' s''

/-- the run respects `E`, and `R` on the condition `C` -/
structure Judged (E R : σ → σ → Prop) (x : Eff σ ε α) (s : σ) (C : Prop) : Prop where
  extends_ : Respects E x s
  iff : Respects R x s ↔ C

section
variable {E R : σ → σ → Prop} {x : Eff σ ε α} {f : α → Eff σ ε β} {s : σ} {C C' : Prop}

theorem Judged.congr (h : Judged E R x s C) (hC : C ↔ C') : Judged E R x s C' :=
  ⟨h.extends_, h.iff.trans hC⟩

theorem Splits.judged (hER : Splits E R) (h : Respects R x s) : Judged E R x s True :=
  ⟨hER.sub _ _ h, iff_true_intro h⟩

theorem judged_get {f : σ → Eff σ ε β} (h : Judged E R (f s) s C) : Judged E R (get >>= f) s C :=
  ⟨h.extends_, h.iff⟩

variable [IsPreorder σ E] [IsPreorder σ R]

theorem judged_bind (hER : Splits E R) {D : σ → α → Prop} (hx : Judged E R x s C)
    (hf : ∀ s' a, x s = (s', .ok a) → Judged E R (f a) s' (D s' a)) :
    Judged E R (x >>= f) s (C ∧ ∀ s' a, x s = (s', .ok a) → D s' a) := by
  refine ⟨respects_bind hx.extends_ fun s' a hrun _ => (hf s' a hrun).extends_, ?_⟩
  obtain ⟨hext, hiff⟩ := hx
  rcases hrun : x s with ⟨s', e | a⟩
  · have hbind : Respects R (x >>= f) s ↔ Respects R x s := by
      unfold Respects
      rw [bind_of_error hrun, hrun]
    rw [hbind, hiff]
    exact ⟨fun h => ⟨h, nofun⟩, fun h => h.1⟩
  · obtain ⟨hext', hiff'⟩ := hf s' a hrun
    unfold Respects at *
    rw [hrun] at hext hiff
    rw [bind_of_ok hrun]
    constructor
    · intro h
      refine ⟨hiff.mp (hER.left _ _ _ hext hext' h), ?_⟩
      rintro _ _ ⟨⟩
      exact hiff'.mp (hER.right _ _ _ hext hext' h)
    · rintro ⟨hC, hD⟩
      exact trans_of R (hiff.mpr hC) (hiff'.mpr (hD s' a rfl))

/-- what the first part does is within `R` anyway -/
theorem judged_bind_right (hER : Splits E R) {D : σ → α → Prop} (hx : Respects R x s)
    (hf : ∀ s' a, x s = (s', .ok a) → Judged E R (f a) s' (D s' a)) :
    Judged E R (x >>= f) s (∀ s' a, x s = (s', .ok a) → D s' a) :=
  (judged_bind hER (hER.judged hx) hf).congr (and_iff_right trivial)

/-- what the second part does is within `R` anyway -/
theorem judged_bind_left (hER : Splits E R) (hx : Judged E R x s C)
    (hf : ∀ s' a, x s = (s', .ok a) → Respects R (f a) s') : Judged E R (x >>= f) s C :=
  (judged_bind hER hx fun s' a hrun => hER.judged (hf s' a hrun)).congr
    (and_iff_left fun _ _ _ => trivial)

end

end Eff

end Lib
