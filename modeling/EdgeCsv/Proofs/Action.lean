import EdgeCsv.Action

/-!
# Actions one after the other

What an action ends in and which file system it leaves, from those of its parts. What it says on the
way is left out. A property of file systems that the parts keep is kept by the whole (`Keeps`).
-/

namespace EdgeCsv.Action

/-- Results that agree but for their errors. -/
theorem ok_or_error_of_toOption {ε ε' α : Type} {a : Except ε α} {b : Except ε' α}
    (h : a.toOption = b.toOption) :
    (∃ v, a = .ok v ∧ b = .ok v) ∨ ∃ e e', a = .error e ∧ b = .error e' := by
  cases a with
  | ok v =>
    cases b with
    | ok w => cases h; exact .inl ⟨v, rfl, rfl⟩
    | error e => cases h
  | error e =>
    cases b with
    | ok w => cases h
    | error e' => exact .inr ⟨e, e', rfl, rfl⟩

/-- Results that agree but for what `f` makes of their errors. -/
theorem ok_or_error_of_mapError {ε κ α : Type} {f : ε → κ} {a b : Except ε α}
    (h : a.mapError f = b.mapError f) :
    (∃ v, a = .ok v ∧ b = .ok v) ∨ ∃ e e', a = .error e ∧ b = .error e' ∧ f e = f e' := by
  cases a with
  | ok v =>
    cases b with
    | ok w => cases h; exact .inl ⟨v, rfl, rfl⟩
    | error e => cases h
  | error e =>
    cases b with
    | ok w => cases h
    | error e' => exact .inr ⟨e, e', rfl, rfl, Except.error.inj h⟩

variable {ε ε' α β : Type} {act : Action ε α} {next : α → Action ε β} {handle : ε → Action ε' α}
  {fs : FileSystem} {a : α} {e : ε}

theorem bind_of_ok (h : (act.run fs).result = .ok a) :
    ((act >>= next).run fs).result = ((next a).run (act.run fs).files).result ∧
      ((act >>= next).run fs).files = ((next a).run (act.run fs).files).files := by
  simp only [run, bind, Action.bind] at h ⊢
  rw [h]
  exact ⟨rfl, rfl⟩

theorem bind_of_error (h : (act.run fs).result = .error e) :
    ((act >>= next).run fs).result = .error e ∧
      ((act >>= next).run fs).files = (act.run fs).files := by
  simp only [run, bind, Action.bind] at h ⊢
  rw [h]
  exact ⟨rfl, rfl⟩

theorem onError_of_ok (h : (act.run fs).result = .ok a) :
    ((act.onError handle).run fs).result = .ok a ∧
      ((act.onError handle).run fs).files = (act.run fs).files := by
  simp only [run, onError] at h ⊢
  rw [h]
  exact ⟨rfl, rfl⟩

theorem onError_of_error (h : (act.run fs).result = .error e) :
    ((act.onError handle).run fs).result = ((handle e).run (act.run fs).files).result ∧
      ((act.onError handle).run fs).files = ((handle e).run (act.run fs).files).files := by
  simp only [run, onError] at h ⊢
  rw [h]
  exact ⟨rfl, rfl⟩

theorem mapError_eq (f : ε → ε') (act : Action ε α) (fs : FileSystem) :
    ((act.mapError f).run fs).result = (act.run fs).result.mapError f ∧
      ((act.mapError f).run fs).files = (act.run fs).files := by
  unfold mapError
  cases h : (act.run fs).result with
  | ok a => exact onError_of_ok h
  | error e => exact onError_of_error h

theorem mapError_of_ok (f : ε → ε') (h : (act.run fs).result = .ok a) :
    ((act.mapError f).run fs).result = .ok a ∧
      ((act.mapError f).run fs).files = (act.run fs).files :=
  onError_of_ok h

theorem perform_eq (change : FileSystem → Option ε × FileSystem) (fs : FileSystem) :
    ((perform change).run fs).result = (change fs).1.elim (.ok ()) .error ∧
      ((perform change).run fs).files = (change fs).2 := by
  simp only [run, perform]
  rcases change fs with ⟨_ | e, fs'⟩ <;> exact ⟨rfl, rfl⟩

/-- Something said first makes no difference. -/
theorem say_bind (event : Log.Event) (next : Action ε β) (fs : FileSystem) :
    ((say event >>= fun _ => next).run fs).result = (next.run fs).result ∧
      ((say event >>= fun _ => next).run fs).files = (next.run fs).files :=
  ⟨rfl, rfl⟩

/-! ## Properties that are kept -/

/-- The file system still has the property after the action, however that ended. -/
def Keeps (P : FileSystem → Prop) (act : Action ε α) : Prop :=
  ∀ fs, P fs → P (act.run fs).files

namespace Keeps

variable {P : FileSystem → Prop}

theorem pure (a : α) : Keeps P (Pure.pure a : Action ε α) := fun _ h => h

theorem fail (e : ε) : Keeps P (fail e : Action ε α) := fun _ h => h

theorem say (event : Log.Event) : Keeps P (say event : Action ε Unit) := fun _ h => h

theorem ask (look : FileSystem → Except ε α) : Keeps P (ask look) := fun _ h => h

theorem update {change : FileSystem → Except ε (α × FileSystem)}
    (h : ∀ fs a fs', change fs = .ok (a, fs') → P fs → P fs') : Keeps P (update change) := by
  intro fs hfs
  simp only [run, Action.update]
  cases hchange : change fs with
  | error e => exact hfs
  | ok changed => exact h fs changed.1 changed.2 hchange hfs

theorem perform {change : FileSystem → Option ε × FileSystem}
    (h : ∀ fs, P fs → P (change fs).2) : Keeps P (perform change) := by
  intro fs hfs
  rw [(perform_eq change fs).2]
  exact h fs hfs

theorem bind (h : Keeps P act) (hnext : ∀ a, Keeps P (next a)) : Keeps P (act >>= next) := by
  intro fs hfs
  have hfirst := h fs hfs
  cases hresult : (act.run fs).result with
  | error e => rw [(bind_of_error hresult).2]; exact hfirst
  | ok a => rw [(bind_of_ok hresult).2]; exact hnext a _ hfirst

theorem onError (h : Keeps P act) (hhandle : ∀ e, Keeps P (handle e)) :
    Keeps P (act.onError handle) := by
  intro fs hfs
  have hfirst := h fs hfs
  cases hresult : (act.run fs).result with
  | error e => rw [(onError_of_error hresult).2]; exact hhandle e _ hfirst
  | ok a => rw [(onError_of_ok hresult).2]; exact hfirst

theorem mapError (f : ε → ε') (h : Keeps P act) : Keeps P (act.mapError f) :=
  h.onError fun e => fail (f e)

end Keeps

end EdgeCsv.Action
