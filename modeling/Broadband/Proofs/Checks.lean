/-!
# Checks that all have to succeed

Statements about `Except` programs that run one step after the other: such a program succeeds exactly
if every step does, and what it gives back is then put together from what the steps gave back.
-/

namespace Broadband.Checks

variable {ε α β : Type}

/-- Two steps succeed if the first does and the second does with its outcome. -/
theorem bind_eq_ok_iff {x : Except ε α} {f : α → Except ε β} {b : β} :
    x >>= f = .ok b ↔ ∃ a, x = .ok a ∧ f a = .ok b := by
  cases x with
  | error e => simp [bind, Except.bind]
  | ok a => simp [bind, Except.bind]

theorem ok_bind (a : α) (f : α → Except ε β) : (.ok a >>= f) = f a := rfl

theorem pure_eq_ok_iff {a b : α} : (pure a : Except ε α) = .ok b ↔ b = a := by
  simp [pure, Except.pure, eq_comm]

/-- A check succeeds before the rest does. -/
theorem check_bind_eq_ok_iff {x : Except ε Unit} {rest : Except ε β} {b : β} :
    (x >>= fun _ => rest) = .ok b ↔ x = .ok () ∧ rest = .ok b := by
  rw [bind_eq_ok_iff]
  exact ⟨fun ⟨_, h⟩ => h, fun h => ⟨(), h⟩⟩

theorem map_eq_ok_iff {x : Except ε α} {f : α → β} {b : β} :
    x.map f = .ok b ↔ ∃ a, x = .ok a ∧ f a = b := by
  cases x with
  | error e => simp [Except.map]
  | ok a => simp [Except.map]

/-- Two steps have an outcome if the first has one from which the second goes on. -/
theorem exists_bind_iff {x : Except ε α} {f : α → Except ε β} :
    (∃ b, x >>= f = .ok b) ↔ ∃ a, x = .ok a ∧ ∃ b, f a = .ok b := by
  simp only [bind_eq_ok_iff]
  exact ⟨fun ⟨b, a, ha, hb⟩ => ⟨a, ha, b, hb⟩, fun ⟨a, ha, b, hb⟩ => ⟨b, a, ha, hb⟩⟩

theorem exists_map_iff {x : Except ε α} {f : α → β} :
    (∃ b, x.map f = .ok b) ↔ ∃ a, x = .ok a := by
  simp only [map_eq_ok_iff]
  exact ⟨fun ⟨_, a, ha, _⟩ => ⟨a, ha⟩, fun ⟨a, ha⟩ => ⟨_, a, ha, rfl⟩⟩

/-- A program fails exactly if it has no outcome. -/
theorem exists_error_iff {x : Except ε α} : (∃ e, x = .error e) ↔ ¬ ∃ a, x = .ok a := by
  cases x with
  | error e => simp
  | ok a => simp

theorem throw_ne_ok {e : ε} {a : α} : (throw e : Except ε α) ≠ .ok a := by
  simp [throw, throwThe, MonadExceptOf.throw]

/-- A check in front of the rest. What would come after a failure does not matter. -/
theorem ite_throw_eq_ok_iff {p : Prop} [Decidable p] {e : ε} {k : α → Except ε β}
    {rest : Except ε β} {b : β} :
    (if p then throw e >>= k else rest) = .ok b ↔ ¬ p ∧ rest = .ok b := by
  by_cases hp : p
  · simp [hp, bind_eq_ok_iff, throw_ne_ok]
  · simp [hp]

/-- A check of a list succeeds if it does on every element. -/
theorem forM_eq_ok_iff {check : α → Except ε Unit} {xs : List α} :
    xs.forM check = .ok () ↔ ∀ x ∈ xs, check x = .ok () := by
  induction xs with
  | nil => simp [List.forM, pure, Except.pure]
  | cons x xs ih =>
    change (check x >>= fun _ => xs.forM check) = .ok () ↔ _
    rw [check_bind_eq_ok_iff, List.forall_mem_cons, ih]

/-- A list of outcomes takes over what every single outcome has from its input. -/
theorem flatMap_of_mapM {γ : Type} {f : α → Except ε β} {P : β → Prop} {g : β → List γ}
    {k : α → List γ} (h : ∀ x y, f x = .ok y → P y ∧ g y = k x) {xs : List α} {ys : List β}
    (hxs : xs.mapM f = .ok ys) : (∀ y ∈ ys, P y) ∧ ys.flatMap g = xs.flatMap k := by
  induction xs generalizing ys with
  | nil =>
    obtain rfl := pure_eq_ok_iff.1 hxs
    simp
  | cons x xs ih =>
    rw [List.mapM_cons] at hxs
    obtain ⟨y, hy, hrest⟩ := bind_eq_ok_iff.1 hxs
    obtain ⟨zs, hzs, hys⟩ := bind_eq_ok_iff.1 hrest
    obtain rfl := pure_eq_ok_iff.1 hys
    obtain ⟨hP, hg⟩ := h x y hy
    obtain ⟨hPs, hgs⟩ := ih hzs
    exact ⟨List.forall_mem_cons.2 ⟨hP, hPs⟩, by rw [List.flatMap_cons, List.flatMap_cons, hg, hgs]⟩

/-! ## Two programs

Two programs whose outcomes have the same image under some views fail with the same error, or succeed
with outcomes that look alike. -/

section TwoPrograms

variable {α' β' γ δ : Type} {view : α → γ} {view' : α' → γ} {look : β → δ} {look' : β' → δ}

theorem error_or_ok_of_map_eq {x : Except ε α} {x' : Except ε α'} (h : x.map view = x'.map view') :
    (∃ e, x = .error e ∧ x' = .error e) ∨
      ∃ a a', x = .ok a ∧ x' = .ok a' ∧ view a = view' a' := by
  cases x with
  | error e =>
    cases x' with
    | error e' =>
      obtain rfl := Except.error.inj h
      exact .inl ⟨e, rfl, rfl⟩
    | ok a' => exact absurd h (by simp [Except.map])
  | ok a =>
    cases x' with
    | error e' => exact absurd h (by simp [Except.map])
    | ok a' => exact .inr ⟨a, a', rfl, rfl, Except.ok.inj h⟩

/-- Programs that go on from outcomes that look alike. -/
theorem map_bind_congr {x : Except ε α} {x' : Except ε α'} (hx : x.map view = x'.map view')
    {f : α → Except ε β} {f' : α' → Except ε β'}
    (hf : ∀ a a', view a = view' a' → (f a).map look = (f' a').map look') :
    (x >>= f).map look = (x' >>= f').map look' := by
  rcases error_or_ok_of_map_eq hx with ⟨e, rfl, rfl⟩ | ⟨a, a', rfl, rfl, hview⟩
  · rfl
  · exact hf a a' hview

/-- Programs that go on from the same outcome, the one to what the other makes of it, changed. -/
theorem bind_eq_map_bind {x : Except ε α} {f : α → Except ε β} {f' : α → Except ε δ}
    (h : ∀ a, f' a = (f a).map look) : x >>= f' = (x >>= f).map look := by
  cases x with
  | error e => rfl
  | ok a => exact h a

theorem map_map_congr {x : Except ε α} {x' : Except ε α'} (hx : x.map view = x'.map view')
    {f : α → β} {f' : α' → β'} (hf : ∀ a a', view a = view' a' → look (f a) = look' (f' a')) :
    (x.map f).map look = (x'.map f').map look' := by
  change (x >>= fun a => .ok (f a)).map look = (x' >>= fun a' => .ok (f' a')).map look'
  exact map_bind_congr hx fun a a' h => congrArg Except.ok (hf a a' h)

/-- Programs on the elements of a list, before and after these are changed. -/
theorem map_mapM_congr {f : α → Except ε β} {change : α → α}
    (h : ∀ x, (f (change x)).map look = (f x).map look) (xs : List α) :
    ((xs.map change).mapM f).map (List.map look) = (xs.mapM f).map (List.map look) := by
  induction xs with
  | nil => rfl
  | cons x xs ih =>
    rw [List.map_cons, List.mapM_cons, List.mapM_cons]
    refine map_bind_congr (h x) fun y y' hy => map_bind_congr ih fun ys ys' hys => ?_
    change Except.ok _ = Except.ok _
    rw [List.map_cons, List.map_cons, hy, hys]

end TwoPrograms

end Broadband.Checks
