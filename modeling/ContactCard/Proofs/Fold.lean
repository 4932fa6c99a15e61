/-!
# Steps and folds that can fail

A computation that ends well has only made steps that end well.  So what every
such step of a fold preserves holds at its end; the statement carries the items
that are done, so that an invariant may speak about them.
-/

namespace ContactCard

variable {α β ε : Type}

theorem bind_eq_ok {x : Except ε α} {f : α → Except ε β} {b : β} :
    (x >>= f) = .ok b ↔ ∃ a, x = .ok a ∧ f a = .ok b := by
  cases x <;> simp [bind, Except.bind]

theorem map_eq_ok {x : Except ε α} {f : α → β} {b : β} :
    (f <$> x) = .ok b ↔ ∃ a, x = .ok a ∧ f a = b := by
  cases x <;> simp [Functor.map, Except.map]

theorem mapError_eq_ok {ε' : Type} {x : Except ε α} {f : ε → ε'} {a : α} :
    x.mapError f = .ok a ↔ x = .ok a := by
  cases x with
  | error cause => exact iff_of_false nofun nofun
  | ok b =>
      have hmap : (.ok b : Except ε α).mapError f = .ok b := rfl
      rw [hmap, Except.ok.injEq, Except.ok.injEq]

theorem mapError_eq_error {ε' : Type} {x : Except ε α} {f : ε → ε'} {e : ε'} :
    x.mapError f = .error e ↔ ∃ cause, x = .error cause ∧ f cause = e := by
  cases x with
  | error cause =>
      have hmap : (.error cause : Except ε α).mapError f = .error (f cause) := rfl
      simp [hmap]
  | ok b => exact iff_of_false nofun (by simp)

/-- What the start satisfies and every successful step preserves holds of the
result of a successful fold. -/
theorem foldlM_ok_induction {f : β → α → Except ε β} {motive : List α → β → Prop} {init : β}
    (hinit : motive [] init)
    (hstep : ∀ done x before after,
      motive done before → f before x = .ok after → motive (done ++ [x]) after)
    {xs : List α} {result : β} (hresult : xs.foldlM f init = .ok result) : motive xs result := by
  have hgeneral : ∀ (todo done : List α) (state : β),
      motive done state → todo.foldlM f state = .ok result → motive (done ++ todo) result := by
    intro todo
    induction todo with
    | nil =>
        intro done state hstate hfold
        cases hfold
        simpa using hstate
    | cons x rest ih =>
        intro done state hstate hfold
        rw [List.foldlM_cons] at hfold
        cases hx : f state x with
        | error e =>
            rw [hx] at hfold
            cases hfold
        | ok next =>
            rw [hx] at hfold
            have hrest := ih (done ++ [x]) next (hstep done x state next hstate hx) hfold
            simpa using hrest
  exact hgeneral xs [] init hinit hresult

/-- A fold whose steps go well under a condition on the item alone, and then make a plain step,
goes well under that condition on all items, and is then a plain fold. -/
theorem foldlM_eq_ok_iff {f : β → α → Except ε β} {P : α → Prop} {g : β → α → β}
    (hf : ∀ state x next, f state x = .ok next ↔ P x ∧ next = g state x) {xs : List α}
    {init result : β} :
    xs.foldlM f init = .ok result ↔ (∀ x ∈ xs, P x) ∧ result = xs.foldl g init := by
  induction xs generalizing init with
  | nil =>
      rw [List.foldlM_nil, List.foldl_nil]
      exact ⟨fun h => ⟨by simp, (Except.ok.inj h).symm⟩, fun h => congrArg Except.ok h.2.symm⟩
  | cons x rest ih =>
      rw [List.foldlM_cons, bind_eq_ok, List.forall_mem_cons, List.foldl_cons, and_assoc]
      constructor
      · rintro ⟨next, hnext, hrest⟩
        obtain ⟨hx, rfl⟩ := (hf init x next).1 hnext
        exact ⟨hx, ih.1 hrest⟩
      · rintro ⟨hx, hrest⟩
        exact ⟨g init x, (hf init x _).2 ⟨hx, rfl⟩, ih.2 hrest⟩

/-- A fold ends as the first step that fails, behind steps that end well. -/
theorem foldlM_eq_error_iff_exists {f : β → α → Except ε β} {e : ε} {xs : List α} {init : β} :
    xs.foldlM f init = .error e ↔
      ∃ before x after state, xs = before ++ x :: after ∧ before.foldlM f init = .ok state ∧
        f state x = .error e := by
  induction xs generalizing init with
  | nil =>
      rw [List.foldlM_nil]
      exact iff_of_false nofun (by simp)
  | cons first rest ih =>
      rw [List.foldlM_cons]
      constructor
      · intro hfold
        cases hfirst : f init first with
        | error other =>
            rw [hfirst] at hfold
            obtain rfl : other = e := Except.error.inj hfold
            exact ⟨[], first, rest, init, rfl, rfl, hfirst⟩
        | ok next =>
            rw [hfirst] at hfold
            obtain ⟨before, x, after, state, rfl, hbefore, hx⟩ := ih.1 hfold
            refine ⟨first :: before, x, after, state, rfl, ?_, hx⟩
            rw [List.foldlM_cons]
            exact bind_eq_ok.2 ⟨next, hfirst, hbefore⟩
      · rintro ⟨before, x, after, state, hxs, hbefore, hx⟩
        cases before with
        | nil =>
            obtain ⟨rfl, -⟩ := List.cons.inj hxs
            obtain rfl : init = state := Except.ok.inj hbefore
            rw [hx]
            rfl
        | cons other before =>
            obtain ⟨rfl, rfl⟩ := List.cons.inj hxs
            rw [List.foldlM_cons] at hbefore
            obtain ⟨next, hfirst, hbefore⟩ := bind_eq_ok.1 hbefore
            rw [hfirst]
            exact ih.2 ⟨before, x, after, state, rfl, hbefore, hx⟩

/-- Such a fold ends as the first item does whose step fails. -/
theorem foldlM_eq_error_iff {f : β → α → Except ε β} {P : α → Prop} {g : β → α → β} {E : α → Prop}
    {e : ε} (hf : ∀ state x next, f state x = .ok next ↔ P x ∧ next = g state x)
    (he : ∀ state x, f state x = .error e ↔ E x) {xs : List α} {init : β} :
    xs.foldlM f init = .error e ↔
      ∃ before x after, xs = before ++ x :: after ∧ (∀ y ∈ before, P y) ∧ E x := by
  rw [foldlM_eq_error_iff_exists]
  constructor
  · rintro ⟨before, x, after, state, hxs, hbefore, hx⟩
    exact ⟨before, x, after, hxs, ((foldlM_eq_ok_iff hf).1 hbefore).1, (he state x).1 hx⟩
  · rintro ⟨before, x, after, hxs, hbefore, hx⟩
    exact ⟨before, x, after, _, hxs, (foldlM_eq_ok_iff hf).2 ⟨hbefore, rfl⟩, (he _ x).2 hx⟩

theorem forall_of_mapM_eq_ok {f : α → Except ε β} {P : β → Prop} {xs : List α}
    (hf : ∀ x ∈ xs, ∀ y, f x = .ok y → P y) {ys : List β} (hys : xs.mapM f = .ok ys) :
    ∀ y ∈ ys, P y := by
  induction xs generalizing ys with
  | nil =>
      rw [List.mapM_nil] at hys
      cases hys
      simp
  | cons x rest ih =>
      rw [List.mapM_cons] at hys
      obtain ⟨y, hy, hys⟩ := bind_eq_ok.1 hys
      obtain ⟨zs, hzs, hys⟩ := bind_eq_ok.1 hys
      cases hys
      obtain ⟨hx, hrest⟩ := List.forall_mem_cons.1 hf
      exact List.forall_mem_cons.2 ⟨hx y hy, ih hrest hzs⟩

theorem mapM_eq_ok_iff {f : α → Except ε β} {P : α → Prop} {g : α → β}
    (hf : ∀ x y, f x = .ok y ↔ P x ∧ y = g x) {xs : List α} {ys : List β} :
    xs.mapM f = .ok ys ↔ (∀ x ∈ xs, P x) ∧ ys = xs.map g := by
  induction xs generalizing ys with
  | nil =>
      rw [List.mapM_nil, List.map_nil]
      exact ⟨fun h => ⟨by simp, (Except.ok.inj h).symm⟩, fun h => congrArg Except.ok h.2.symm⟩
  | cons x rest ih =>
      rw [List.mapM_cons, bind_eq_ok, List.forall_mem_cons, List.map_cons, and_assoc]
      constructor
      · rintro ⟨y, hy, hrest⟩
        obtain ⟨hx, rfl⟩ := (hf x y).1 hy
        obtain ⟨zs, hzs, hys⟩ := bind_eq_ok.1 hrest
        obtain ⟨hall, rfl⟩ := ih.1 hzs
        exact ⟨hx, hall, (Except.ok.inj hys).symm⟩
      · rintro ⟨hx, hrest, rfl⟩
        exact ⟨g x, (hf x _).2 ⟨hx, rfl⟩, bind_eq_ok.2 ⟨_, ih.2 ⟨hrest, rfl⟩, rfl⟩⟩

/-- A fold whose steps all end well is a plain fold. -/
theorem foldlM_eq_ok_foldl {f : β → α → Except ε β} {g : β → α → β} {xs : List α}
    (hstep : ∀ state, ∀ x ∈ xs, f state x = .ok (g state x)) (init : β) :
    xs.foldlM f init = .ok (xs.foldl g init) := by
  induction xs generalizing init with
  | nil => rfl
  | cons x rest ih =>
      have hrest := ih (fun state y hy => hstep state y (List.mem_cons_of_mem _ hy)) (g init x)
      rw [List.foldlM_cons, hstep init x List.mem_cons_self, List.foldl_cons, ← hrest]
      rfl

end ContactCard
