import LayeredConfig.Proofs.Success
import LayeredConfig.Reading

/-!
# Runs of composed readings

What a run of a composed reading shows follows from the runs of its parts.
`Reading.Yields` says with what a run ends; its lemmas take a reading apart step
by step, so nobody has to open `Reading.run` after this module.

Main statements: `run_bind`, the run of a sequence is the sequence of the runs;
`view_foldlM`, `yields_forM` and `error_of_forM`, what a loop does is what its steps do.
-/

namespace LayeredConfig

theorem Run.error_of_andThen {α β : Type} {r : Run α} {next : α → Run β} {f : Failure}
    (failed : (r.andThen next).result = .error f) :
    r.result = .error f ∨ ∃ a, r.result = .ok a ∧ (next a).result = .error f := by
  unfold Run.andThen at failed
  split at failed
  next g first => exact Or.inl (first.trans (congrArg Except.error (Except.error.inj failed)))
  next a first => exact Or.inr ⟨a, first, failed⟩

namespace Reading

variable {α β σ ι γ : Type} {values : String → Option String}

/-! ## Sequences -/

theorem run_andThen (r : Reading α) (next : α → Reading β) (values : String → Option String) :
    (r.andThen next).run values = (r.run values).andThen fun a => (next a).run values := by
  induction r with
  | done a => simp [andThen, run, Run.andThen]
  | fail f => rfl
  | warn w rest ih =>
      simp only [andThen, run, ih]
      cases shape : (rest.run values).result <;> simp [Run.andThen, shape]
  | lookup name branch ih =>
      simp only [andThen, run, ih]
      cases shape : ((branch (values name)).run values).result <;> simp [Run.andThen, shape]

theorem run_bind (r : Reading α) (next : α → Reading β) (values : String → Option String) :
    (r >>= next).run values = (r.run values).andThen fun a => (next a).run values :=
  run_andThen r next values

theorem run_within (stage : Stage) (r : Reading α) (values : String → Option String) :
    (r.within stage).run values = (r.run values).within stage := by
  induction r with
  | done a => rfl
  | fail f => rfl
  | warn w rest ih => simp only [within, run, ih, Run.within]
  | lookup name branch ih => simp only [within, run, ih, Run.within]

theorem andThen_done (r : Reading α) : r.andThen done = r := by
  induction r with
  | done a => rfl
  | fail f => rfl
  | warn w rest ih => rw [andThen, ih]
  | lookup name branch ih =>
      rw [andThen]
      exact congrArg (lookup name) (funext ih)

theorem andThen_andThen (r : Reading α) (next : α → Reading β) (last : β → Reading γ) :
    (r.andThen next).andThen last = r.andThen fun a => (next a).andThen last := by
  induction r with
  | done a => rfl
  | fail f => rfl
  | warn w rest ih => rw [andThen, andThen, andThen, ih]
  | lookup name branch ih =>
      rw [andThen, andThen, andThen]
      exact congrArg (lookup name) (funext ih)

instance : LawfulMonad Reading :=
  LawfulMonad.mk' Reading andThen_done (fun _ _ => rfl) andThen_andThen

/-! ## Results -/

def Yields (values : String → Option String) (r : Reading α) (a : α) : Prop :=
  (r.run values).result = .ok a

theorem Yields.unique {r : Reading α} {a b : α} (first : Yields values r a)
    (second : Yields values r b) : a = b := by
  rw [Yields, first] at second
  exact Except.ok.inj second

@[simp] theorem yields_pure {a b : α} : Yields values (pure a) b ↔ a = b := by
  simp [Yields, pure, run]

@[simp] theorem yields_done {a b : α} : Yields values (done a) b ↔ a = b :=
  yields_pure

@[simp] theorem yields_fail {f : Failure} {a : α} : ¬Yields values (fail f) a := by
  simp [Yields, run]

@[simp] theorem yields_refuse {cause : Cause} {a : α} : ¬Yields values (refuse cause) a :=
  yields_fail

@[simp] theorem yields_bind {r : Reading α} {next : α → Reading β} {b : β} :
    Yields values (r >>= next) b ↔ ∃ a, Yields values r a ∧ Yields values (next a) b := by
  unfold Yields
  rw [run_bind]
  cases shape : (r.run values).result <;> simp [Run.andThen, shape]

theorem result_bind {r : Reading α} {a : α} (first : Yields values r a) (next : α → Reading β) :
    ((r >>= next).run values).result = ((next a).run values).result := by
  rw [run_bind, Run.andThen, show (r.run values).result = .ok a from first]

@[simp] theorem yields_map {f : α → β} {r : Reading α} {b : β} :
    Yields values (f <$> r) b ↔ ∃ a, Yields values r a ∧ f a = b := by
  rw [map_eq_pure_bind, yields_bind]
  simp only [yields_pure]

@[simp] theorem yields_ask {name : String} {v : Option String} :
    Yields values (ask name) v ↔ values name = v := by
  simp [Yields, ask, run]

@[simp] theorem yields_caution {w : Warning} {u : Unit} : Yields values (caution w) u := by
  simp [Yields, caution, run]

@[simp] theorem yields_ofExcept {e : Except Failure α} {a : α} :
    Yields values (ofExcept e) a ↔ e = .ok a := by
  cases e <;> simp [Yields, ofExcept, run]

@[simp] theorem yields_within {stage : Stage} {r : Reading α} {a : α} :
    Yields values (r.within stage) a ↔ Yields values r a := by
  unfold Yields
  rw [run_within]
  exact Success.mapError_eq_ok

/-- Whether a check passes can be computed. -/
instance (values : String → Option String) (check : Reading Unit) :
    Decidable (Yields values check ()) :=
  decidable_of_iff ((check.run values).result.toBool = true) <| by
    unfold Yields
    cases (check.run values).result <;> simp [Except.toBool]

/-! ## Failures -/

/-- Whether a check fails with a failure can be computed. -/
instance (result : Except Failure Unit) (f : Failure) : Decidable (result = .error f) :=
  match result with
  | .ok _ => isFalse nofun
  | .error g => decidable_of_iff (g = f) ⟨congrArg Except.error, Except.error.inj⟩

/-- A sequence that fails does so in its first part or, behind a result of that one, in its
second. -/
theorem error_of_bind {r : Reading α} {next : α → Reading β} {f : Failure}
    (failed : ((r >>= next).run values).result = .error f) :
    (r.run values).result = .error f ∨
      ∃ a, Yields values r a ∧ ((next a).run values).result = .error f := by
  rw [run_bind] at failed
  exact Run.error_of_andThen failed

/-- A failure within a stage names the stage. -/
theorem exists_of_within {stage : Stage} {r : Reading α} {f : Failure}
    (failed : ((r.within stage).run values).result = .error f) :
    ∃ g, f = Failure.within stage g := by
  rw [run_within] at failed
  unfold Run.within at failed
  cases inner : (r.run values).result with
  | ok a =>
      simp only [inner] at failed
      cases failed
  | error g =>
      simp only [inner] at failed
      exact ⟨g, (Except.error.inj failed).symm⟩

/-! ## Loops -/

/-- If every step changes what is seen of a state by a fixed effect, a loop folds the effects. -/
theorem view_foldlM {step : σ → ι → Reading σ} (view : σ → γ) (effect : γ → ι → γ)
    {items : List ι} {s s' : σ}
    (each : ∀ i ∈ items, ∀ t t', Yields values (step t i) t' → view t' = effect (view t) i)
    (loop : Yields values (items.foldlM step s) s') :
    view s' = items.foldl effect (view s) := by
  induction items generalizing s with
  | nil =>
      rw [List.foldlM_nil, yields_pure] at loop
      rw [← loop, List.foldl_nil]
  | cons i rest ih =>
      rw [List.foldlM_cons, yields_bind] at loop
      obtain ⟨t, first, later⟩ := loop
      have fromRest := ih (fun j member => each j (List.mem_cons_of_mem i member)) later
      rw [fromRest, each i List.mem_cons_self s t first, List.foldl_cons]

/-- A loop ends if every step does, whatever state it starts from. -/
theorem exists_of_foldlM {step : σ → ι → Reading σ} {items : List ι}
    (each : ∀ i ∈ items, ∀ t, ∃ t', Yields values (step t i) t') (s : σ) :
    ∃ s', Yields values (items.foldlM step s) s' := by
  induction items generalizing s with
  | nil =>
      refine ⟨s, ?_⟩
      rw [List.foldlM_nil, yields_pure]
  | cons i rest ih =>
      obtain ⟨eachHere, eachRest⟩ := List.forall_mem_cons.mp each
      obtain ⟨t, here⟩ := eachHere s
      obtain ⟨s', later⟩ := ih eachRest t
      refine ⟨s', ?_⟩
      rw [List.foldlM_cons, yields_bind]
      exact ⟨t, here, later⟩

/-- A loop that ends ran every step from some state. -/
theorem exists_step_of_foldlM {step : σ → ι → Reading σ} {items : List ι} {s s' : σ}
    (loop : Yields values (items.foldlM step s) s') {i : ι} (member : i ∈ items) :
    ∃ t t', Yields values (step t i) t' := by
  induction items generalizing s with
  | nil => exact absurd member List.not_mem_nil
  | cons first rest ih =>
      rw [List.foldlM_cons, yields_bind] at loop
      obtain ⟨t, here, later⟩ := loop
      rcases List.mem_cons.mp member with rfl | inRest
      · exact ⟨s, t, here⟩
      · exact ih later inRest

/-- A loop of checks passes if every check does. -/
theorem yields_forM {check : ι → Reading Unit} {items : List ι} :
    Yields values (items.forM check) () ↔ ∀ i ∈ items, Yields values (check i) () := by
  induction items with
  | nil => simp
  | cons i rest ih =>
      rw [List.forM_eq_forM] at ih ⊢
      rw [List.forM_cons, yields_bind, List.forall_mem_cons]
      constructor
      · rintro ⟨_, first, later⟩
        exact ⟨first, ih.mp later⟩
      · rintro ⟨first, later⟩
        exact ⟨(), first, ih.mpr later⟩

/-- A loop of checks fails with the failure of one of them. -/
theorem error_of_forM {check : ι → Reading Unit} {items : List ι} {f : Failure}
    (failed : ((items.forM check).run values).result = .error f) :
    ∃ i ∈ items, ((check i).run values).result = .error f := by
  induction items with
  | nil => cases failed
  | cons i rest ih =>
      rw [List.forM_eq_forM] at ih failed
      rw [List.forM_cons] at failed
      rcases error_of_bind failed with here | ⟨_, _, later⟩
      · exact ⟨i, List.mem_cons_self, here⟩
      · obtain ⟨j, member, here⟩ := ih later
        exact ⟨j, List.mem_cons_of_mem i member, here⟩

/-- A loop over items each of which has a result of its own collects the results. -/
theorem yields_mapM {read : ι → Reading α} {result : ι → α} {items : List ι} {results : List α}
    (each : ∀ i, ∀ a, Yields values (read i) a ↔ result i = a) :
    Yields values (items.mapM read) results ↔ items.map result = results := by
  induction items generalizing results with
  | nil => simp
  | cons i rest ih => simp [List.mapM_cons, each, ih]

/-! ## Two runs -/

section TwoRuns

variable {left right : String → Option String} {α' β' : Type}

/-- If the first parts of two sequences end with corresponding results and the second parts carry
them along, the sequences end with corresponding results. -/
theorem result_bind_map {f : α → α'} {g : β → β'} {r : Reading α'} {r' : Reading α}
    {next : α' → Reading β'} {next' : α → Reading β}
    (first : (r.run left).result = (r'.run right).result.map f)
    (later : ∀ a, ((next (f a)).run left).result = ((next' a).run right).result.map g) :
    ((r >>= next).run left).result = ((r' >>= next').run right).result.map g := by
  rw [run_bind, run_bind]
  unfold Run.andThen
  cases inner : (r'.run right).result with
  | error fault =>
      rw [inner] at first
      simp only [first, Except.map]
  | ok a =>
      rw [inner] at first
      simp only [first, Except.map]
      exact later a

/-- A change of the state that every step carries along is carried along by a loop. -/
theorem result_foldlM_map {f : σ → σ} {step : σ → ι → Reading σ} {items : List ι}
    (each : ∀ i ∈ items, ∀ t,
      ((step (f t) i).run left).result = ((step t i).run right).result.map f) (s : σ) :
    ((items.foldlM step (f s)).run left).result =
      ((items.foldlM step s).run right).result.map f := by
  induction items generalizing s with
  | nil => rfl
  | cons i rest ih =>
      obtain ⟨here, later⟩ := List.forall_mem_cons.mp each
      rw [List.foldlM_cons, List.foldlM_cons]
      exact result_bind_map (here s) (ih later)

theorem map_id_result (result : Except Failure α) : result.map id = result := by
  cases result <;> rfl

end TwoRuns

/-! ## Names that were looked up -/

@[simp] theorem asked_pure {a : α} : ((pure a : Reading α).run values).asked = [] := rfl

@[simp] theorem asked_ofExcept {e : Except Failure α} : ((ofExcept e).run values).asked = [] := by
  cases e <;> rfl

@[simp] theorem asked_within {stage : Stage} {r : Reading α} :
    ((r.within stage).run values).asked = (r.run values).asked := by
  rw [run_within]
  rfl

/-- What a sequence looked up is what its parts looked up. -/
theorem asked_bind {r : Reading α} {a : α} (first : Yields values r a) (next : α → Reading β) :
    ((r >>= next).run values).asked = (r.run values).asked ++ ((next a).run values).asked := by
  rw [run_bind, Run.andThen, show (r.run values).result = .ok a from first]

/-- What a sequence warned of is what its parts warned of. -/
theorem warnings_bind {r : Reading α} {a : α} (first : Yields values r a) (next : α → Reading β) :
    ((r >>= next).run values).warnings =
      (r.run values).warnings ++ ((next a).run values).warnings := by
  rw [run_bind, Run.andThen, show (r.run values).result = .ok a from first]

/-- A sequence whose parts look nothing up looks nothing up. -/
theorem asked_bind_eq_nil {r : Reading α} {next : α → Reading β}
    (first : (r.run values).asked = []) (later : ∀ a, ((next a).run values).asked = []) :
    ((r >>= next).run values).asked = [] := by
  rw [run_bind]
  unfold Run.andThen
  split
  next => exact first
  next a _ => exact List.append_eq_nil_iff.mpr ⟨first, later a⟩

/-- A loop whose steps look nothing up looks nothing up. -/
theorem asked_forM_eq_nil {check : ι → Reading Unit} {items : List ι}
    (each : ∀ i ∈ items, ((check i).run values).asked = []) :
    ((items.forM check).run values).asked = [] := by
  induction items with
  | nil => exact asked_pure
  | cons i rest ih =>
      obtain ⟨here, later⟩ := List.forall_mem_cons.mp each
      rw [List.forM_eq_forM] at ih ⊢
      rw [List.forM_cons]
      exact asked_bind_eq_nil here fun _ => ih later

/-- What the second part looked up counts if the first one ended. -/
theorem mem_asked_next {r : Reading α} {a : α} (first : Yields values r a) {next : α → Reading β}
    {name : String} (member : name ∈ ((next a).run values).asked) :
    name ∈ ((r >>= next).run values).asked := by
  rw [asked_bind first]
  exact List.mem_append_right _ member

/-- What the first part looked up counts, even if the second one never runs. -/
theorem mem_asked_bind {r : Reading α} {name : String} (member : name ∈ (r.run values).asked)
    (next : α → Reading β) : name ∈ ((r >>= next).run values).asked := by
  rw [run_bind]
  unfold Run.andThen
  split
  · exact member
  · exact List.mem_append_left _ member

/-- What one step of a loop always looks up, the loop looked up once it ended. -/
theorem mem_asked_foldlM {step : σ → ι → Reading σ} {items : List ι} {s s' : σ}
    (loop : Yields values (items.foldlM step s) s') {i : ι} (member : i ∈ items) {name : String}
    (each : ∀ t, name ∈ ((step t i).run values).asked) :
    name ∈ ((items.foldlM step s).run values).asked := by
  induction items generalizing s with
  | nil => exact absurd member List.not_mem_nil
  | cons first rest ih =>
      rw [List.foldlM_cons, yields_bind] at loop
      obtain ⟨t, here, later⟩ := loop
      rw [List.foldlM_cons]
      rcases List.mem_cons.mp member with rfl | inRest
      · exact mem_asked_bind (each s) _
      · exact mem_asked_next here (ih later inRest)

end Reading

end LayeredConfig
