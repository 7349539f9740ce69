import Mathlib.Logic.Relation

/-!
Runs of a machine whose events are chosen from outside. The step function gives
the state after an event, or none where the event can not happen; a run stops
there. A guard says which steps an environment is held to.
-/
namespace LabelledRuns
variable {σ ε τ : Type}

/-- The states a run goes through, the first one included. -/
def states (step : σ → ε → Option σ) : σ → List ε → List σ
  | s, [] => [s]
  | s, e :: es => s ::
    match step s e with
    | some t => states step t es
    | none => []

/-- The steps a run makes: the state before each, and its event. -/
def steps (step : σ → ε → Option σ) : σ → List ε → List (σ × ε)
  | _, [] => []
  | s, e :: es =>
    match step s e with
    | some t => (s, e) :: steps step t es
    | none => []

theorem mem_states_self (step : σ → ε → Option σ) (s : σ) (es : List ε) :
    s ∈ states step s es := by
  cases es <;> simp [states]

theorem mem_states_next {step : σ → ε → Option σ} {s t u : σ} {e : ε} {es : List ε}
    (next : step s e = some t) (later : u ∈ states step t es) : u ∈ states step s (e :: es) := by
  simp [states, next, later]

theorem mem_states_of_mem_steps {step : σ → ε → Option σ} {s : σ} {es : List ε} {x : σ × ε}
    (member : x ∈ steps step s es) : x.1 ∈ states step s es := by
  induction es generalizing s with
  | nil => cases member
  | cons e es ih =>
    cases next : step s e with
    | none => simp [steps, next] at member
    | some t =>
      simp only [steps, next, List.mem_cons] at member
      rcases member with rfl | later
      · exact mem_states_self step s (e :: es)
      · exact mem_states_next next (ih later)

/-- The state at the end of a run that is not cut short. -/
def run (step : σ → ε → Option σ) : σ → List ε → Option σ
  | s, [] => some s
  | s, e :: es => (step s e).bind fun t => run step t es

theorem mem_states_of_run {step : σ → ε → Option σ} {s t : σ} {es : List ε}
    (ends : run step s es = some t) : t ∈ states step s es := by
  induction es generalizing s with
  | nil =>
    cases ends
    exact mem_states_self step t []
  | cons e es ih =>
    obtain ⟨u, next, rest⟩ := Option.bind_eq_some_iff.mp ends
    exact mem_states_next next (ih rest)

theorem mem_states_append {step : σ → ε → Option σ} {s t u : σ} {es later : List ε}
    (ends : run step s es = some t) (member : u ∈ states step t later) :
    u ∈ states step s (es ++ later) := by
  induction es generalizing s with
  | nil =>
    cases ends
    exact member
  | cons e es ih =>
    obtain ⟨v, next, rest⟩ := Option.bind_eq_some_iff.mp ends
    exact mem_states_next next (ih rest)

theorem forall_steps_cons {step : σ → ε → Option σ} (Good : σ → ε → Prop) {s t : σ} {e : ε}
    {es : List ε} (next : step s e = some t) (first : Good s e)
    (later : ∀ x ∈ steps step t es, Good x.1 x.2) :
    ∀ x ∈ steps step s (e :: es), Good x.1 x.2 := by
  simp only [steps, next, List.mem_cons, forall_eq_or_imp]
  exact ⟨first, later⟩

theorem forall_steps_next {step : σ → ε → Option σ} (Good : σ → ε → Prop) {s : σ} {e : ε}
    {es : List ε} (first : Good s e)
    (later : ∀ t, step s e = some t → ∀ x ∈ steps step t es, Good x.1 x.2) :
    ∀ x ∈ steps step s (e :: es), Good x.1 x.2 := by
  cases next : step s e with
  | none =>
    intro x member
    simp only [steps, next] at member
    cases member
  | some t => exact forall_steps_cons Good next first (later t next)

theorem mem_steps_single {step : σ → ε → Option σ} {s : σ} {e : ε} {x : σ × ε}
    (member : x ∈ steps step s [e]) : x = (s, e) := by
  simp only [steps] at member
  split at member <;> simp_all

section Invariants
variable {step : σ → ε → Option σ} {Inv : σ → Prop} {Good : σ → ε → Prop}

/-- An invariant that every guarded step keeps holds in every state of a run
    whose steps all meet the guard. -/
theorem invariant_of_guarded (kept : ∀ s e t, Inv s → Good s e → step s e = some t → Inv t)
    (es : List ε) (s : σ) (start : Inv s) (good : ∀ x ∈ steps step s es, Good x.1 x.2) :
    ∀ t ∈ states step s es, Inv t := by
  induction es generalizing s with
  | nil =>
    intro t member
    rw [states, List.mem_singleton] at member
    exact member ▸ start
  | cons e es ih =>
    intro t member
    cases next : step s e with
    | none =>
      simp only [states, next, List.mem_singleton] at member
      exact member ▸ start
    | some u =>
      simp only [states, steps, next, List.mem_cons, forall_eq_or_imp] at member good
      rcases member with rfl | member
      · exact start
      · exact ih u (kept s e u start good.1 next) good.2 t member

/-- An invariant that counts some of the events, for runs with a budget of them. -/
theorem invariant_of_budget {counted : ε → Bool} {budget : Nat} {Counting : Nat → σ → Prop}
    (kept : ∀ n s e t, Counting n s → (counted e = true → n < budget) → step s e = some t →
      Counting (n + if counted e then 1 else 0) t)
    (es : List ε) (n : Nat) (s : σ) (start : Counting n s)
    (few : n + es.countP counted ≤ budget) : ∀ t ∈ states step s es, ∃ m, Counting m t := by
  induction es generalizing n s with
  | nil =>
    intro t member
    rw [states, List.mem_singleton] at member
    exact ⟨n, member ▸ start⟩
  | cons e es ih =>
    intro t member
    cases next : step s e with
    | none =>
      simp only [states, next, List.mem_singleton] at member
      exact ⟨n, member ▸ start⟩
    | some u =>
      simp only [states, next, List.mem_cons] at member
      rw [List.countP_cons] at few
      rcases member with rfl | member
      · exact ⟨n, start⟩
      · refine ih _ u (kept n s e u start (fun yes => ?_) next) (by omega) t member
        rw [if_pos yes] at few
        omega

theorem invariant_of_kept (kept : ∀ s e t, Inv s → step s e = some t → Inv t)
    (es : List ε) (s : σ) (start : Inv s) : ∀ t ∈ states step s es, Inv t :=
  @invariant_of_guarded _ _ step Inv (fun _ _ => True) (fun s e t i _ next => kept s e t i next)
    es s start (fun _ _ => trivial)

/-- An invariant that speaks of what the steps so far have recorded. -/
theorem remembered_along {record : σ → ε → τ → Prop} {Inv : (τ → Prop) → σ → Prop}
    (kept : ∀ past s e t, Inv past s → step s e = some t → Inv (fun x => past x ∨ record s e x) t)
    (es : List ε) (past : τ → Prop) {s t : σ} (start : Inv past s) (ends : run step s es = some t) :
    Inv (fun x => past x ∨ ∃ y ∈ steps step s es, record y.1 y.2 x) t := by
  induction es generalizing past s with
  | nil =>
    cases ends
    simpa [steps] using start
  | cons e es ih =>
    obtain ⟨u, next, rest⟩ := Option.bind_eq_some_iff.mp ends
    have later := ih _ (kept past s e u start next) rest
    simpa [steps, next, or_assoc] using later

/-- Work that the counted steps take off, one each, and the others leave. -/
theorem counted_along {counted : ε → Bool} {left : σ → Nat}
    (kept : ∀ s e t, Inv s → step s e = some t → Inv t)
    (falls : ∀ s e t, Inv s → step s e = some t → left t + (counted e).toNat = left s)
    {es : List ε} {s t : σ} (start : Inv s) (ends : run step s es = some t) :
    left t + es.countP counted = left s := by
  induction es generalizing s with
  | nil =>
    cases ends
    rfl
  | cons e es ih =>
    obtain ⟨u, next, rest⟩ := Option.bind_eq_some_iff.mp ends
    have later := ih (kept s e u start next) rest
    have first := falls s e u start next
    rw [List.countP_cons]
    cases here : counted e with
    | true =>
      rw [here, Bool.toNat_true] at first
      simp only [if_true]
      omega
    | false =>
      rw [here, Bool.toNat_false] at first
      simp only [Bool.false_eq_true, if_false]
      omega

/-- A guard is exact when a step outside it breaks the property at once: then the
    property holds all along a run exactly when all its steps meet the guard. -/
theorem holds_along_iff_of_budget {counted : ε → Bool} {budget : Nat} {Counting : Nat → σ → Prop}
    {P : σ → Prop}
    (kept : ∀ n s e t, Counting n s → (counted e = true → n < budget) → Good s e →
      step s e = some t → Counting (n + if counted e then 1 else 0) t)
    (implied : ∀ n s, Counting n s → P s)
    (broken : ∀ n s e t, Counting n s → ¬Good s e → step s e = some t → ¬P t)
    (es : List ε) (n : Nat) (s : σ) (start : Counting n s)
    (few : n + es.countP counted ≤ budget) :
    (∀ t ∈ states step s es, P t) ↔ ∀ x ∈ steps step s es, Good x.1 x.2 := by
  induction es generalizing n s with
  | nil => simp [states, steps, implied n s start]
  | cons e es ih =>
    cases next : step s e with
    | none => simp [states, steps, next, implied n s start]
    | some u =>
      simp only [states, steps, next, List.mem_cons, forall_eq_or_imp]
      rw [List.countP_cons] at few
      have room : counted e = true → n < budget := by
        intro yes
        rw [if_pos yes] at few
        omega
      have onward (good : Good s e) := ih _ u (kept n s e u start room good next) (by omega)
      constructor
      · rintro ⟨_, later⟩
        have good : Good s e := Classical.byContradiction fun bad =>
          broken n s e u start bad next (later u (mem_states_self step u es))
        exact ⟨good, (onward good).mp later⟩
      · rintro ⟨good, later⟩
        exact ⟨implied n s start, (onward good).mpr later⟩

theorem holds_along_iff {P : σ → Prop}
    (kept : ∀ s e t, Inv s → Good s e → step s e = some t → Inv t)
    (implied : ∀ s, Inv s → P s)
    (broken : ∀ s e t, Inv s → ¬Good s e → step s e = some t → ¬P t)
    (es : List ε) (s : σ) (start : Inv s) :
    (∀ t ∈ states step s es, P t) ↔ ∀ x ∈ steps step s es, Good x.1 x.2 :=
  @holds_along_iff_of_budget _ _ step Good (fun _ => true) es.length (fun _ => Inv) P
    (fun _ s e t inv _ => kept s e t inv) (fun _ => implied) (fun _ => broken) es 0 s start
    (by simp)

end Invariants

/-- A step that an abstract machine can match in any number of its own steps lets
    whole runs be matched. -/
theorem run_simulated {step : σ → ε → Option σ} {Abstract : τ → τ → Prop} {Rel : σ → τ → Prop}
    (matched : ∀ s e t a, Rel s a → step s e = some t →
      ∃ b, Relation.ReflTransGen Abstract a b ∧ Rel t b)
    (es : List ε) (s : σ) (a : τ) (start : Rel s a) :
    ∀ t ∈ states step s es, ∃ b, Relation.ReflTransGen Abstract a b ∧ Rel t b := by
  induction es generalizing s a with
  | nil =>
    intro t member
    rw [states, List.mem_singleton] at member
    exact ⟨a, .refl, member ▸ start⟩
  | cons e es ih =>
    intro t member
    cases next : step s e with
    | none =>
      simp only [states, next, List.mem_singleton] at member
      exact ⟨a, .refl, member ▸ start⟩
    | some u =>
      simp only [states, next, List.mem_cons] at member
      rcases member with rfl | member
      · exact ⟨a, .refl, start⟩
      · obtain ⟨b, there, rel⟩ := matched s e u a start next
        obtain ⟨c, onward, rel'⟩ := ih u b rel t member
        exact ⟨c, there.trans onward, rel'⟩

end LabelledRuns
