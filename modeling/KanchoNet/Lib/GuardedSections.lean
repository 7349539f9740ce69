import Mathlib.Init

/-!
Code that takes locks, run by one thread while no other thread acts. A lock is a flag
inside the state. Other threads' sections are over before it is taken, so a lock found
held is the thread's own or one left held for good: taking it never returns and the
thread is stuck with the state as it is. A section body runs with the flag set and
clears it after. Code may also use something that no longer exists; its outcome is
undefined.
-/
namespace GuardedSections
variable {σ τ α β : Type}

inductive Outcome (σ α : Type) where
  | done (value : α) (state : σ)
  | stuck (state : σ)
  | undefined

structure Lock (σ : Type) where
  held : σ → Bool
  set : Bool → σ → σ

def Outcome.bind (o : Outcome σ α) (next : α → σ → Outcome σ β) : Outcome σ β :=
  match o with
  | .done a s => next a s
  | .stuck s => .stuck s
  | .undefined => .undefined

def Outcome.within (o : Outcome σ α) (embed : σ → τ) : Outcome τ α :=
  match o with
  | .done a s => .done a (embed s)
  | .stuck s => .stuck (embed s)
  | .undefined => .undefined

/-- The state an outcome leaves to the other threads. -/
def Outcome.leaves : Outcome σ α → Option σ
  | .done _ s => some s
  | .stuck s => some s
  | .undefined => none

def Outcome.returns : Outcome σ α → Bool
  | .done _ _ => true
  | .stuck _ => false
  | .undefined => false

/-- What is recorded after code that returns. -/
def Outcome.followed (o : Outcome σ α) (record : α → σ → List β) : List β :=
  match o with
  | .done a s => record a s
  | .stuck _ => []
  | .undefined => []

def guarded (lock : Lock σ) (body : σ → Outcome σ α) (s : σ) : Outcome σ α :=
  if lock.held s then .stuck s
  else (body (lock.set true s)).bind fun a t => .done a (lock.set false t)

theorem guarded_of_held {lock : Lock σ} {s : σ} (held : lock.held s = true)
    (body : σ → Outcome σ α) : guarded lock body s = .stuck s := by
  rw [guarded, if_pos held]

theorem guarded_of_free {lock : Lock σ} {s : σ} (free : lock.held s = false)
    (body : σ → Outcome σ α) :
    guarded lock body s = (body (lock.set true s)).bind fun a t => .done a (lock.set false t) := by
  rw [guarded, if_neg (by simp [free])]

theorem guarded_done {lock : Lock σ} {s t : σ} {a : α} {body : σ → Outcome σ α}
    (free : lock.held s = false) (run : body (lock.set true s) = .done a t) :
    guarded lock body s = .done a (lock.set false t) := by
  rw [guarded_of_free free, run]
  rfl

theorem forall_done_iff {R : α → σ → Prop} (a : α) (s : σ) :
    (∀ value t, Outcome.done a s = .done value t → R value t) ↔ R a s := by
  constructor
  · exact fun holds => holds a s rfl
  · rintro holds value t ⟨⟩
    exact holds

theorem mem_followed_iff {o : Outcome σ α} {record : α → σ → List β} {x : β} :
    x ∈ o.followed record ↔ ∃ a s, o = .done a s ∧ x ∈ record a s := by
  cases o with
  | done a s =>
    constructor
    · exact fun member => ⟨a, s, rfl, member⟩
    · rintro ⟨_, _, ⟨⟩, member⟩
      exact member
  | stuck s => simp [Outcome.followed]
  | undefined => simp [Outcome.followed]

theorem leaves_bind_done (o : Outcome σ α) (value : β) :
    (o.bind fun _ s => .done value s).leaves = o.leaves := by
  cases o <;> rfl

theorem leaves_within (o : Outcome σ α) (embed : σ → τ) :
    (o.within embed).leaves = o.leaves.map embed := by
  cases o <;> rfl

theorem within_bind {view : σ → τ} {next : α → σ → Outcome σ β} (next' : α → τ → Outcome τ β)
    (seen : ∀ a s, (next a s).within view = next' a (view s)) (o : Outcome σ α) :
    (o.bind next).within view = (o.within view).bind next' := by
  cases o with
  | done a s => exact seen a s
  | stuck s => rfl
  | undefined => rfl

theorem guarded_within {view : σ → τ} {lock : Lock σ} {lock' : Lock τ} {body : σ → Outcome σ α}
    {body' : τ → Outcome τ α} (held : ∀ s, lock.held s = lock'.held (view s))
    (set : ∀ flag s, view (lock.set flag s) = lock'.set flag (view s))
    (seen : ∀ s, (body s).within view = body' (view s)) (s : σ) :
    (guarded lock body s).within view = guarded lock' body' (view s) := by
  unfold guarded
  rw [held s]
  split
  · rfl
  · rw [within_bind (fun a t => .done a (lock'.set false t)), seen, set]
    intro a t
    exact congrArg (Outcome.done a) (set false t)

theorem of_bind_done {o : Outcome σ α} {next : α → σ → Outcome σ β} {b : β} {t : σ}
    (done : o.bind next = .done b t) : ∃ a u, o = .done a u ∧ next a u = .done b t := by
  cases o with
  | done a u => exact ⟨a, u, rfl, done⟩
  | stuck u => cases done
  | undefined => cases done

theorem of_guarded_done {lock : Lock σ} {body : σ → Outcome σ α} {s t : σ} {a : α}
    (done : guarded lock body s = .done a t) :
    ∃ u, body (lock.set true s) = .done a u ∧ t = lock.set false u := by
  unfold guarded at done
  split at done
  · cases done
  · obtain ⟨_, u, ran, released⟩ := of_bind_done done
    cases released
    exact ⟨u, ran, rfl⟩

theorem bind_leaves_cases {o : Outcome σ α} {next : α → σ → Outcome σ β} {t : σ}
    (left : (o.bind next).leaves = some t) :
    (∃ a u, o = .done a u ∧ (next a u).leaves = some t) ∨ o = .stuck t := by
  cases o with
  | done a u => exact Or.inl ⟨a, u, rfl, left⟩
  | stuck u =>
    cases left
    exact Or.inr rfl
  | undefined => cases left

/- What a section leaves: it got stuck before it or in it, or ran and released the lock. -/
theorem guarded_leaves_cases {lock : Lock σ} {body : σ → Outcome σ α} {s t : σ}
    (left : (guarded lock body s).leaves = some t) :
    t = s ∨ (∃ a u, body (lock.set true s) = .done a u ∧ t = lock.set false u) ∨
      body (lock.set true s) = .stuck t := by
  unfold guarded at left
  split at left
  · cases left
    exact Or.inl rfl
  · rcases bind_leaves_cases left with ⟨a, u, run, released⟩ | stuck
    · cases released
      exact Or.inr (Or.inl ⟨a, u, run, rfl⟩)
    · exact Or.inr (Or.inr stuck)

theorem guarded_returns_iff (lock : Lock σ) (body : σ → Outcome σ α) (s : σ) :
    (guarded lock body s).returns = true ↔
      lock.held s = false ∧ (body (lock.set true s)).returns = true := by
  unfold guarded
  split
  · simp_all [Outcome.returns]
  · cases run : body (lock.set true s) <;> simp_all [Outcome.bind, Outcome.returns]

def Outcome.Agree (view : σ → τ) (o o' : Outcome σ α) : Prop := o.within view = o'.within view

section Views
variable {view : σ → τ}

theorem agree_done (value : α) {s t : σ} (alike : view s = view t) :
    Outcome.Agree view (.done value s) (.done value t) :=
  congrArg (Outcome.done value) alike

theorem agree_bind {o o' : Outcome σ α} {next : α → σ → Outcome σ β}
    (first : o.Agree view o') (later : ∀ a s t, view s = view t →
      (next a s).Agree view (next a t)) : (o.bind next).Agree view (o'.bind next) := by
  cases o with
  | done a s =>
    cases o' with
    | done b t =>
      obtain ⟨rfl, alike⟩ := Outcome.done.inj first
      exact later a s t alike
    | stuck t => cases first
    | undefined => cases first
  | stuck s =>
    cases o' with
    | done b t => cases first
    | stuck t => exact congrArg Outcome.stuck (Outcome.stuck.inj first)
    | undefined => cases first
  | undefined =>
    cases o' with
    | done b t => cases first
    | stuck t => cases first
    | undefined => rfl

theorem agree_guarded {lock : Lock σ} {body : σ → Outcome σ α}
    (held : ∀ s t, view s = view t → lock.held s = lock.held t)
    (set : ∀ flag s t, view s = view t → view (lock.set flag s) = view (lock.set flag t))
    (agree : ∀ s t, view s = view t → (body s).Agree view (body t)) {s t : σ}
    (alike : view s = view t) : (guarded lock body s).Agree view (guarded lock body t) := by
  unfold guarded
  rw [held s t alike]
  split
  · exact congrArg Outcome.stuck alike
  · apply agree_bind (agree _ _ (set true s t alike))
    intro a u v alike'
    exact agree_done a (set false u v alike')

end Views

end GuardedSections
