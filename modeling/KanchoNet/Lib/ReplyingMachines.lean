import KanchoNet.Lib.LabelledRuns

/-!
Machines that answer each call with a reply, or stop at one that has no outcome.
Two states are told apart by their replies only; related states whose replies are
the same stay related.
-/
namespace ReplyingMachines
variable {σ τ ε ρ : Type}

def replies (answer : σ → ε → Option (ρ × σ)) : σ → List ε → List ρ
  | _, [] => []
  | s, e :: es =>
    match answer s e with
    | some (r, t) => r :: replies answer t es
    | none => []

def next (answer : σ → ε → Option (ρ × σ)) (s : σ) (e : ε) : Option σ :=
  (answer s e).map Prod.snd

/-- One machine answers a call, and the other gives the same reply or none either. -/
def Matched (Rel : σ → τ → Prop) (a : Option (ρ × σ)) (b : Option (ρ × τ)) : Prop :=
  (a = none ∧ b = none) ∨ ∃ r s t, a = some (r, s) ∧ b = some (r, t) ∧ Rel s t

theorem same_replies {answer : σ → ε → Option (ρ × σ)} {answer' : τ → ε → Option (ρ × τ)}
    {Rel : σ → τ → Prop}
    (matched : ∀ s t e, Rel s t → Matched Rel (answer s e) (answer' t e))
    (es : List ε) (s : σ) (t : τ) (start : Rel s t) :
    replies answer s es = replies answer' t es := by
  induction es generalizing s t with
  | nil => rfl
  | cons e es ih =>
    unfold replies
    rcases matched s t e start with ⟨none, none'⟩ | ⟨r, s', t', some, some', rel⟩
    · rw [none, none']
    · rw [some, some']
      exact congrArg (r :: ·) (ih s' t' rel)

end ReplyingMachines
