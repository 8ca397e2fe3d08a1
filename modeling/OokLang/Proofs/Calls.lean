namespace OokLang

variable {σ τ κ ρ : Type} {answer : σ → κ → ρ × σ} {answer' : τ → κ → ρ × τ}

/-- What something has become after some calls, each of which it answers from where the one before
    it left off. -/
def afterCalls (answer : σ → κ → ρ × σ) (s : σ) (calls : List κ) : σ :=
  calls.foldl (fun s call => (answer s call).2) s

/-- Its replies to the calls, in order. -/
def replies (answer : σ → κ → ρ × σ) : σ → List κ → List ρ
  | _, [] => []
  | s, call :: calls => (answer s call).1 :: replies answer (answer s call).2 calls

/-- What every call keeps, calls keep. -/
theorem afterCalls_keeps {Keeps : σ → Prop}
    (hcall : ∀ s call, Keeps s → Keeps (answer s call).2) {s : σ} (hstart : Keeps s)
    (calls : List κ) : Keeps (afterCalls answer s calls) := by
  induction calls generalizing s with
  | nil => exact hstart
  | cons call calls ih => exact ih (hcall s call hstart)

/-- Two that reply to every call in the same way, and match again after it, do so for all calls. -/
theorem replies_eq {Matches : σ → τ → Prop}
    (hcall : ∀ s t call, Matches s t →
      (answer s call).1 = (answer' t call).1 ∧ Matches (answer s call).2 (answer' t call).2)
    {s : σ} {t : τ} (hstart : Matches s t) (calls : List κ) :
    replies answer s calls = replies answer' t calls ∧
      Matches (afterCalls answer s calls) (afterCalls answer' t calls) := by
  induction calls generalizing s t with
  | nil => exact ⟨rfl, hstart⟩
  | cons call calls ih =>
    obtain ⟨hreply, hafter⟩ := hcall s t call hstart
    obtain ⟨hreplies, hmatches⟩ := ih hafter
    refine ⟨?_, hmatches⟩
    rw [replies, replies, hreply, hreplies]

end OokLang
