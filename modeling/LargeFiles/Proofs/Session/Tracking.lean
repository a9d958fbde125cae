import LargeFiles.Proofs.Session
import Mathlib.Data.List.Forall2

/-!
# Sessions with outcomes alike

`Matches` is about two sessions with the same outcome.  Here the values and the errors of two
sessions need not be the same, but are related: what two services answer that differ in what does
not matter.

* `Tracks.bind`, `Tracks.tryCatch`   the rules for two sessions made of two each;
* `Tracks.mapM`                      a session for each element of a list.
-/

namespace LargeFiles.Session

variable {σ τ ε δ α β ι κ : Type}

/-- Two results of the same kind: related values, or related errors. -/
inductive Results (ok : α → β → Prop) (fail : ε → δ → Prop) : Except ε α → Except δ β → Prop
  | ok {a : α} {b : β} (alike : ok a b) : Results ok fail (.ok a) (.ok b)
  | error {e : ε} {d : δ} (alike : fail e d) : Results ok fail (.error e) (.error d)

/-- Started in related states, the two sessions end in related states, with results of the same
    kind. -/
def Tracks (s : Session σ ε α) (t : Session τ δ β) (rel : σ → τ → Prop) (ok : α → β → Prop)
    (fail : ε → δ → Prop) : Prop :=
  ∀ a b, rel a b →
    Results ok fail (s.outcome a).1 (t.outcome b).1 ∧ rel (s.outcome a).2 (t.outcome b).2

namespace Tracks

variable {rel : σ → τ → Prop} {ok : α → β → Prop} {fail : ε → δ → Prop}

theorem pure {a : α} {b : β} (alike : ok a b) :
    Tracks (Pure.pure a : Session σ ε α) (Pure.pure b : Session τ δ β) rel ok fail :=
  fun _ _ related => ⟨.ok alike, related⟩

/-- Alike errors are tracked. -/
theorem throw {e : ε} {d : δ} (alike : fail e d) :
    Tracks (MonadExcept.throw e : Session σ ε α) (MonadExcept.throw d : Session τ δ β) rel ok
      fail :=
  fun _ _ related => ⟨.error alike, related⟩

/-- One session after another. -/
theorem bind {s : Session σ ε α} {t : Session τ δ β} {f : α → Session σ ε ι}
    {g : β → Session τ δ κ} {ok' : ι → κ → Prop} (hs : Tracks s t rel ok fail)
    (hf : ∀ a b, ok a b → Tracks (f a) (g b) rel ok' fail) :
    Tracks (s >>= f) (t >>= g) rel ok' fail := by
  intro a b related
  obtain ⟨results, after⟩ := hs a b related
  rw [outcome_bind, outcome_bind]
  revert results after
  rcases s.outcome a with ⟨result, a'⟩
  rcases t.outcome b with ⟨result', b'⟩
  rintro (alike | alike) after
  · exact hf _ _ alike a' b' after
  · exact ⟨.error alike, after⟩

/-- Sessions with others to fall back on. -/
theorem tryCatch {s : Session σ ε α} {t : Session τ δ β} {f : ε → Session σ ε α}
    {g : δ → Session τ δ β} (hs : Tracks s t rel ok fail)
    (hf : ∀ e d, fail e d → Tracks (f e) (g d) rel ok fail) :
    Tracks (tryCatch s f) (tryCatch t g) rel ok fail := by
  intro a b related
  obtain ⟨results, after⟩ := hs a b related
  rw [outcome_tryCatch, outcome_tryCatch]
  revert results after
  rcases s.outcome a with ⟨result, a'⟩
  rcases t.outcome b with ⟨result', b'⟩
  rintro (alike | alike) after
  · exact ⟨.ok alike, after⟩
  · exact hf _ _ alike a' b' after

/-- A session for each element of a list, in the order of the list. -/
theorem mapM {f : ι → Session σ ε α} {g : ι → Session τ δ β}
    (hf : ∀ i, Tracks (f i) (g i) rel ok fail) (l : List ι) :
    Tracks (l.mapM f) (l.mapM g) rel (List.Forall₂ ok) fail := by
  induction l with
  | nil => exact pure .nil
  | cons i rest ih =>
    rw [List.mapM_cons, List.mapM_cons]
    exact (hf i).bind fun _ _ first => ih.bind fun _ _ others => pure (.cons first others)

end Tracks

end LargeFiles.Session
