import Mathlib.Tactic.Lemma
import TimingBoard.Call

/-!
# Calls in sequence

Whoever uses a board makes one call after the other, whatever becomes of them.  Each call starts
from the state that the one before it left, be it by an answer or by a failure.
-/

namespace TimingBoard.Call

variable {σ ι α β : Type}

/-- A function of the answer changes nothing else. -/
lemma run_map (f : α → β) (call : Call σ α) (s : σ) :
    (f <$> call).run s = ((call.run s).1.map f, (call.run s).2) := by
  change (call >>= fun a => pure (f a)).run s = _
  rw [run_bind]
  rcases call.run s with ⟨_ | _, _⟩ <;> rfl

lemma run_map_snd (f : α → β) (call : Call σ α) (s : σ) :
    ((f <$> call).run s).2 = (call.run s).2 := by
  rw [run_map]

/-- A function of the answer keeps every error. -/
lemma run_map_eq_error {f : α → β} {call : Call σ α} {s : σ} {e : Error} :
    ((f <$> call).run s).1 = .error e ↔ (call.run s).1 = .error e := by
  rw [run_map]
  cases (call.run s).1 <;> simp [Except.map]

/-- Calls one after the other: their results in order, and the state after them. -/
def runAll (perform : ι → Call σ α) : List ι → σ → List (Except Error α) × σ
  | [], s => ([], s)
  | act :: rest, s =>
    let (result, s) := (perform act).run s
    let (results, s) := runAll perform rest s
    (result :: results, s)

variable (perform : ι → Call σ α)

@[simp] lemma runAll_nil (s : σ) : runAll perform [] s = ([], s) := rfl

lemma runAll_cons (act : ι) (rest : List ι) (s : σ) :
    runAll perform (act :: rest) s =
      (((perform act).run s).1 :: (runAll perform rest ((perform act).run s).2).1,
        (runAll perform rest ((perform act).run s).2).2) := rfl

/-- What every call keeps is kept by all of them together. -/
lemma keeps_runAll {P : σ → Prop} (h : ∀ act s, P s → P ((perform act).run s).2)
    (acts : List ι) {s : σ} (hs : P s) : P (runAll perform acts s).2 := by
  induction acts generalizing s with
  | nil => exact hs
  | cons act rest ih => exact ih (h act s hs)

end TimingBoard.Call
