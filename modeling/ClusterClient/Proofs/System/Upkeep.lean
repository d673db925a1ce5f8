import ClusterClient.Proofs.Executor.Upkeep
import ClusterClient.Proofs.System.Histories

/-!
# Upkeep of the cache in a system

At each step the cache is told one thing at most, and what that is depends on the
signal that the step is about.  What the calls under way wait for was made for
them, and stands on record.
-/

namespace ClusterClient

variable {α : Type}

namespace System

variable {s : System α} {m : Moment} {action : Action α}

theorem sent_abandon (s : System α) (caller : Caller) :
    (s.abandon caller).executor.sent = s.executor.sent := by
  rw [executor_abandon]

theorem sent_dispose (x : Executor) : x.dispose.sent = x.sent := by
  unfold Executor.dispose
  split <;> rfl

theorem suffix_step (s : System α) (m : Moment) (action : Action α) :
    s.executor.sent <:+ (s.step m action).1.executor.sent := by
  have hhappens := s.happens_step m action
  generalize s.step m action = next at hhappens ⊢
  cases hhappens with
  | @begins _ caller mailbox order =>
    rw [sent_absorb]
    exact ({ s.executor with mailbox } : Executor).suffix_begin m order
  | @goesOn caller signal call =>
    rw [sent_absorb]
    exact s.executor.suffix_advance m signal call
  | abandons caller => exact (s.sent_abandon caller) ▸ List.suffix_rfl
  | disposes _ =>
    have hsent := (sent_dispose _).trans (s.sent_abandon .background)
    exact hsent ▸ List.suffix_rfl
  | opensNothing _ _ | findsNothing _ | disposedAlready _ => exact List.suffix_rfl

/-! ## What calls wait for -/

/-- What the calls under way wait for was made for them. -/
def Fits (s : System α) : Prop := ∀ c call, s.call? c = some call → call.Fits s.executor

theorem Fits.step (h : s.Fits) (m : Moment) (action : Action α) : (s.step m action).1.Fits := by
  intro c call hcall
  rcases call?_step hcall with ⟨-, hold⟩ | ⟨x, order, -, hstep, hbegun⟩ |
    ⟨old, signal, rfl, hold, hstep, hadvanced⟩
  · exact (h c call hold).mono (s.suffix_step m action)
  · rw [hstep]
    exact (x.leavesFitting_begin m order call (Progress.state?_eq_some_iff.mpr hbegun)).mono
      (s.aside_absorb c _).suffix
  · rw [hstep]
    exact (Executor.leavesFitting_advance (h c old hold) m signal call
      (Progress.state?_eq_some_iff.mpr hadvanced)).mono (s.aside_absorb c _).suffix

theorem Fits.after (h : s.Fits) (run : Run α) : (s.after run).Fits := by
  induction run with
  | nil => exact h
  | cons event before ih => exact ih.step event.1 event.2

theorem fits_of_idle (hidle : ∀ c, s.call? c = none) : s.Fits :=
  fun c _ hcall => by cases (hidle c).symm.trans hcall

/-! ## What the cache is told -/

def upkeep? (s : System α) : Action α → Option Cache.Operation
  | .signal caller signal => (s.call? caller).bind (·.upkeep? signal)
  | .dispose => if s.executor.disposed then none else some .clear
  | .begin _ _ | .attend | .tick _ | .abandon _ => none

theorem upkeep?_signal {c : Caller} {call : Call α} (h : s.call? c = some call)
    (signal : Signal) : s.upkeep? (.signal c signal) = call.upkeep? signal := by
  show (s.call? c).bind (·.upkeep? signal) = _
  rw [h]
  rfl

theorem upkeep?_of_opens (h : action.opens = true) : s.upkeep? action = none := by
  cases action with
  | begin _ _ | attend | tick _ => rfl
  | signal _ _ | abandon _ | dispose => cases h

theorem upkeep?_signal_of_none {c : Caller} (h : s.call? c = none) (signal : Signal) :
    s.upkeep? (.signal c signal) = none := by
  show (s.call? c).bind (·.upkeep? signal) = _
  rw [h]
  rfl

theorem cache_abandon (s : System α) (caller : Caller) :
    (s.abandon caller).executor.cache = s.executor.cache := by
  rw [executor_abandon]

theorem disposed_abandon (s : System α) (caller : Caller) :
    (s.abandon caller).executor.disposed = s.executor.disposed := by
  rw [executor_abandon]

theorem cache_dispose (x : Executor) :
    x.dispose.cache = if x.disposed then x.cache else x.cache.clear := by
  unfold Executor.dispose
  split <;> rfl

theorem Fits.cache_step (h : s.Fits) (m : Moment) (action : Action α) :
    (s.step m action).1.executor.cache = s.executor.cache.upkeep m.now (s.upkeep? action) := by
  have hhappens := s.happens_step m action
  generalize s.step m action = next at hhappens ⊢
  cases hhappens with
  | @begins _ caller mailbox order hopens =>
    rw [upkeep?_of_opens hopens, (s.aside_absorb caller _).cache]
    exact Executor.cache_begin _ m order
  | opensNothing hopens =>
    rw [upkeep?_of_opens hopens]
    rfl
  | @goesOn caller signal call hcall =>
    rw [upkeep?_signal hcall, (s.aside_absorb caller _).cache]
    exact Executor.cache_advance (h caller call hcall) m signal
  | findsNothing hidle =>
    rw [upkeep?_signal_of_none hidle]
    rfl
  | abandons caller => exact s.cache_abandon caller
  | disposes hopen =>
    have hcleared : s.upkeep? (.dispose : Action α) = some .clear := by simp [upkeep?, hopen]
    rw [hcleared, cache_dispose, disposed_abandon, hopen, cache_abandon]
    rfl
  | disposedAlready hdisposed =>
    have hnothing : s.upkeep? (.dispose : Action α) = none := by simp [upkeep?, hdisposed]
    rw [hnothing]
    rfl

end System

end ClusterClient
