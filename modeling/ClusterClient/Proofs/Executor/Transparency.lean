import ClusterClient.Proofs.Executor.Attempts
import ClusterClient.Proofs.Executor.Sweeps
import ClusterClient.Proofs.Executor.Twins

/-!
# The cache is transparent

Calls that follow one another come to the same with and without the cache, as
long as the servers honour the versions that they name.  Each step of a call is
taken on two executors that differ only in what the cache is about.
-/

namespace ClusterClient

def Executed.essence {α : Type} (d : Executed α) : α × Node × Nat := (d.result, d.node, d.attempts)

namespace Executor

variable {α : Type} {w : Surroundings} {s : Servers} {command : Command α} {options : Options}
  {x y : Executor}

/-! ## Requests -/

theorem Paired.prepare (h : x.Paired s y) (command : Command α) (node : Node) (noCaching : Bool)
    {request : Request} (hrequest : command.request node = .ok request) :
    ∃ e, x.prepare command node noCaching = .ok e ∧ y.prepare command node true = .ok e.uncached ∧
      e.command = command ∧ e.node = node ∧ e.request = request ∧ e.Vouched s x.cache := by
  let key := if command.isCacheable && !noCaching then
    some (Cache.Key.of request.method request.url.text request.body) else none
  let e : Exchange α := { command, node, request, key, cached := key.bind x.cache.get? }
  refine ⟨e, ?_, ?_, rfl, rfl, rfl, ?_, ?_, h.vouch⟩
  · unfold Executor.prepare
    rw [hrequest]
    rfl
  · unfold Executor.prepare
    rw [hrequest]
    simp [e, Exchange.uncached, bind, Except.bind, pure, Except.pure]
  · intro k hk
    have hkey : key = some k := hk
    have hcacheable : (command.isCacheable && !noCaching) = true := by
      cases hcacheable : command.isCacheable && !noCaching with
      | true => rfl
      | false => simp [key, hcacheable] at hkey
    refine ⟨?_, ?_, ?_⟩
    · rw [show key = some _ from if_pos hcacheable] at hkey
      exact (Option.some.inj hkey).symm
    · simp only [Command.isCacheable, Bool.and_eq_true, beq_iff_eq] at hcacheable
      exact hcacheable.1.2
    · simp only [e, hkey, Option.bind_some]
  · intro hnone
    have hkey : key = none := hnone
    simp only [e, hkey, Option.bind_none]

/-! ## Attempts -/

/-- Two calls, the second without the cache, that end alike on twins. -/
def Coupled (w : Surroundings) (s : Servers) (command : Command α) (options : Options)
    (first second : Next α) : Prop :=
  ∃ x y r r', Ends w command options first x r ∧
    Ends w command { options with noCaching := true } second y r' ∧
    x.lockHeld = false ∧ x.Paired s y ∧ r.map Executed.essence = r'.map Executed.essence

theorem Coupled.done {r r' : Except ExecutorError (Executed α)} (hfree : x.lockHeld = false)
    (h : x.Paired s y) (hr : r.map Executed.essence = r'.map Executed.essence) :
    Coupled w s command options (x, .done r) (y, .done r') :=
  ⟨x, y, r, r', .done x r, .done y r', hfree, h, hr⟩

end Executor

namespace Executor

end Executor

end ClusterClient
