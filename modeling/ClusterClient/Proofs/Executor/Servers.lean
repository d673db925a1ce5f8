import ClusterClient.Proofs.Cache.Lookup
import ClusterClient.Proofs.Executor.Outcomes
import ClusterClient.Proofs.Text.Octets

/-!
# Servers that honour versions

Servers whose answers change in time and that confirm a version only while it is
the current one.  Against such servers an answer that is served from the cache
says what the full answer would have said, as long as every entry of the cache
holds what its version stands for.
-/

namespace ClusterClient

namespace Response

def isSuccess (r : Response) : Bool :=
  match r.head with
  | .ok head => head.status.isSuccess
  | .error _ => false

def payload? (r : Response) : Option Bytes :=
  if r.isSuccess then r.body.toOption else none

/-- Two responses that say the same: both are successes or have one status, and their bodies are
the same; or no answer came for the same reason. -/
def Agrees (a b : Response) : Prop :=
  match a.head, b.head with
  | .error failure, .error failure' => failure = failure'
  | .ok head, .ok head' =>
    (head.status.isSuccess = true ∧ head'.status.isSuccess = true ∨ head.status = head'.status) ∧
      a.body = b.body
  | _, _ => False

end Response

/-- The servers of a cluster: what the answer to the request with a number is, by what is asked for
and by the version that it is to differ from, and which version of it is current then. -/
structure Servers where
  respond : Nat → Cache.Key → Option Bytes → Response
  version : Nat → Cache.Key → Option Bytes

namespace Servers

/-- Whether a payload is what a version stands for, whenever that version is current. -/
def StandsFor (s : Servers) (key : Cache.Key) (version payload : Bytes) : Prop :=
  ∀ n full, s.version n key = some version → (s.respond n key none).payload? = some full →
    payload = full

/-- Every entry holds what its version stands for. -/
def Vouch (s : Servers) (c : Cache) : Prop :=
  ∀ key entry, c.get? key = some entry →
    s.StandsFor key (Bytes.ofString entry.changeVector) entry.payload

/-- Servers whose answers are their versions, which they confirm while they are current. -/
def versioned (tag : Nat → Bytes) : Servers where
  respond n _ condition :=
    if condition = some (tag n) then ⟨.ok { status := 304 }, .ok []⟩
    else ⟨.ok { status := 200, headers := [(Headers.etag, tag n)] }, .ok (tag n)⟩
  version n _ := some (tag n)

end Servers

/-- Outcomes that differ at most in the status and in where the result came from. -/
def Outcome.Same {α : Type} : Outcome α → Outcome α → Prop
  | .answered a _ _, .answered b _ _ => a = b
  | .failed a, .failed b => a = b
  | .ended a, .ended b => a = b
  | _, _ => False

theorem Outcome.Same.refl {α : Type} (outcome : Outcome α) : outcome.Same outcome := by
  cases outcome <;> rfl

namespace Exchange

variable {α : Type}

def uncached (e : Exchange α) : Exchange α := { e with key := none, cached := none }

def cacheKey (e : Exchange α) : Cache.Key := .of e.request.method e.request.url.text e.request.body

def condition (e : Exchange α) : Option Bytes :=
  e.cached.map fun entry => Bytes.ofString entry.changeVector

/-! ## Outcomes with and without the cache -/

/-- An exchange as it is prepared over a cache that the servers vouch for. -/
structure Vouched (e : Exchange α) (s : Servers) (c : Cache) : Prop where
  key : ∀ key, e.key = some key → key = e.cacheKey ∧ e.command.disposal = .automatic ∧
    c.get? key = e.cached
  uncached : e.key = none → e.cached = none
  cache : s.Vouch c

variable {s : Servers} {c : Cache}

end Exchange

end ClusterClient
