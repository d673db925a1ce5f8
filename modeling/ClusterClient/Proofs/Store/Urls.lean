import ClusterClient.Proofs.Topology.Firsts
import ClusterClient.Proofs.Url.Normal
import ClusterClient.Store.Basic

/-!
# Which urls a store takes

The texts that a store is given pass three checks, one after the other: that there
are any, that all of them are urls, and that these have the scheme that is needed.
The first check that fails decides, and in it the first of the texts that is wrong.
-/

namespace ClusterClient.Store

/-- The urls that the texts are, in order. -/
def Reads (texts : List String) (urls : List Url) : Prop := texts.map Url.parse = urls.map .ok

/-- The first text that is no url, and why it is none. -/
def FirstInvalid (texts : List String) (text : String) (cause : Url.ParseError) : Prop :=
  ∃ before after urls, texts = before ++ text :: after ∧ Reads before urls ∧
    Url.parse text = .error cause

def Suits (scheme : String) (url : Url) : Prop :=
  url.scheme = scheme ∧ (url.scheme = "http" ∨ url.scheme = "https")

/-- The first url that a store whose urls need this scheme cannot have. -/
def FirstUnsuited (scheme : String) (urls : List Url) (url : Url) : Prop :=
  ∃ before after, urls = before ++ url :: after ∧ (∀ other ∈ before, Suits scheme other) ∧
    ¬Suits scheme url

/-- What is to be said of the texts, for a store with a client certificate or without.  The scheme
that is needed is https with one, and else that of the first url. -/
inductive Verdict (texts : List String) (certified : Bool) : Except StoreError (List Url) → Prop
  | missing (nothing : texts = []) : Verdict texts certified (.error .missingUrls)
  | invalid {text : String} {cause : Url.ParseError} (unread : FirstInvalid texts text cause) :
    Verdict texts certified (.error (.invalidUrl text cause))
  | mismatch {first url : Url} {rest : List Url} (reads : Reads texts (first :: rest))
    (unsuited : FirstUnsuited (if certified then "https" else first.scheme) (first :: rest) url) :
    Verdict texts certified (.error (.schemeMismatch url))
  | accepted {first : Url} {rest seeds : List Url} (reads : Reads texts (first :: rest))
    (suit : ∀ url ∈ first :: rest, Suits (if certified then "https" else first.scheme) url)
    (firsts : KeepsFirsts Url.text (first :: rest) seeds) : Verdict texts certified (.ok seeds)

/-! ## Reading the texts -/

variable {texts : List String} {urls : List Url} {url : Url} {scheme : String}

end ClusterClient.Store
